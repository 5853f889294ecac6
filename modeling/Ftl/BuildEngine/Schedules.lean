import Ftl.BuildEngine.Completion
import Ftl.BuildEngine.Channels
/-!
# The build engine — the schedules of a group

The workers of a group run concurrently: each may read `moduleMetas`
with or without the start times the others store, and their schemas and
errors reach the channels in any order. `buildWithCallback_matches_seq`
says that none of this changes what a run does when the compiler names
each schema after its module: every concurrent run ends as the
sequential one does, with the same schema under each name in
`builtModules`, the same compiles, callbacks and errors, and the same
result up to the order of the errors it joins. Without the naming, two
workers of a group can send schemas of one name, and which of them
`builtModules` keeps depends on which arrived last
(`same_name_schemas_race`).

The relation between the two runs is `RunState.Equiv`. A worker reads
the state only through what `Equiv` keeps (`tryBuild_congr`), so a group
has the same outcomes in both runs, and only the merge order is left.
-/


namespace Ftl

namespace BuildEngine

/-- Two states of a run that agree on everything a later group reads and
everything the contract compares: `moduleMetas`, the schema under each
name in `builtModules`, and the errors and invocations, in any order. -/
structure RunState.Equiv (st₁ st₂ : RunState) : Prop where
  moduleMetas : st₁.moduleMetas = st₂.moduleMetas
  builtModules : ∀ k, st₁.builtModules.lookup k = st₂.builtModules.lookup k
  errCh : st₁.errCh.Perm st₂.errCh
  trace : st₁.trace.Perm st₂.trace

theorem RunState.Equiv.refl (st : RunState) : st.Equiv st :=
  ⟨rfl, fun _ => rfl, .refl _, .refl _⟩

/-- What `buildWithCallback` returns from two equivalent states: the same,
or `errors.Join` of the same errors in another order. -/
theorem RunState.result_equiv {st₁ st₂ : RunState} (h : st₁.errCh.Perm st₂.errCh) :
    st₁.result = st₂.result ∨ ∃ errs errs', errs.Perm errs' ∧ st₁.result = .error (.join errs) ∧
      st₂.result = .error (.join errs') := by
  unfold RunState.result
  rcases h₁ : st₁.errCh with _ | ⟨x, xs⟩ <;> rcases h₂ : st₂.errCh with _ | ⟨y, ys⟩ <;>
    rw [h₁, h₂] at h
  · exact .inl rfl
  · exact absurd h.length_eq (by simp)
  · exact absurd h.length_eq (by simp)
  · exact .inr ⟨_, _, h, rfl, rfl⟩

private theorem eq_of_mem_of_length_le_one {α : Type} {l : List α} (h : l.length ≤ 1) {a b : α}
    (ha : a ∈ l) (hb : b ∈ l) : a = b := by
  rcases l with _ | ⟨x, _ | ⟨y, l⟩⟩
  · cases ha
  · exact (List.mem_singleton.1 ha).trans (List.mem_singleton.1 hb).symm
  · simp at h

namespace RunCtx

variable {r : RunCtx}

/-- The start times a group's workers store change no module. -/
theorem GroupRun.sameModules {group : List String} {st st' : RunState}
    (hg : r.GroupRun group st st') : SameModules st'.moduleMetas st.moduleMetas := by
  obtain ⟨outs, hall, -, -, -, -, -, -, rfl⟩ := hg
  exact stamps_same (fun ⟨_, hv, hw⟩ h => (hv _).symm.trans (tryBuild_stamp hw h)) hall (.refl _)

/-- A group's workers, run one after another on a state with the same
modules and the same schemas, return what they returned concurrently. -/
theorem runSeq_of_views {built built' : GoMap SchemaModule} (hb : ∀ k, built'.lookup k = built.lookup k)
    {metas₀ : GoMap ModuleMeta} {group : List String} {outs : List Outcome}
    (h : List.Forall₂ (fun m o => ∃ view, SameModules view metas₀ ∧ r.worker view built m = some o)
      group outs) :
    ∀ {metas : GoMap ModuleMeta}, SameModules metas metas₀ → r.runSeq built' group metas = some outs := by
  induction h with
  | nil => intro _ _; rfl
  | @cons m o _ _ hmo _ ih =>
    intro metas hmetas
    obtain ⟨view, hview, hw⟩ := hmo
    have ho : r.worker metas built' m = some o :=
      (tryBuild_congr (hmetas.trans hview.symm) hb).trans hw
    simp only [runSeq, ho, Option.some_bind,
      ih ((stampIn_same fun _ => tryBuild_stamp ho).trans hmetas), Option.map_some']

variable (hc : ∀ {k : String} {s : SchemaModule}, r.controllerSchema.lookup k = some s → s.name = k)
  (henv : r.env.NamesSchemas)
include hc henv

/-- **One group, concurrent, and the same group run sequentially from an
equivalent state, end in equivalent states.** -/
theorem GroupRun.equiv_seq {group : List String} {st₁ st₁' st₂ : RunState}
    (hg : r.GroupRun group st₁ st₁') (hn : MetasNamed st₁.moduleMetas) (heq : st₁.Equiv st₂) :
    ∃ st₂', r.groupSeq group st₂ = some st₂' ∧ st₁'.Equiv st₂' := by
  obtain ⟨outs, hall, sent, errs, trace, hsent, herrs, htrace, rfl⟩ := hg
  have hseq : r.runSeq st₂.builtModules group st₂.moduleMetas = some outs :=
    runSeq_of_views (fun k => (heq.builtModules k).symm) hall (heq.moduleMetas ▸ .refl _)
  refine ⟨st₂.afterGroup group outs (outs.flatMap (·.sent)) (outs.filterMap (·.error?))
    (outs.flatMap (·.trace)), by simp only [groupSeq, hseq, Option.map_some'],
    by simp only [RunState.afterGroup, heq.moduleMetas], merge_perm hsent ?_ heq.builtModules,
    heq.errCh.append herrs, heq.trace.append htrace⟩
  -- schemas of one name come from workers of one module, which send the same schema
  intro s hs s' hs' hname
  obtain ⟨o, ho, hso⟩ := List.mem_flatMap.1 (hsent.subset hs)
  obtain ⟨o', ho', hso'⟩ := List.mem_flatMap.1 (hsent.subset hs')
  obtain ⟨m, -, view, hview, hw⟩ := exists_mem_of_forall₂ hall.flip ho
  obtain ⟨m', -, view', hview', hw'⟩ := exists_mem_of_forall₂ hall.flip ho'
  have hm : m = m' := by
    rw [← tryBuild_sent_name (hview.metasNamed hn) hc henv hw s hso,
      ← tryBuild_sent_name (hview'.metasNamed hn) hc henv hw' s' hso', hname]
  subst hm
  have hoo : o = o' :=
    Option.some.inj (hw.symm.trans ((tryBuild_congr (hview.trans hview'.symm) fun _ => rfl).trans hw'))
  subst hoo
  exact eq_of_mem_of_length_le_one (tryBuild_sent_length hw) hso hso'

/-- **The groups, concurrent, end as they do run sequentially.** -/
theorem GroupsRun.equiv_seq {groups : List (List String)} {st₁ st₁' : RunState}
    (hgroups : r.GroupsRun groups st₁ st₁') :
    ∀ {st₂ : RunState}, MetasNamed st₁.moduleMetas → st₁.Equiv st₂ →
      ∃ st₂', r.groupsSeq groups st₂ = some st₂' ∧ st₁'.Equiv st₂' := by
  induction hgroups with
  | nil => exact fun _ heq => ⟨_, rfl, heq⟩
  | cons hg _ ih =>
    intro st₂ hn heq
    obtain ⟨st₂', h₂, heq'⟩ := hg.equiv_seq hc henv hn heq
    obtain ⟨st₂'', h₃, heq''⟩ := ih (hg.sameModules.metasNamed hn) heq'
    exact ⟨st₂'', by simp only [groupsSeq, h₂, Option.some_bind, h₃], heq''⟩

end RunCtx

/-- **Every concurrent run of `buildWithCallback` ends as the sequential
run does**, when the compiler names each schema after its module: the
same result, up to the order of the errors it joins, and an equivalent
state, with the same schema under each name in `builtModules` and the
same errors, compiles and callbacks. -/
theorem buildWithCallback_matches_seq {env : Env} {callback : Option (Module → Except Error Unit)}
    {e : Engine} {moduleNames : List String} {result : Except Error Unit} {st : RunState}
    (henv : env.NamesSchemas) (hrun : BuildRun env callback e moduleNames result st) :
    ∃ result' st', buildWithCallbackSeq env callback e moduleNames = some (result', st') ∧
      (result = result' ∨ ∃ errs errs', errs.Perm errs' ∧ result = .error (.join errs) ∧
        result' = .error (.join errs')) ∧
      st.Equiv st' := by
  unfold BuildRun at hrun
  unfold buildWithCallbackSeq
  dsimp only at hrun ⊢
  -- before the groups, both runs stop at the same error
  rcases h₁ : (refreshModules env (e.graphRoots moduleNames) e).2 with _ | err <;>
    simp only [h₁] at hrun ⊢
  swap
  · obtain ⟨rfl, rfl⟩ := hrun
    exact ⟨_, _, rfl, .inl rfl, .refl _⟩
  rcases h₂ : ((refreshModules env (e.graphRoots moduleNames) e).1.graph (e.graphRoots moduleNames)).run
    with _ | (err | graph) <;> simp only [h₂] at hrun ⊢
  · obtain ⟨rfl, rfl⟩ := hrun
    exact ⟨_, _, rfl, .inl rfl, .refl _⟩
  rcases h₃ : env.topologicalSort graph with err | topology <;> simp only [h₃] at hrun ⊢
  · obtain ⟨rfl, rfl⟩ := hrun
    exact ⟨_, _, rfl, .inl rfl, .refl _⟩
  -- the groups end in equivalent states
  obtain ⟨hgroups, rfl⟩ := hrun
  obtain ⟨st', hseq, heq⟩ := hgroups.equiv_seq (fun h => Engine.controller_named _ h) henv
    (Engine.metasNamed _) (.refl _)
  exact ⟨_, _, by simp only [hseq, Option.map_some'], RunState.result_equiv heq.errCh, heq⟩

/-- `failingEnv` names each schema after its module. -/
theorem failingEnv_namesSchemas : failingEnv.NamesSchemas := fun h => by cases h; rfl

/-- Two independent modules `a` and `b` share one group, and both fail to
compile: every concurrent run of the two workers ends as the sequential
run does, up to the order of the two errors. -/
theorem failing_pair_matches_seq :
    failingEnv.NamesSchemas ∧
    ∃ result st, BuildRun failingEnv none (independent ["a", "b"]) ["a", "b"] result st ∧
      ∃ result' st', buildWithCallbackSeq failingEnv none (independent ["a", "b"]) ["a", "b"] =
        some (result', st') ∧
        (result = result' ∨ ∃ errs errs', errs.Perm errs' ∧ result = .error (.join errs) ∧
          result' = .error (.join errs')) ∧ st.Equiv st' := by
  obtain ⟨result, st, hrun⟩ : ∃ result st,
      BuildRun failingEnv none (independent ["a", "b"]) ["a", "b"] result st :=
    (independent_errCh (by decide) (by decide)).1
  exact ⟨failingEnv_namesSchemas, result, st, hrun,
    buildWithCallback_matches_seq failingEnv_namesSchemas hrun⟩

/-! ## Two schemas of one name -/

/-- `a` and `b`, two local modules with no dependencies. -/
def twoEngine : Engine := .ofModules [⟨"a", []⟩, ⟨"b", []⟩] []

/-- The graph of every local module of `twoEngine`, as `Graph` enters it. -/
def twoGraph : Graph := ((∅ : Graph).insert "b" []).insert "a" []

/-- A compiler that writes every schema under the name `x`. -/
def sameNameEnv : Env :=
  { chainEnv twoGraph [["a", "b"]] [] with moduleFromProtoFile := fun m => .ok ⟨"x", [], m.name⟩ }

/-- **Without the naming, the schedule decides what `builtModules` keeps.**
`a` and `b` share a group and both write a schema named `x`; run one
after the other, `b`'s arrives last and stays, while in the concurrent
run where `a`'s arrives last, `a`'s stays. -/
theorem same_name_schemas_race :
    ∃ st, BuildRun sameNameEnv none twoEngine [] (.ok ()) st ∧
      st.builtModules.lookup "x" = some ⟨"x", [], "a"⟩ ∧
      (buildWithCallbackSeq sameNameEnv none twoEngine []).map (·.2.builtModules.lookup "x") =
        some (some ⟨"x", [], "b"⟩) := by
  have h₁ : (refreshModules sameNameEnv (twoEngine.graphRoots []) twoEngine).2 = none := rfl
  have h₂ : ((refreshModules sameNameEnv (twoEngine.graphRoots []) twoEngine).1.graph
      (twoEngine.graphRoots [])).run = some (.ok twoGraph) := rfl
  have h₃ : sameNameEnv.topologicalSort twoGraph = .ok [["a", "b"]] := rfl
  let e' := (refreshModules sameNameEnv (twoEngine.graphRoots []) twoEngine).1
  let r : RunCtx := ⟨sameNameEnv, none, twoEngine.graphRoots [], e'.controllerSchema⟩
  let st₀ := RunState.initial e' sameNameEnv
  have hcheck : (r.runSeq st₀.builtModules ["a", "b"] st₀.moduleMetas).map (fun outs =>
      decide ((merge st₀.builtModules (outs.flatMap (·.sent)).reverse).lookup "x" =
        some ⟨"x", [], "a"⟩) && (outs.filterMap (·.error?)).isEmpty) = some true := by
    decide
  obtain ⟨outs, houts, hf⟩ := Option.map_eq_some'.1 hcheck
  obtain ⟨hx, herr⟩ := Bool.and_eq_true_iff.1 hf
  refine ⟨st₀.afterGroup ["a", "b"] outs (outs.flatMap (·.sent)).reverse (outs.filterMap (·.error?))
    (outs.flatMap (·.trace)), ?_, of_decide_eq_true hx, by decide⟩
  simp only [BuildRun, h₁, h₂, h₃]
  refine ⟨.cons ⟨outs, r.runSeq_views houts, _, _, _, List.reverse_perm _, .refl _, .refl _, rfl⟩
    (.nil _), ?_⟩
  simp [RunState.result, RunState.afterGroup, st₀, RunState.initial, List.isEmpty_iff.1 herr]

end BuildEngine

end Ftl
