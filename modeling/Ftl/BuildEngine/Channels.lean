import Ftl.BuildEngine.Run
/-!
# The build engine — the channels of `buildWithCallback`

A run has two kinds of buffered channel: each group's `schemas`, of
capacity `len(group)`, drained once the group is done, and `errCh`, of
capacity 1024, drained only after the last group. A send on a full
channel waits for a receiver, and until its group's `Wait` returns there
is none, so such a send blocks forever (`sendAll`).

A worker sends at most one schema and at most one error, so a group's
schema sends always fit its channel (`schemas_fit`), and `errCh` holds at
most one error per worker of the run (`GroupsRun.errCh_length_le`): with
at most 1024 workers every send finds space (`GroupsRun.errCh_fits`, and
the two together in `RunCtx.sends_fit`).
With more, it need not: on independent modules that all fail to compile,
every run sends one error per module (`independent_errCh`), and with 1025
of them the last send finds `errCh` full (`errCh_blocks_past_capacity`).
-/

namespace Ftl

namespace BuildEngine

/-! ## A channel nothing receives from -/

/-- `make(chan error, 1024)`. -/
def errChCapacity : Nat := 1024

/-- Sends, in order, on a buffered channel holding `buf` that nothing
receives from: each takes a free slot, and one that finds none blocks
forever (`none`). -/
def sendAll {α : Type} (capacity : Nat) : List α → List α → Option (List α)
  | buf, [] => some buf
  | buf, x :: xs => if buf.length < capacity then sendAll capacity (buf ++ [x]) xs else none

/-- **Every send finds space exactly when they all fit.** -/
theorem sendAll_eq {α : Type} {capacity : Nat} :
    ∀ {buf xs : List α}, buf.length ≤ capacity →
      sendAll capacity buf xs = if buf.length + xs.length ≤ capacity then some (buf ++ xs) else none
  | buf, [], h => by simp [sendAll, h]
  | buf, x :: xs, h => by
    rw [sendAll]
    by_cases hlt : buf.length < capacity
    · rw [if_pos hlt, sendAll_eq (by simpa using hlt)]
      have hlen : (buf ++ [x]).length + xs.length = buf.length + (x :: xs).length := by
        simp only [List.length_append, List.length_cons, List.length_nil]
        omega
      rw [hlen, List.append_assoc, List.singleton_append]
    · rw [if_neg hlt, if_neg (by simp only [List.length_cons]; omega)]

theorem sendAll_nil_eq_some {α : Type} {capacity : Nat} {xs : List α} (h : xs.length ≤ capacity) :
    sendAll capacity [] xs = some xs := by
  simp [@sendAll_eq α capacity [] xs (Nat.zero_le _), h]

theorem sendAll_nil_eq_none {α : Type} {capacity : Nat} {xs : List α} (h : capacity < xs.length) :
    sendAll capacity [] xs = none := by
  simp [@sendAll_eq α capacity [] xs (Nat.zero_le _), Nat.not_le.2 h]

/-! ## What a group sends -/

namespace RunCtx

variable {r : RunCtx} {group : List String} {st : RunState} {outs : List Outcome}

/-- The workers of a group, as `GroupRun` has them. -/
abbrev Workers (r : RunCtx) (group : List String) (st : RunState) (outs : List Outcome) : Prop :=
  List.Forall₂ (fun m o => ∃ view, SameModules view st.moduleMetas ∧
    r.worker view st.builtModules m = some o) group outs

theorem sent_length_le (hw : Workers r group st outs) :
    (outs.flatMap (·.sent)).length ≤ group.length := by
  induction hw with
  | nil => simp
  | cons h _ ih =>
    obtain ⟨_, _, ho⟩ := h
    simp only [List.flatMap_cons, List.length_append, List.length_cons]
    have := tryBuild_sent_length ho
    omega

theorem errors_length_le (hw : Workers r group st outs) :
    (outs.filterMap (·.error?)).length ≤ group.length :=
  hw.length_eq ▸ List.length_filterMap_le _ _

/-- **A group's schema channel never fills**: whatever its workers did,
and in whatever order their schemas reached it, every send finds space
in its `len(group)` slots. -/
theorem schemas_fit {sent : List SchemaModule} (hw : Workers r group st outs)
    (hsent : sent.Perm (outs.flatMap (·.sent))) : sendAll group.length [] sent = some sent :=
  sendAll_nil_eq_some (hsent.length_eq ▸ sent_length_le hw)

/-- A group adds at most one error per worker to `errCh`. -/
theorem GroupRun.errCh_length_le {st' : RunState} (h : r.GroupRun group st st') :
    st'.errCh.length ≤ st.errCh.length + group.length := by
  obtain ⟨outs, hw, sent, errs, trace, -, herrs, -, rfl⟩ := h
  simp only [RunState.afterGroup, List.length_append, herrs.length_eq]
  have := errors_length_le hw
  omega

/-- **`errCh` holds at most one error per worker of the run.** -/
theorem GroupsRun.errCh_length_le {groups : List (List String)} {st st' : RunState}
    (h : r.GroupsRun groups st st') : st'.errCh.length ≤ st.errCh.length + groups.flatten.length := by
  induction h with
  | nil => simp
  | cons hg _ ih =>
    have := hg.errCh_length_le
    simp only [List.flatten_cons, List.length_append]
    omega

/-- **On a run of at most 1024 workers, every send on `errCh` finds
space**: nothing receives from it before the last group, and the errors
sent, in the order they were sent, fit its buffer. -/
theorem GroupsRun.errCh_fits {groups : List (List String)} {st st' : RunState}
    (h : r.GroupsRun groups st st') (hnil : st.errCh = []) (hsmall : groups.flatten.length ≤ errChCapacity) :
    sendAll errChCapacity [] st'.errCh = some st'.errCh :=
  sendAll_nil_eq_some (by have := h.errCh_length_le; simp only [hnil, List.length_nil] at this; omega)

/-- **No send of the loop over the groups blocks while the run has at most
1024 workers.** In every context of a run, whatever a group's workers did
and in whatever order their schemas arrive, the schemas fit the group's
channel; and over the groups, from an empty `errCh`, `errCh` receives at
most one error per worker, so that with at most 1024 workers every send
on it finds space. -/
theorem sends_fit (ctx : RunCtx) :
    (∀ group st outs (sent : List SchemaModule), ctx.Workers group st outs →
      sent.Perm (outs.flatMap (·.sent)) → sendAll group.length [] sent = some sent) ∧
    ∀ groups st st', ctx.GroupsRun groups st st' → st.errCh = [] →
      st'.errCh.length ≤ groups.flatten.length ∧
      (groups.flatten.length ≤ errChCapacity → sendAll errChCapacity [] st'.errCh = some st'.errCh) :=
  ⟨fun _ _ _ _ hw hsent => schemas_fit hw hsent, fun _ _ _ h hnil =>
    ⟨by simpa [hnil] using h.errCh_length_le, h.errCh_fits hnil⟩⟩

end RunCtx

/-! ## A worker whose compile fails -/

section Worker

variable {env : Env} {callback : Option (Module → Except Error Unit)} {mustBuild : List String}
  {m : GoMap ModuleMeta} {c b : GoMap SchemaModule} {k : String} {module : Module}

/-- **A requested module whose dependencies are built sends an error on
`errCh` when `Build` fails on it.** -/
theorem tryBuild_error_of_build_error {o : Outcome} (hk : k ∈ mustBuild)
    (hl : localModule m k = some module) (hdeps : ∀ d ∈ module.dependencies, d ∈ b)
    (hfail : ∀ sch, ∃ ce, env.build sch module = .error ce)
    (h : tryBuild env callback mustBuild m c b k = some o) : o.error?.isSome := by
  rcases tryBuild_eq_some h with ⟨hk', -⟩ | ⟨-, hl', -⟩ | ⟨-, _, hl', ⟨d, hd, hdb⟩, -⟩ |
    ⟨-, _, o', hl', -, hb, rfl⟩
  · exact absurd hk hk'
  · simp [hl] at hl'
  · cases hl.symm.trans hl'
    exact absurd (hdeps d hd) hdb
  · cases hl.symm.trans hl'
    rcases build_eq_some hb with ⟨hnone, -⟩ | ⟨_, combined, hl'', -, rfl⟩
    · simp at hnone
    · cases (localModule_insert_self _).symm.trans hl''
      obtain ⟨ce, hce⟩ := hfail (combined.entries.map (·.2))
      have hres := compile_result_of_build_error hce
      rw [afterBuild_of_not_ok (by rw [hres]; exact Except.noConfusion)]
      simp [Outcome.error?, hres]

/-- A requested module with no dependency is built, whatever the compiler
does: its worker returns. -/
theorem tryBuild_isSome_of_leaf (hk : k ∈ mustBuild) (hl : localModule m k = some module)
    (hname : module.name = k) (hnil : module.dependencies = []) :
    (tryBuild env callback mustBuild m c b k).isSome := by
  simp [tryBuild, hk, hl, hnil, build, gatherSchemas, hname]

end Worker

/-- A relation that relates every element of a list to something relates
the list to a list. -/
theorem exists_forall₂ {α β : Type} {R : α → β → Prop} :
    ∀ {l : List α}, (∀ a ∈ l, ∃ b, R a b) → ∃ l', List.Forall₂ R l l'
  | [], _ => ⟨[], .nil⟩
  | a :: _, h =>
    let ⟨b, hb⟩ := h a (List.mem_cons_self _ _)
    let ⟨l', hl'⟩ := exists_forall₂ fun a ha => h a (List.mem_cons_of_mem _ ha)
    ⟨b :: l', .cons hb hl'⟩

/-! ## A group of modules that do not compile -/

namespace RunCtx

variable {r : RunCtx} {group : List String} {st : RunState}

/-- A group of requested local modules without dependencies runs: each
worker returns. -/
theorem exists_groupRun_of_leaves
    (hleaves : ∀ m ∈ group, m ∈ r.mustBuild ∧ localModule st.moduleMetas m = some ⟨m, []⟩) :
    ∃ st', r.GroupRun group st st' := by
  obtain ⟨outs, hw⟩ := @exists_forall₂ _ _ (fun m o => ∃ view, SameModules view st.moduleMetas ∧
      r.worker view st.builtModules m = some o) group fun m hm => by
    have hsome : (r.worker st.moduleMetas st.builtModules m).isSome :=
      tryBuild_isSome_of_leaf (hleaves m hm).1 (hleaves m hm).2 rfl rfl
    obtain ⟨o, ho⟩ := Option.isSome_iff_exists.1 hsome
    exact ⟨o, _, .refl _, ho⟩
  exact ⟨_, outs, hw, _, _, _, .refl _, .refl _, .refl _, rfl⟩

/-- **A group whose modules all fail to compile sends one error per
worker on `errCh`.** -/
theorem GroupRun.errCh_of_leaves
    (hleaves : ∀ m ∈ group, m ∈ r.mustBuild ∧ localModule st.moduleMetas m = some ⟨m, []⟩)
    (hfail : ∀ sch module, ∃ ce, r.env.build sch module = .error ce) {st' : RunState}
    (h : r.GroupRun group st st') : st'.errCh.length = st.errCh.length + group.length := by
  obtain ⟨outs, hw, sent, errs, trace, -, herrs, -, rfl⟩ := h
  have herr : ∀ o ∈ outs, o.error?.isSome := fun o ho => by
    obtain ⟨m, hm, view, hview, hwo⟩ := exists_mem_of_forall₂ hw.flip ho
    exact tryBuild_error_of_build_error (hleaves m hm).1 ((hview m).trans (hleaves m hm).2) (by simp)
      (hfail · _) hwo
  simp only [RunState.afterGroup, List.length_append, herrs.length_eq,
    List.length_filterMap_eq_countP, List.countP_eq_length.2 herr, ← hw.length_eq]

end RunCtx

/-- `Graph` on local modules without dependencies returns them, and
nothing else. -/
theorem graph_of_leaves {e : Engine} {names : List String} (hne : names ≠ [])
    (hloc : ∀ k ∈ names, localModule e.moduleMetas k = some ⟨k, []⟩) :
    ∃ g, (e.graph names).run = some (.ok g) ∧ ∀ n, n ∈ g ↔ n ∈ names := by
  have hreach : ∀ n, e.Reachable (e.graphRoots names) n ↔ n ∈ names := fun n => by
    rw [show e.graphRoots names = names from if_neg hne]
    refine ⟨fun ⟨r, hr, hrn⟩ => ?_, fun hn => ⟨n, hn, .refl⟩⟩
    rcases hrn.cases_head with rfl | ⟨c, ⟨deps, hres, hc⟩, -⟩
    · exact hr
    · rw [Engine.resolve_of_localModule (hloc r hr), Option.some.injEq] at hres
      simp [← hres] at hc
  obtain ⟨res, hgraph, herr, hok⟩ := e.graph_spec names
  cases res with
  | error err =>
    obtain ⟨n, hn, hres⟩ := herr.1 ⟨err, rfl⟩
    simp [Engine.resolve_of_localModule (hloc n ((hreach n).1 hn))] at hres
  | ok g => exact ⟨g, hgraph, fun n => ((hok g rfl).1 n).trans (hreach n)⟩

/-! ## Many modules, none of which compiles -/

/-- `refreshModules` on modules never built whose dependencies read back
as declared: it stores each afresh as it was. -/
theorem refreshModules_current {env : Env}
    (henv : ∀ module, env.updateDependencies module = .ok module.dependencies) :
    ∀ {names : List String} {e : Engine}, (∀ k ∈ names, ∃ module, e.moduleMetas.lookup k = some ⟨module, 0⟩) →
      (refreshModules env names e).2 = none ∧
        ∀ k, (refreshModules env names e).1.moduleMetas.lookup k = e.moduleMetas.lookup k
  | [], _, _ => ⟨rfl, fun _ => rfl⟩
  | name :: names, e, h => by
    obtain ⟨module, hmod⟩ := h name (List.mem_cons_self _ _)
    have hsame : ∀ k, (e.storeMeta name ⟨module, 0⟩ (e.metas_named hmod)).moduleMetas.lookup k =
        e.moduleMetas.lookup k := fun k => by
      rw [Engine.storeMeta_moduleMetas, GoMap.lookup_insert_ite]
      split_ifs with hk
      · rw [hk, hmod]
      · rfl
    have ih := @refreshModules_current env henv names (e.storeMeta name ⟨module, 0⟩ (e.metas_named hmod))
      fun k hk => by simpa only [hsame] using h k (List.mem_cons_of_mem _ hk)
    unfold refreshModules
    split
    · next hn => simp [hmod] at hn
    · next meta hm =>
      rw [hmod, Option.some.injEq] at hm
      subst hm
      simp only [henv]
      exact ⟨ih.1, fun k => (ih.2 k).trans (hsame k)⟩

section Independent

variable {names : List String}

/-- Local modules of these names, none with a dependency, never built. -/
def independent (names : List String) : Engine := .ofModules (names.map fun k => ⟨k, []⟩) []

theorem lookup_independent (k : String) :
    (independent names).moduleMetas.lookup k = if k ∈ names then some ⟨⟨k, []⟩, 0⟩ else none := by
  suffices h : ∀ e : Engine, ((names.map fun k => (⟨k, []⟩ : Module)).foldl
      (fun e m => e.storeMeta m.name ⟨m, 0⟩ rfl) e).moduleMetas.lookup k =
      if k ∈ names then some ⟨⟨k, []⟩, 0⟩ else e.moduleMetas.lookup k by
    simpa [independent, Engine.ofModules, Engine.empty] using h .empty
  induction names with
  | nil => simp
  | cons x xs ih =>
    intro e
    rw [List.map_cons, List.foldl_cons, ih, Engine.storeMeta_moduleMetas, GoMap.lookup_insert_ite]
    by_cases hx : k = x <;> by_cases hxs : k ∈ xs <;> simp [hx, hxs]

/-- Collaborators under which no module compiles, each module's
dependencies read back as declared, and `TopologicalSort` putting the
whole graph in one group, its answer on a graph without edges. -/
def failingEnv : Env where
  updateDependencies m := .ok m.dependencies
  topologicalSort g := .ok [g.keys]
  build _ m := .error (.new (m.name ++ " does not compile"))
  moduleFromProtoFile m := .ok ⟨m.name, [], m.name⟩
  deploy _ := .ok ()
  now _ := 1
  builtins := ⟨"builtin", [], "builtin"⟩

/-- One group is a layering of every graph without edges. -/
theorem layering_of_no_edges (g : Graph) (hg : ∀ n deps, g.lookup n = some deps → deps = []) :
    Layering g [g.keys] where
  nodup := by simpa using g.keys_nodup
  subset n hn := by simpa using hn
  covers n hn := by simpa using hn
  deps_before i hi m hm d hd := by
    cases hl : g.lookup m with
    | none => simp [hl] at hd
    | some deps => simp [hl, hg m deps hl] at hd

/-- The run's refresh stores the modules as they were. -/
theorem refresh_independent :
    (refreshModules failingEnv names (independent names)).2 = none ∧
      ∀ k ∈ names, localModule (refreshModules failingEnv names (independent names)).1.moduleMetas k =
        some ⟨k, []⟩ := by
  obtain ⟨hrefresh, hsame⟩ := @refreshModules_current failingEnv (fun _ => rfl) names (independent names)
    fun k hk => ⟨⟨k, []⟩, by simp [lookup_independent, hk]⟩
  exact ⟨hrefresh, fun k hk => by simp [localModule, hsame, lookup_independent, hk]⟩

/-- **Every run on independent modules that all fail to compile sends
one error per module on `errCh`**, whatever order the workers take, and
there are such runs. -/
theorem independent_errCh (hnd : names.Nodup) (hne : names ≠ []) :
    (∃ result st, BuildRun failingEnv none (independent names) names result st) ∧
      ∀ result st, BuildRun failingEnv none (independent names) names result st →
        st.errCh.length = names.length := by
  obtain ⟨hrefresh, hloc⟩ := @refresh_independent names
  set e' := (refreshModules failingEnv names (independent names)).1
  obtain ⟨g, hgraph, hmem⟩ := graph_of_leaves hne hloc
  let r : RunCtx := ⟨failingEnv, none, names, e'.controllerSchema⟩
  have hleaves : ∀ m ∈ g.keys, m ∈ r.mustBuild ∧
      localModule (RunState.initial e' failingEnv).moduleMetas m = some ⟨m, []⟩ := fun m hm =>
    have hm' := (hmem m).1 (AList.mem_keys.1 hm)
    ⟨hm', hloc m hm'⟩
  have hrun : ∀ result st, BuildRun failingEnv none (independent names) names result st ↔
      r.GroupsRun [g.keys] (.initial e' failingEnv) st ∧ result = st.result := fun result st => by
    simp only [BuildRun, show (independent names).graphRoots names = names from if_neg hne, hrefresh,
      hgraph]
    rfl
  refine ⟨?_, fun result st h => ?_⟩
  · obtain ⟨st, hst⟩ := RunCtx.exists_groupRun_of_leaves hleaves
    exact ⟨_, _, (hrun _ st).2 ⟨.cons hst (.nil _), rfl⟩⟩
  · obtain ⟨hgroups, -⟩ := (hrun result st).1 h
    cases hgroups with
    | cons hg hnil =>
      cases hnil
      rw [hg.errCh_of_leaves hleaves fun _ _ => ⟨_, rfl⟩]
      simpa [RunState.initial] using
        ((List.perm_ext_iff_of_nodup g.keys_nodup hnd).2 fun n => AList.mem_keys.trans (hmem n)).length_eq

/-! ## One module more than `errCh` holds -/

/-- `m`, `mm`, `mmm`, …: the name of the `i`-th module. -/
def manyName (i : Nat) : String := ⟨List.replicate (i + 1) 'm'⟩

/-- As many module names as `errCh` has slots, and one more. Irreducible:
no proof spells the 1025 names out, and no check should unfold them. -/
@[irreducible] def manyNames : List String := (List.range (errChCapacity + 1)).map manyName

theorem manyNames_nodup : manyNames.Nodup := by
  rw [manyNames]
  exact (List.nodup_range _).map fun i j h => by
    simpa [manyName] using congrArg (fun s : String => s.data.length) h

/-- With 1025 requested modules that all fail to compile, `TopologicalSort`
answering with a layering, every run of `buildWithCallback` sends 1025
errors on `errCh` before anything receives from it: the 1025th send finds
the buffer full and its worker blocks, and with it the group's `Wait`. -/
theorem errCh_blocks_past_capacity :
    (∀ g t, (∀ n deps, g.lookup n = some deps → deps = []) →
      failingEnv.topologicalSort g = .ok t → Layering g t) ∧
    (∃ result st, BuildRun failingEnv none (independent manyNames) manyNames result st) ∧
    ∀ result st, BuildRun failingEnv none (independent manyNames) manyNames result st →
      st.errCh.length = errChCapacity + 1 ∧ sendAll errChCapacity [] st.errCh = none := by
  have hlen : manyNames.length = errChCapacity + 1 := by simp [manyNames]
  obtain ⟨hex, hall⟩ :=
    independent_errCh manyNames_nodup (List.ne_nil_of_length_pos (by rw [hlen]; omega))
  refine ⟨fun g t hg ht => ?_, hex, fun result st h => ?_⟩
  · cases ht
    exact layering_of_no_edges g hg
  · have hst := hall result st h
    rw [hlen] at hst
    exact ⟨hst, sendAll_nil_eq_none (by omega)⟩

end Independent

end BuildEngine

end Ftl
