import Ftl.BuildEngine.Run
/-!
# The build engine — what a run builds

`build` assumes, in its doc comment, that every dependency is already in
`builtModules`; `tryBuild` checks the direct dependencies of a requested
module, and skips it silently when one is missing. Neither holds up on
every run. `build_compiles_with_nil_dependency` is a run, on a graph
`TopologicalSort` lays out correctly, where a module is compiled against
a combined schema with a `nil` module: its dependency `c` failed, and
`mustSchema` builds `b` anyway.

What does hold is `buildWithCallback_builds_requested`: when a run
returns nil and the compiler names each schema after its module, every
requested module was compiled and its callback ran and returned nil. The
invariant is `Settled`, carried group by group.
-/


namespace Ftl

namespace BuildEngine

/-- A requested module was compiled without error and its schema read, and
its callback ran and returned nil. -/
def BuiltAndCalled (env : Env) (cb : Module → Except Error Unit) (trace : List Event)
    (name : String) : Prop :=
  ∃ module sch, module.name = name ∧ .compiled module sch ∈ trace ∧ env.build sch module = .ok () ∧
    (∃ s, env.moduleFromProtoFile module = .ok s) ∧ .called module ∈ trace ∧ cb module = .ok ()

theorem BuiltAndCalled.mono {env : Env} {cb : Module → Except Error Unit} {trace trace' : List Event}
    {name : String} (h : BuiltAndCalled env cb trace name) (hsub : trace ⊆ trace') :
    BuiltAndCalled env cb trace' name :=
  let ⟨module, sch, hn, hc, hb, hs, hcall, hcb⟩ := h
  ⟨module, sch, hn, hsub hc, hb, hs, hsub hcall, hcb⟩

theorem Engine.mem_graphRoots {e : Engine} {names : List String} {n : String} (h : n ∈ names) :
    n ∈ e.graphRoots names := by
  unfold Engine.graphRoots
  split_ifs with hnil
  · simp [hnil] at h
  · exact h

/-- What a run has established after the groups holding `done`, while no
worker has reported an error. -/
structure Settled (r : RunCtx) (cb : Module → Except Error Unit) (metas₀ : GoMap ModuleMeta)
    (done : List String) (st : RunState) : Prop where
  same : SameModules st.moduleMetas metas₀
  built : st.errCh = [] → ∀ m ∈ done, m ∈ st.builtModules
  called : st.errCh = [] → ∀ m ∈ done, m ∈ r.mustBuild → BuiltAndCalled r.env cb st.trace m

section Settled

variable {r : RunCtx} {cb : Module → Except Error Unit} {metas₀ : GoMap ModuleMeta}

/-- One worker of a group that reported no error has sent its module's
schema, and built it and run its callback if it was requested. -/
theorem worker_settles {view : GoMap ModuleMeta} {st : RunState} {m : String} {o : Outcome}
    (hcb : r.callback = some cb) (hn : MetasNamed metas₀)
    (hc : ∀ {k : String} {s : SchemaModule}, r.controllerSchema.lookup k = some s → s.name = k)
    (henv : r.env.NamesSchemas) (hsame : SameModules view metas₀)
    (hw : r.worker view st.builtModules m = some o) (hok : o.result = .ok ())
    (hdeps : m ∈ r.mustBuild → ∀ module, localModule metas₀ m = some module →
      ∀ d ∈ module.dependencies, d ∈ st.builtModules) :
    (∃ s ∈ o.sent, s.name = m) ∧ (m ∈ r.mustBuild → BuiltAndCalled r.env cb o.trace m) := by
  have hnv := hsame.metasNamed hn
  have hdeps' : ∀ module, m ∈ r.mustBuild → localModule view m = some module →
      ∀ d ∈ module.dependencies, d ∈ st.builtModules :=
    fun module hmb hl => hdeps hmb module ((hsame m).symm.trans hl)
  obtain ⟨s, hs⟩ := List.exists_mem_of_ne_nil _ (tryBuild_sent_of_ok hw hok hdeps')
  refine ⟨⟨s, hs, tryBuild_sent_name hnv hc henv hw s hs⟩, fun hmb => ?_⟩
  rw [RunCtx.worker, hcb] at hw
  obtain ⟨module, sch, hl, h1, h2, h3, h4, h5⟩ :=
    tryBuild_requested_of_ok hw hmb hok fun module hl => hdeps' module hmb hl
  exact ⟨module, sch, hnv _ _ hl, h1, h2, h3, h4, h5⟩

/-- **A group keeps the run settled**, given that the dependencies of the
requested modules in it lie in earlier groups. -/
theorem Settled.step {group done : List String} {st st' : RunState}
    (hcb : r.callback = some cb) (hn : MetasNamed metas₀)
    (hc : ∀ {k : String} {s : SchemaModule}, r.controllerSchema.lookup k = some s → s.name = k)
    (henv : r.env.NamesSchemas)
    (hdeps : ∀ m ∈ group, m ∈ r.mustBuild → ∀ module, localModule metas₀ m = some module →
      ∀ d ∈ module.dependencies, d ∈ done)
    (hrun : r.GroupRun group st st') (hs : Settled r cb metas₀ done st) :
    Settled r cb metas₀ (done ++ group) st' := by
  obtain ⟨outs, hall, sent, errs, trace, hsent, herrs, htrace, rfl⟩ := hrun
  have hsame : SameModules
      ((group.zip outs).foldl (fun metas p => stampIn metas p.1 p.2) st.moduleMetas) metas₀ :=
    (stamps_same (fun ⟨_, hv, hw⟩ h => (hv _).symm.trans (tryBuild_stamp hw h)) hall (.refl _)).trans
      hs.same
  have key : (st.errCh ++ errs) = [] → ∀ m ∈ group, (∃ s ∈ sent, s.name = m) ∧
      (m ∈ r.mustBuild → BuiltAndCalled r.env cb trace m) := fun hnil m hm => by
    obtain ⟨hst, rfl⟩ := List.append_eq_nil.1 hnil
    obtain ⟨o, ho, view, hview, hw⟩ := exists_mem_of_forall₂ hall hm
    have hok := result_ok_of_filterMap_nil (List.Perm.nil_eq herrs).symm ho
    obtain ⟨⟨s, hs', hname⟩, hcalled⟩ := worker_settles hcb hn hc henv (hview.trans hs.same) hw hok
      fun hmb module hl d hd => hs.built hst d (hdeps m hm hmb module hl d hd)
    have hsub : o.trace ⊆ trace := fun ev hev =>
      htrace.symm.subset (List.mem_flatMap.2 ⟨o, ho, hev⟩)
    exact ⟨⟨s, hsent.symm.subset (List.mem_flatMap.2 ⟨o, ho, hs'⟩), hname⟩,
      fun hmb => (hcalled hmb).mono hsub⟩
  refine ⟨hsame, fun hnil m hm => ?_, fun hnil m hm hmb => ?_⟩
  · rcases List.mem_append.1 hm with hm | hm
    · exact mem_merge_of_mem (hs.built (List.append_eq_nil.1 hnil).1 m hm)
    · obtain ⟨s, hs', rfl⟩ := (key hnil m hm).1
      exact name_mem_merge hs'
  · rcases List.mem_append.1 hm with hm | hm
    · exact (hs.called (List.append_eq_nil.1 hnil).1 m hm hmb).mono (List.subset_append_left _ _)
    · exact ((key hnil m hm).2 hmb).mono (List.subset_append_right _ _)

/-- **The groups keep the run settled**, over the whole topology. -/
theorem Settled.run {topology : List (List String)}
    (hcb : r.callback = some cb) (hn : MetasNamed metas₀)
    (hc : ∀ {k : String} {s : SchemaModule}, r.controllerSchema.lookup k = some s → s.name = k)
    (henv : r.env.NamesSchemas)
    (hdeps : ∀ {pre group post}, topology = pre ++ group :: post → ∀ m ∈ group, m ∈ r.mustBuild →
      ∀ module, localModule metas₀ m = some module → ∀ d ∈ module.dependencies, d ∈ pre.flatten)
    {groups : List (List String)} {st st' : RunState} (hrun : r.GroupsRun groups st st') :
    ∀ pre, topology = pre ++ groups → Settled r cb metas₀ pre.flatten st →
      Settled r cb metas₀ topology.flatten st' := by
  induction hrun with
  | nil st =>
    intro pre ht hs
    simpa [ht] using hs
  | @cons group groups _ _ _ hg _ ih =>
    intro pre ht hs
    have := hs.step hcb hn hc henv (hdeps ht) hg
    exact ih (pre ++ [group]) (by simp [ht]) (by simpa using this)

end Settled

/-- **A run that returns nil has built every requested module and run its
callback**, when `TopologicalSort` lays out `Graph`'s result and the
compiler names each schema after its module. Without the naming, a
module whose schema comes back under another name is missing from
`builtModules`, and the modules that need it are skipped without error. -/
theorem buildWithCallback_builds_requested {env : Env} {cb : Module → Except Error Unit} {e : Engine}
    {moduleNames : List String} {st : RunState}
    (hsort : ∀ graph topology, env.topologicalSort graph = .ok topology → Layering graph topology)
    (hnamed : env.NamesSchemas) (hrun : BuildRun env (some cb) e moduleNames (.ok ()) st) :
    ∀ name ∈ e.graphRoots moduleNames, BuiltAndCalled env cb st.trace name := by
  rcases hrun.cases with ⟨err, herr, -⟩ | ⟨graph, topology, -, hgraph, hsortok, hgroups, hres⟩
  · cases herr
  set names := e.graphRoots moduleNames
  set e' := (refreshModules env names e).1
  have hlay := hsort _ _ hsortok
  obtain ⟨hkeys, hvals⟩ := e'.graph_ok hgraph
  have hnil : st.errCh = [] := by
    unfold RunState.result at hres
    split at hres
    · assumption
    · cases hres
  have hdeps : ∀ {pre group post}, topology = pre ++ group :: post → ∀ m ∈ group, m ∈ names →
      ∀ module, localModule e'.moduleMetas m = some module → ∀ d ∈ module.dependencies,
        d ∈ pre.flatten := by
    intro pre group post ht m hm _ module hl d hd
    have hmg : m ∈ graph := hlay.subset m (List.mem_flatten.2 ⟨group, by simp [ht], hm⟩)
    exact hlay.mem_before ht hm ((hvals m hmg).trans (Engine.resolve_of_localModule hl)) hd
  have hfinal := Settled.run (r := ⟨env, some cb, names, e'.controllerSchema⟩) rfl
    e'.metasNamed e'.controller_named hnamed hdeps hgroups [] (by simp)
    ⟨.refl _, by simp, by simp⟩
  intro name hname
  have hroot := Engine.reachable_of_mem (e := e') (Engine.mem_graphRoots (e := e') hname)
  exact hfinal.called hnil name (hlay.covers name (AList.mem_keys.1 ((hkeys name).2 hroot))) hname

/-! ## Runs on small graphs -/

/-- A `TopologicalSort` that knows one answer: `topology` for `graph`, and
a failure for any other graph. -/
def sortOnly (graph : Graph) (topology : List (List String)) : Graph → Except Error (List (List String)) :=
  fun g => if g.entries = graph.entries then .ok topology else .error (.new "dependency cycle")

theorem layering_of_sortOnly {graph : Graph} {topology : List (List String)}
    (h : Layering graph topology) :
    ∀ g t, sortOnly graph topology g = .ok t → Layering g t := by
  intro g t hg
  unfold sortOnly at hg
  split_ifs at hg with heq
  · cases hg
    exact AList.ext heq ▸ h

/-- A compiler that fails on the modules `failing` names, and otherwise
writes a schema named after its module. -/
def chainEnv (graph : Graph) (topology : List (List String)) (failing : List String) : Env where
  updateDependencies m := .ok m.dependencies
  topologicalSort := sortOnly graph topology
  build _ m := if m.name ∈ failing then .error (.new (m.name ++ " does not compile")) else .ok ()
  moduleFromProtoFile m := .ok ⟨m.name, [], m.name⟩
  deploy _ := .ok ()
  now _ := 1
  builtins := ⟨"builtin", [], "builtin"⟩

theorem chainEnv_namesSchemas {graph : Graph} {topology : List (List String)} {failing : List String} :
    (chainEnv graph topology failing).NamesSchemas := fun h => by
  cases h
  rfl

/-- `a` depends on `b`, and `b` on `c`: three local modules, and no
controller schema. -/
def chainEngine : Engine := .ofModules [⟨"a", ["b"]⟩, ⟨"b", ["c"]⟩, ⟨"c", []⟩] []

/-- The graph of `chainEngine` from `a`, as `Graph` enters it. -/
def chainGraph : Graph := ((((∅ : Graph).insert "a" ["b"]).insert "b" ["c"]).insert "c" [])

/-- **`b` is compiled against a `nil` `c`.** Requesting `a`, with `c`
failing to compile and `TopologicalSort` returning a correct layering,
`mustSchema` builds `b` although its dependency was never built. -/
theorem build_compiles_with_nil_dependency :
    (∀ g t, (chainEnv chainGraph [["c"], ["b"], ["a"]] ["c"]).topologicalSort g = .ok t →
      Layering g t) ∧
    ∃ result st, BuildRun (chainEnv chainGraph [["c"], ["b"], ["a"]] ["c"]) none chainEngine ["a"]
      result st ∧ .compiled ⟨"b", ["c"]⟩ [none] ∈ st.trace := by
  refine ⟨layering_of_sortOnly ⟨by decide, by decide, by decide, by decide⟩, ?_⟩
  obtain ⟨result, st, hrun, hf⟩ := @exists_buildRun_of_seq
    (chainEnv chainGraph [["c"], ["b"], ["a"]] ["c"]) none chainEngine ["a"]
    (fun p => decide (Event.compiled ⟨"b", ["c"]⟩ [none] ∈ p.2.trace)) (by decide)
  exact ⟨result, st, hrun, of_decide_eq_true hf⟩

/-- `a` depends on `b`: two local modules. -/
def pairEngine : Engine := .ofModules [⟨"a", ["b"]⟩, ⟨"b", []⟩] []

/-- The graph of `pairEngine` from `a`. -/
def pairGraph : Graph := (((∅ : Graph).insert "a" ["b"]).insert "b" [])

/-- A run of `a` and `b` where everything compiles returns nil, and has
built `a` and run its callback. -/
theorem pair_builds_requested :
    (∀ g t, (chainEnv pairGraph [["b"], ["a"]] []).topologicalSort g = .ok t → Layering g t) ∧
    (chainEnv pairGraph [["b"], ["a"]] []).NamesSchemas ∧
    ∃ st, BuildRun (chainEnv pairGraph [["b"], ["a"]] []) (some fun _ => .ok ()) pairEngine ["a"]
      (.ok ()) st ∧ BuiltAndCalled (chainEnv pairGraph [["b"], ["a"]] []) (fun _ => .ok ()) st.trace "a" :=
  have hsort := @layering_of_sortOnly pairGraph _ ⟨by decide, by decide, by decide, by decide⟩
  have hnamed : (chainEnv pairGraph [["b"], ["a"]] []).NamesSchemas := chainEnv_namesSchemas
  have ⟨result, st, hrun, hf⟩ := @exists_buildRun_of_seq (chainEnv pairGraph [["b"], ["a"]] [])
    (some fun _ => .ok ()) pairEngine ["a"] (fun p => p.1.toBool) (by decide)
  have hok : result = .ok () := by
    cases result with
    | error => cases hf
    | ok => rfl
  ⟨hsort, hnamed, st, hok ▸ hrun,
    buildWithCallback_builds_requested hsort hnamed (hok ▸ hrun) "a" (by decide)⟩

/-- The compiler of `chainEnv` writing each schema under another name. -/
def misnamingEnv : Env :=
  { chainEnv pairGraph [["b"], ["a"]] [] with moduleFromProtoFile := fun m => .ok ⟨"x" ++ m.name, [], m.name⟩ }

/-- **Without the naming, a requested module is skipped silently.** `b`'s
schema reaches `builtModules` as `xb`, so `tryBuild` finds `b` missing
and skips `a` without an error: the run returns nil and never compiles
`a`. -/
theorem misnamed_schema_skips_requested :
    (∀ g t, misnamingEnv.topologicalSort g = .ok t → Layering g t) ∧
    ∃ st, BuildRun misnamingEnv (some fun _ => .ok ()) pairEngine ["a"] (.ok ()) st ∧
      ¬ BuiltAndCalled misnamingEnv (fun _ => .ok ()) st.trace "a" := by
  refine ⟨@layering_of_sortOnly pairGraph _ ⟨by decide, by decide, by decide, by decide⟩, ?_⟩
  obtain ⟨result, st, hrun, hf⟩ := @exists_buildRun_of_seq misnamingEnv (some fun _ => .ok ())
    pairEngine ["a"] (fun p => p.1.toBool && p.2.trace.all fun
      | .compiled m _ => m.name != "a"
      | .called _ => true) (by decide)
  obtain ⟨hok, hall⟩ := Bool.and_eq_true_iff.1 hf
  cases result with
  | error => cases hok
  | ok =>
    refine ⟨st, hrun, fun ⟨module, _, hn, hc, _⟩ => ?_⟩
    have := List.all_eq_true.1 hall _ hc
    simp [hn] at this

end BuildEngine

end Ftl
