import Ftl.BuildEngine.Worker
/-!
# The build engine — `buildWithCallback`

A run re-reads the requested modules' dependencies (`refreshModules`),
computes `Graph` and `TopologicalSort`, and then runs the groups in order:
the workers of a group concurrently, each against the `builtModules` the
earlier groups left; once a group is done, the schemas its workers sent
are merged into `builtModules` by name, in the order they reached the
channel. Every error a worker reports goes to `errCh`, and the run
returns their `errors.Join`.

`GroupRun` is a group run by concurrent workers, in any interleaving, and
`BuildRun` the whole of `buildWithCallback` over it. `groupsSeq` runs each
group's workers one after another in the group's order; it is one of the
interleavings (`buildRun_of_seq`), and it is what the examples evaluate.
-/


namespace Ftl

namespace BuildEngine

/-- What a run of `buildWithCallback` threads from group to group. -/
structure RunState where
  moduleMetas : GoMap ModuleMeta
  builtModules : GoMap SchemaModule
  errCh : List Error
  trace : List Event

/-- `close(schemas); for sch := range schemas { builtModules[sch.Name] = sch }`. -/
def merge (builtModules : GoMap SchemaModule) (schemas : List SchemaModule) : GoMap SchemaModule :=
  schemas.foldl (fun built sch => built.insert sch.name sch) builtModules

/-- A worker's `e.moduleMetas.Store(moduleName, meta)`, if it made one. -/
def stampIn (moduleMetas : GoMap ModuleMeta) (moduleName : String) (o : Outcome) : GoMap ModuleMeta :=
  match o.stamp with
  | some meta => moduleMetas.insert moduleName meta
  | none => moduleMetas

namespace RunState

/-- Where a run's groups start: `builtModules` holds `builtin` alone. -/
def initial (e : Engine) (env : Env) : RunState :=
  ⟨e.moduleMetas, (∅ : GoMap SchemaModule).insert "builtin" env.builtins, [], []⟩

/-- What a group's workers leave in the run, their schemas having reached
the channel in the order `sent`, their errors `errCh` in the order `errs`,
and their invocations interleaved as `trace`. -/
def afterGroup (st : RunState) (group : List String) (outs : List Outcome)
    (sent : List SchemaModule) (errs : List Error) (trace : List Event) : RunState where
  moduleMetas := (group.zip outs).foldl (fun metas p => stampIn metas p.1 p.2) st.moduleMetas
  builtModules := merge st.builtModules sent
  errCh := st.errCh ++ errs
  trace := st.trace ++ trace

/-- What `buildWithCallback` returns after its groups: `errors.Join` of
what `errCh` collected, or nil. -/
def result (st : RunState) : Except Error Unit :=
  match st.errCh with
  | [] => .ok ()
  | _ :: _ => .error (.join st.errCh)

end RunState

/-- What stays fixed through a run: the collaborators, the callback, the
requested names (`mustBuild`) and the controller's schemas. -/
structure RunCtx where
  env : Env
  callback : Option (Module → Except Error Unit)
  mustBuild : List String
  controllerSchema : GoMap SchemaModule

namespace RunCtx

variable (r : RunCtx)

/-- One worker: `tryBuild` against a view of `moduleMetas` and the
`builtModules` of the earlier groups. -/
def worker (moduleMetas : GoMap ModuleMeta) (builtModules : GoMap SchemaModule) (moduleName : String) :
    Option Outcome :=
  tryBuild r.env r.callback r.mustBuild moduleMetas r.controllerSchema builtModules moduleName

/-- **One group, its workers concurrent.** A worker may read `moduleMetas`
before or after any other worker's `Store`, which `SameModules` covers;
the schemas reach the channel, and the errors `errCh`, in any order, and
the invocations interleave. `parallelism` only bounds how many workers
run at once, so every interleaving it allows is one of these. -/
def GroupRun (group : List String) (st st' : RunState) : Prop :=
  ∃ outs : List Outcome,
    List.Forall₂ (fun m o => ∃ view, SameModules view st.moduleMetas ∧
      r.worker view st.builtModules m = some o) group outs ∧
    ∃ sent errs trace, sent.Perm (outs.flatMap (·.sent)) ∧
      errs.Perm (outs.filterMap (·.error?)) ∧ trace.Perm (outs.flatMap (·.trace)) ∧
      st' = st.afterGroup group outs sent errs trace

/-- The groups, in order, each after the previous one's schemas are merged. -/
inductive GroupsRun : List (List String) → RunState → RunState → Prop
  | nil (st : RunState) : GroupsRun [] st st
  | cons {group : List String} {groups : List (List String)} {st st' st'' : RunState} :
      r.GroupRun group st st' → GroupsRun groups st' st'' → GroupsRun (group :: groups) st st''

/-- A group's workers one after another, each seeing the start times the
previous ones stored. -/
def runSeq (builtModules : GoMap SchemaModule) : List String → GoMap ModuleMeta → Option (List Outcome)
  | [], _ => some []
  | m :: ms, metas =>
    (r.worker metas builtModules m).bind fun o =>
      (runSeq builtModules ms (stampIn metas m o)).map (o :: ·)

/-- A group run sequentially, in the group's order. -/
def groupSeq (group : List String) (st : RunState) : Option RunState :=
  (r.runSeq st.builtModules group st.moduleMetas).map fun outs =>
    st.afterGroup group outs (outs.flatMap (·.sent)) (outs.filterMap (·.error?))
      (outs.flatMap (·.trace))

/-- Every group run sequentially, in order. -/
def groupsSeq : List (List String) → RunState → Option RunState
  | [], st => some st
  | group :: groups, st => (r.groupSeq group st).bind (groupsSeq groups)

end RunCtx

/-- The loop that opens `buildWithCallback`: for each requested name, the
module's dependencies are read again (`UpdateDependencies`) and the module
stored afresh, with a zero start time. It stops at the first name that is
not a local module, or whose dependencies cannot be read; what it stored
until then stays. -/
def refreshModules (env : Env) : List String → Engine → Engine × Option Error
  | [], e => (e, none)
  | name :: names, e =>
    match h : e.moduleMetas.lookup name with
    | none => (e, some (notFound name))
    | some meta =>
      match env.updateDependencies meta.module with
      | .error err => (e, some err)
      | .ok deps =>
        refreshModules env names
          (e.storeMeta name ⟨{ meta.module with dependencies := deps }, 0⟩
            (e.metas_named h : meta.module.name = name))

/-- **`buildWithCallback`**: a run on the requested names (every local
module when none is given) that returns `result` and leaves `st`. A run
whose `Graph` does not return has no such pair; `graph_spec` shows that
none exists. -/
def BuildRun (env : Env) (callback : Option (Module → Except Error Unit)) (e : Engine)
    (moduleNames : List String) (result : Except Error Unit) (st : RunState) : Prop :=
  let names := e.graphRoots moduleNames
  let e' := (refreshModules env names e).1
  match (refreshModules env names e).2 with
  | some err => result = .error err ∧ st = .initial e' env
  | none =>
    match (e'.graph names).run with
    | none => False
    | some (.error err) => result = .error err ∧ st = .initial e' env
    | some (.ok graph) =>
      match env.topologicalSort graph with
      | .error err => result = .error err ∧ st = .initial e' env
      | .ok topology =>
        (RunCtx.mk env callback names e'.controllerSchema).GroupsRun topology (.initial e' env) st ∧
          result = st.result

/-- `buildWithCallback` with every group run sequentially. -/
def buildWithCallbackSeq (env : Env) (callback : Option (Module → Except Error Unit)) (e : Engine)
    (moduleNames : List String) : Option (Except Error Unit × RunState) :=
  let names := e.graphRoots moduleNames
  let e' := (refreshModules env names e).1
  match (refreshModules env names e).2 with
  | some err => some (.error err, .initial e' env)
  | none =>
    match (e'.graph names).run with
    | none => none
    | some (.error err) => some (.error err, .initial e' env)
    | some (.ok graph) =>
      match env.topologicalSort graph with
      | .error err => some (.error err, .initial e' env)
      | .ok topology =>
        ((RunCtx.mk env callback names e'.controllerSchema).groupsSeq topology (.initial e' env)).map
          fun st => (st.result, st)

/-- What the contracts assume of `TopologicalSort`: its groups list the
graph's nodes, each once, and put every dependency of a node in a
strictly earlier group. -/
structure Layering (graph : Graph) (topology : List (List String)) : Prop where
  nodup : topology.flatten.Nodup
  subset : ∀ n ∈ topology.flatten, n ∈ graph
  covers : ∀ n ∈ graph.keys, n ∈ topology.flatten
  deps_before : ∀ i (hi : i < topology.length), ∀ m ∈ topology[i],
    ∀ d ∈ (graph.lookup m).getD [], d ∈ (topology.take i).flatten

/-- A dependency of a node in a group lies in the groups before it. -/
theorem Layering.mem_before {graph : Graph} {topology pre post : List (List String)}
    {group : List String} (h : Layering graph topology) (ht : topology = pre ++ group :: post)
    {m : String} (hm : m ∈ group) {deps : List String} (hdeps : graph.lookup m = some deps)
    {d : String} (hd : d ∈ deps) : d ∈ pre.flatten := by
  subst ht
  have hi : pre.length < (pre ++ group :: post).length := by simp
  have hg : (pre ++ group :: post)[pre.length] = group := by
    rw [List.getElem_append_right (Nat.le_refl _)]
    simp
  have := h.deps_before pre.length hi m (by rw [hg]; exact hm) d (by simpa [hdeps] using hd)
  rwa [List.take_left' rfl] at this

/-! ## How a group changes the run -/

theorem exists_mem_of_forall₂ {α β : Type} {R : α → β → Prop} :
    ∀ {l₁ : List α} {l₂ : List β}, List.Forall₂ R l₁ l₂ → ∀ {a}, a ∈ l₁ → ∃ b ∈ l₂, R a b
  | _, _, .cons hab hrest, _, ha => by
    rcases List.mem_cons.1 ha with rfl | ha
    · exact ⟨_, List.mem_cons_self _ _, hab⟩
    · obtain ⟨b, hb, h⟩ := exists_mem_of_forall₂ hrest ha
      exact ⟨b, List.mem_cons_of_mem _ hb, h⟩

@[simp] theorem merge_nil (built : GoMap SchemaModule) : merge built [] = built := rfl

@[simp] theorem merge_cons (built : GoMap SchemaModule) (s : SchemaModule) (l : List SchemaModule) :
    merge built (s :: l) = merge (built.insert s.name s) l := rfl

theorem mem_merge_of_mem {k : String} :
    ∀ {built : GoMap SchemaModule} {schemas : List SchemaModule}, k ∈ built → k ∈ merge built schemas
  | _, [], h => h
  | _, _ :: _, h => by
    rw [merge_cons]
    exact mem_merge_of_mem ((AList.mem_insert _).2 (.inr h))

theorem name_mem_merge :
    ∀ {built : GoMap SchemaModule} {schemas : List SchemaModule} {s : SchemaModule},
      s ∈ schemas → s.name ∈ merge built schemas
  | _, _ :: _, _, hs => by
    rw [merge_cons]
    rcases List.mem_cons.1 hs with rfl | hs
    · exact mem_merge_of_mem ((AList.mem_insert _).2 (.inl rfl))
    · exact name_mem_merge hs

/-- Merging into maps with the same entries gives maps with the same entries. -/
theorem merge_congr {built₁ built₂ : GoMap SchemaModule} (hb : ∀ k, built₁.lookup k = built₂.lookup k) :
    ∀ (schemas : List SchemaModule) k, (merge built₁ schemas).lookup k = (merge built₂ schemas).lookup k
  | [], k => hb k
  | s :: schemas, k => by
    rw [merge_cons, merge_cons]
    exact merge_congr (fun k' => by simp [GoMap.lookup_insert_ite, hb k']) schemas k

/-- **The order the schemas arrive in does not matter** when schemas of
the same name are the same schema. -/
theorem merge_perm {schemas₁ schemas₂ : List SchemaModule} (hp : schemas₁.Perm schemas₂)
    (hu : ∀ s ∈ schemas₁, ∀ s' ∈ schemas₁, s.name = s'.name → s = s') :
    ∀ {built₁ built₂ : GoMap SchemaModule}, (∀ k, built₁.lookup k = built₂.lookup k) →
      ∀ k, (merge built₁ schemas₁).lookup k = (merge built₂ schemas₂).lookup k := by
  induction hp with
  | nil => exact fun hb => hb
  | cons s _ ih =>
    intro built₁ built₂ hb
    rw [merge_cons, merge_cons]
    exact ih (fun a ha b hb' => hu a (.tail _ ha) b (.tail _ hb'))
      fun k' => by simp [GoMap.lookup_insert_ite, hb k']
  | swap s s' schemas =>
    intro built₁ built₂ hb
    simp only [merge_cons]
    refine merge_congr (fun k' => ?_) schemas
    simp only [GoMap.lookup_insert_ite, hb k']
    split_ifs with h₁ h₂ <;> try rfl
    -- a key both schemas are named: they are the same schema
    exact congrArg some (hu s (by simp) s' (by simp) (h₁.symm.trans h₂))
  | trans h₁₂ _ ih₁ ih₂ =>
    intro built₁ built₂ hb k
    rw [ih₁ hu hb k, ih₂ (fun a ha b hb' => hu a (h₁₂.symm.subset ha) b (h₁₂.symm.subset hb')) (fun _ => rfl) k]

theorem Outcome.error?_eq_none {o : Outcome} : o.error? = none ↔ o.result = .ok () := by
  unfold Outcome.error?; split <;> simp_all

theorem result_ok_of_filterMap_nil {outs : List Outcome}
    (h : (outs.filterMap (·.error?)) = []) {o : Outcome} (ho : o ∈ outs) : o.result = .ok () :=
  Outcome.error?_eq_none.1 (List.filterMap_eq_nil_iff.1 h o ho)

theorem stampIn_same {metas : GoMap ModuleMeta} {m : String} {o : Outcome}
    (hs : ∀ meta, o.stamp = some meta → localModule metas m = some meta.module) :
    SameModules (stampIn metas m o) metas := by
  unfold stampIn
  split
  · exact SameModules.insert_self _ (hs _ ‹_›)
  · exact .refl _

/-- The start times a group's workers store change no module. -/
theorem stamps_same {views : String → Outcome → Prop} {metas : GoMap ModuleMeta}
    (hs : ∀ {m o meta}, views m o → o.stamp = some meta → localModule metas m = some meta.module) :
    ∀ {group : List String} {outs : List Outcome} {acc : GoMap ModuleMeta},
      List.Forall₂ views group outs → SameModules acc metas →
        SameModules ((group.zip outs).foldl (fun metas p => stampIn metas p.1 p.2) acc) metas := by
  intro group outs acc h hacc
  induction h generalizing acc with
  | nil => exact hacc
  | cons hmo _ ih => exact ih ((stampIn_same fun _ h => (hacc _).trans (hs hmo h)).trans hacc)

/-- **Every way a run of `buildWithCallback` can end**: with an error
before any group ran, or after running the groups `TopologicalSort`
returned for `Graph`'s result. -/
theorem BuildRun.cases {env : Env} {callback : Option (Module → Except Error Unit)} {e : Engine}
    {moduleNames : List String} {result : Except Error Unit} {st : RunState}
    (h : BuildRun env callback e moduleNames result st) :
    (∃ err, result = .error err ∧ st.trace = [] ∧ st.errCh = []) ∨
      ∃ graph topology, (refreshModules env (e.graphRoots moduleNames) e).2 = none ∧
        ((refreshModules env (e.graphRoots moduleNames) e).1.graph (e.graphRoots moduleNames)).run =
          some (.ok graph) ∧
        env.topologicalSort graph = .ok topology ∧
        (RunCtx.mk env callback (e.graphRoots moduleNames)
          (refreshModules env (e.graphRoots moduleNames) e).1.controllerSchema).GroupsRun topology
          (.initial (refreshModules env (e.graphRoots moduleNames) e).1 env) st ∧
        result = st.result := by
  unfold BuildRun at h
  dsimp only at h
  split at h
  · exact .inl ⟨_, h.1, by simp [h.2, RunState.initial]⟩
  · split at h
    · exact h.elim
    · exact .inl ⟨_, h.1, by simp [h.2, RunState.initial]⟩
    · split at h
      · exact .inl ⟨_, h.1, by simp [h.2, RunState.initial]⟩
      · exact .inr ⟨_, _, ‹_›, ‹_›, ‹_›, h⟩

/-! ## The sequential run is one of the concurrent ones -/

namespace RunCtx

variable {r : RunCtx}

theorem runSeq_views {built : GoMap SchemaModule} :
    ∀ {group : List String} {metas : GoMap ModuleMeta} {outs : List Outcome},
      r.runSeq built group metas = some outs →
        List.Forall₂ (fun m o => ∃ view, SameModules view metas ∧ r.worker view built m = some o)
          group outs
  | [], _, _, h => by
    simp only [runSeq, Option.some.injEq] at h
    exact h ▸ .nil
  | m :: ms, metas, outs, h => by
    simp only [runSeq, Option.bind_eq_some, Option.map_eq_some'] at h
    obtain ⟨o, ho, outs', houts, rfl⟩ := h
    have hsame := stampIn_same fun _ => tryBuild_stamp ho
    exact .cons ⟨metas, .refl _, ho⟩
      ((runSeq_views houts).imp fun _ _ ⟨v, hv, hw⟩ => ⟨v, hv.trans hsame, hw⟩)

theorem groupRun_of_seq {group : List String} {st st' : RunState} (h : r.groupSeq group st = some st') :
    r.GroupRun group st st' := by
  obtain ⟨outs, houts, rfl⟩ := Option.map_eq_some'.1 h
  exact ⟨outs, runSeq_views houts, _, _, _, .refl _, .refl _, .refl _, rfl⟩

theorem groupsRun_of_seq : ∀ {groups : List (List String)} {st st' : RunState},
    r.groupsSeq groups st = some st' → r.GroupsRun groups st st'
  | [], _, _, h => by
    simp only [groupsSeq, Option.some.injEq] at h
    exact h ▸ .nil _
  | _ :: _, _, _, h => by
    obtain ⟨st₁, h₁, h₂⟩ := Option.bind_eq_some.1 h
    exact .cons (groupRun_of_seq h₁) (groupsRun_of_seq h₂)

end RunCtx

/-- **Running each group's workers one after another is one way the
concurrent run can go.** -/
theorem buildRun_of_seq {env : Env} {callback : Option (Module → Except Error Unit)} {e : Engine}
    {moduleNames : List String} {result : Except Error Unit} {st : RunState}
    (h : buildWithCallbackSeq env callback e moduleNames = some (result, st)) :
    BuildRun env callback e moduleNames result st := by
  unfold buildWithCallbackSeq at h
  unfold BuildRun
  dsimp only at h ⊢
  split at h
  · simp_all
  · split at h
    · simp at h
    · simp_all
    · split at h
      · simp_all
      · obtain ⟨st', hst, hpair⟩ := Option.map_eq_some'.1 h
        simp only [Prod.mk.injEq] at hpair
        obtain ⟨rfl, rfl⟩ := hpair
        simp_all [RunCtx.groupsRun_of_seq hst]

/-- A concurrent run exists with whatever a check finds of the sequential
one: the form in which an evaluated run becomes a `BuildRun`. -/
theorem exists_buildRun_of_seq {env : Env} {callback : Option (Module → Except Error Unit)}
    {e : Engine} {moduleNames : List String} {f : Except Error Unit × RunState → Bool}
    (h : (buildWithCallbackSeq env callback e moduleNames).map f = some true) :
    ∃ result st, BuildRun env callback e moduleNames result st ∧ f (result, st) = true := by
  cases hs : buildWithCallbackSeq env callback e moduleNames with
  | none => simp [hs] at h
  | some p => exact ⟨p.1, p.2, buildRun_of_seq hs, by simpa [hs] using h⟩

end BuildEngine

end Ftl
