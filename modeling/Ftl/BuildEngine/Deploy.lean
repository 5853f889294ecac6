import Ftl.BuildEngine.Completion
/-!
# The build engine — deploying

Two ways the engine deploys. `BuildAndDeploy` runs `buildWithCallback` in
a goroutine of an `errgroup`, and its callback starts one more goroutine
per module it built, which deploys that module; `Wait` returns the error
of the first goroutine to fail. `Deploy` deploys every local module,
group by group of `TopologicalSort`, each group's goroutines under an
`errgroup` whose `Wait` must return nil before the next group starts.

`buildAndDeploy_reports_compile_errors`: when no deploy fails, what
`BuildAndDeploy` returns wraps every compile error of the run. A failed
deploy can finish first and hide them (`deploy_error_hides_compile_error`).
`deploy_spec` is what `Deploy` does, over every outcome of its `Deploy`
calls: a failed group stops the loop (`DeployGroups.of_some`), and that
it returns nil exactly when every call does needs `Graph` to hold no
module but the local ones and `builtin`. A remote dependency makes every
run fail without deploying anything (`remote_dependency_fails_deploy`).
-/


namespace Ftl

namespace BuildEngine

/-! ## What a build run reports -/

/-- Every compile that failed during a run has its error in `errCh`. -/
def CompileErrorsReported (env : Env) (st : RunState) : Prop :=
  ∀ {module : Module} {sch : Schema} {ce : Error}, .compiled module sch ∈ st.trace →
    env.build sch module = .error ce → ce ∈ st.errCh

namespace RunCtx

variable {r : RunCtx}

theorem GroupRun.compileErrorsReported {group : List String} {st st' : RunState}
    (hg : r.GroupRun group st st') (h : CompileErrorsReported r.env st) :
    CompileErrorsReported r.env st' := by
  obtain ⟨outs, hall, sent, errs, trace, -, herrs, htrace, rfl⟩ := hg
  intro module sch ce hc hb
  rcases List.mem_append.1 hc with hc | hc
  · exact List.mem_append_left _ (h hc hb)
  · obtain ⟨o, ho, hco⟩ := List.mem_flatMap.1 (htrace.subset hc)
    obtain ⟨m, -, view, -, hw⟩ := exists_mem_of_forall₂ hall.flip ho
    have hres := tryBuild_result_of_compiled hw hco hb
    exact List.mem_append_right _
      (herrs.symm.subset (List.mem_filterMap.2 ⟨o, ho, by simp [Outcome.error?, hres]⟩))

theorem GroupsRun.compileErrorsReported {groups : List (List String)} {st st' : RunState}
    (h : r.GroupsRun groups st st') (hst : CompileErrorsReported r.env st) :
    CompileErrorsReported r.env st' := by
  induction h with
  | nil => exact hst
  | cons hg _ ih => exact ih (hg.compileErrorsReported hst)

end RunCtx

/-- **A run in which a compile failed returns an error that joins the
compile error.** -/
theorem BuildRun.wraps_compile_errors {env : Env} {callback : Option (Module → Except Error Unit)}
    {e : Engine} {moduleNames : List String} {result : Except Error Unit} {st : RunState}
    (h : BuildRun env callback e moduleNames result st) {module : Module} {sch : Schema} {ce : Error}
    (hc : .compiled module sch ∈ st.trace) (hb : env.build sch module = .error ce) :
    ∃ errs, result = .error (.join errs) ∧ ce ∈ errs := by
  rcases h.cases with ⟨-, -, htr, -⟩ | ⟨_, _, -, -, -, hgroups, rfl⟩
  · simp [htr] at hc
  · have hce := hgroups.compileErrorsReported (fun hc _ => by simp [RunState.initial] at hc) hc hb
    unfold RunState.result
    split
    · next hnil => simp [hnil] at hce
    · exact ⟨_, rfl, hce⟩

/-! ## `BuildAndDeploy` -/

/-- The module a callback invocation is for. -/
def Event.callee : Event → Option Module
  | .called module => some module
  | .compiled _ _ => none

@[simp] theorem Event.callee_eq_some {ev : Event} {module : Module} :
    ev.callee = some module ↔ ev = .called module := by
  cases ev <;> simp [Event.callee]

/-- What the goroutines `BuildAndDeploy`'s callback starts return: one
`Deploy` for each module the callback ran for. -/
def deploys (env : Env) (trace : List Event) : List (Except Error Unit) :=
  (trace.filterMap Event.callee).map env.deploy

theorem mem_deploys {env : Env} {trace : List Event} {r : Except Error Unit} :
    r ∈ deploys env trace ↔ ∃ module, .called module ∈ trace ∧ env.deploy module = r := by
  simp [deploys]

/-- **`BuildAndDeploy`.** `buildWithCallback` runs in one goroutine of an
`errgroup`; its callback starts a goroutine that deploys the module, and
returns nil. `Wait` returns `result`, the error of the first goroutine to
fail in the order they finished (`none` for nil). A run whose `Graph`
does not return has no such pair. -/
def BuildAndDeployRun (env : Env) (e : Engine) (moduleNames : List String) (result : Option Error)
    (st : RunState) : Prop :=
  ∃ buildErr, BuildRun env (some fun _ => .ok ()) e moduleNames buildErr st ∧
    ∃ order, order.Perm (buildErr :: deploys env st.trace) ∧ firstError order = result

section BuildAndDeploy

variable {env : Env} {e : Engine} {moduleNames : List String} {result : Option Error} {st : RunState}

/-- **What `BuildAndDeploy` can return**, over every order in which its
goroutines finish: nil when the build and every deploy returned nil, and
otherwise the build's error or the error of any deploy that failed. -/
theorem buildAndDeployRun_iff :
    BuildAndDeployRun env e moduleNames result st ↔
      ∃ buildErr, BuildRun env (some fun _ => .ok ()) e moduleNames buildErr st ∧
        ((result = none ∧ buildErr = .ok () ∧
            ∀ module, .called module ∈ st.trace → env.deploy module = .ok ()) ∨
          ∃ err, result = some err ∧ (buildErr = .error err ∨
            ∃ module, .called module ∈ st.trace ∧ env.deploy module = .error err)) := by
  refine exists_congr fun buildErr => and_congr_right fun _ => ?_
  rw [firstError_perm_iff]
  simp only [List.forall_mem_cons]
  simp only [List.mem_cons, mem_deploys]
  constructor
  · rintro (⟨h, hb, hd⟩ | ⟨err, h, hb | hd⟩)
    · exact .inl ⟨h, hb, fun m hm => hd _ ⟨m, hm, rfl⟩⟩
    · exact .inr ⟨err, h, .inl hb.symm⟩
    · exact .inr ⟨err, h, .inr hd⟩
  · rintro (⟨h, hb, hd⟩ | ⟨err, h, hb | hd⟩)
    · exact .inl ⟨h, hb, fun _ ⟨m, hm, hr⟩ => hr ▸ hd m hm⟩
    · exact .inr ⟨err, h, .inl hb.symm⟩
    · exact .inr ⟨err, h, .inr hd⟩

/-- **When no deploy fails, `BuildAndDeploy` returns an error wrapping
the compile error of every module whose compilation failed.** -/
theorem buildAndDeploy_reports_compile_errors (hrun : BuildAndDeployRun env e moduleNames result st)
    (hdeploy : ∀ module, .called module ∈ st.trace → env.deploy module = .ok ())
    {module : Module} {sch : Schema} {ce : Error} (hc : .compiled module sch ∈ st.trace)
    (hb : env.build sch module = .error ce) :
    ∃ err, result = some err ∧ err.Is ce := by
  obtain ⟨buildErr, hbuild, hres⟩ := buildAndDeployRun_iff.1 hrun
  obtain ⟨errs, rfl, hce⟩ := hbuild.wraps_compile_errors hc hb
  rcases hres with ⟨-, h, -⟩ | ⟨err, rfl, h | ⟨m, hm, hd⟩⟩
  · cases h
  · cases h
    exact ⟨_, rfl, .of_mem_join hce⟩
  · cases (hdeploy m hm).symm.trans hd

/-- `BuildAndDeploy` with each group run sequentially, and the goroutines
finishing in the order they started. -/
def buildAndDeploySeq (env : Env) (e : Engine) (moduleNames : List String) :
    Option (Option Error × RunState) :=
  (buildWithCallbackSeq env (some fun _ => .ok ()) e moduleNames).map fun p =>
    (firstError (p.1 :: deploys env p.2.trace), p.2)

/-- **Running `BuildAndDeploy` sequentially is one way the concurrent run can go.** -/
theorem buildAndDeployRun_of_seq (h : buildAndDeploySeq env e moduleNames = some (result, st)) :
    BuildAndDeployRun env e moduleNames result st := by
  obtain ⟨⟨buildErr, st'⟩, hseq, hp⟩ := Option.map_eq_some'.1 h
  cases hp
  exact ⟨buildErr, buildRun_of_seq hseq, _, .refl _, rfl⟩

/-- A concurrent run of `BuildAndDeploy` exists with whatever a check
finds of the sequential one. -/
theorem exists_buildAndDeployRun_of_seq {f : Option Error × RunState → Bool}
    (h : (buildAndDeploySeq env e moduleNames).map f = some true) :
    ∃ result st, BuildAndDeployRun env e moduleNames result st ∧ f (result, st) = true := by
  cases hs : buildAndDeploySeq env e moduleNames with
  | none => simp [hs] at h
  | some p => exact ⟨p.1, p.2, buildAndDeployRun_of_seq hs, by simpa [hs] using h⟩

end BuildAndDeploy

/-- A compiler that fails on `a`, with `a` depending on `b`. -/
def failingAEnv : Env := chainEnv pairGraph [["b"], ["a"]] ["a"]

/-- With `a` and `b` both requested and `a` failing to compile, the
error `BuildAndDeploy` returns wraps `a`'s compile error. -/
theorem pair_compile_error_reported :
    ∃ result st, BuildAndDeployRun failingAEnv pairEngine ["a", "b"] result st ∧
      (∀ module, .called module ∈ st.trace → failingAEnv.deploy module = .ok ()) ∧
      .compiled ⟨"a", ["b"]⟩ [some ⟨"b", [], "b"⟩] ∈ st.trace ∧
      failingAEnv.build [some ⟨"b", [], "b"⟩] ⟨"a", ["b"]⟩ = .error (.new "a does not compile") ∧
      ∃ err, result = some err ∧ err.Is (.new "a does not compile") := by
  obtain ⟨result, st, hrun, hf⟩ := @exists_buildAndDeployRun_of_seq failingAEnv pairEngine ["a", "b"]
    (fun p => decide (Event.compiled ⟨"a", ["b"]⟩ [some ⟨"b", [], "b"⟩] ∈ p.2.trace)) (by decide)
  have hd : ∀ module, .called module ∈ st.trace → failingAEnv.deploy module = .ok () :=
    fun _ _ => rfl
  have hc := of_decide_eq_true hf
  have hb : failingAEnv.build [some ⟨"b", [], "b"⟩] ⟨"a", ["b"]⟩ = .error (.new "a does not compile") :=
    rfl
  exact ⟨result, st, hrun, hd, hc, hb, buildAndDeploy_reports_compile_errors hrun hd hc hb⟩

/-- `failingAEnv` with `b`'s deploy failing. -/
def deployFailEnv : Env := { failingAEnv with deploy := fun m => if m.name = "b" then .error (.new "b does not deploy") else .ok () }

/-- **A failed deploy can hide a compile error.** `b` is built and its
deploy starts; `a` then fails to compile. If `b`'s deploy fails before
the build goroutine returns, `Wait` returns the deploy's error, which
does not wrap `a`'s. -/
theorem deploy_error_hides_compile_error :
    ∃ result st, BuildAndDeployRun deployFailEnv pairEngine ["a", "b"] result st ∧
      .compiled ⟨"a", ["b"]⟩ [some ⟨"b", [], "b"⟩] ∈ st.trace ∧
      deployFailEnv.build [some ⟨"b", [], "b"⟩] ⟨"a", ["b"]⟩ = .error (.new "a does not compile") ∧
      ¬ ∃ err, result = some err ∧ err.Is (.new "a does not compile") := by
  obtain ⟨buildErr, st, hrun, hf⟩ := @exists_buildRun_of_seq deployFailEnv (some fun _ => .ok ())
    pairEngine ["a", "b"] (fun p => decide (p.2.trace = [.compiled ⟨"b", []⟩ [], .called ⟨"b", []⟩,
      .compiled ⟨"a", ["b"]⟩ [some ⟨"b", [], "b"⟩]])) (by decide)
  have htrace : st.trace = _ := of_decide_eq_true hf
  have hdeploys : deploys deployFailEnv st.trace = [.error (.new "b does not deploy")] := by
    rw [htrace]
    rfl
  refine ⟨some (.new "b does not deploy"), st, ⟨buildErr, hrun, [.error (.new "b does not deploy"), buildErr],
    by rw [hdeploys]; exact List.Perm.swap _ _ _, rfl⟩, by rw [htrace]; decide, rfl, ?_⟩
  rintro ⟨err, h, his⟩
  cases h
  exact absurd (Error.new.inj his.eq_of_new) (by decide)

/-! ## `Deploy` -/

/-- What one goroutine of a `Deploy` group returns: `module %q not found`
for a name no local module has, and otherwise what `Deploy` returns for
the module. -/
def deployResult (env : Env) (moduleMetas : GoMap ModuleMeta) (moduleName : String) :
    Except Error Unit :=
  match localModule moduleMetas moduleName with
  | none => .error (notFound moduleName)
  | some module => env.deploy module

/-- The names of a group that get a goroutine: all but `builtin`. -/
def deployed (group : List String) : List String := group.filter (· != "builtin")

/-- The modules a group's goroutines call `Deploy` for. -/
def groupCalls (moduleMetas : GoMap ModuleMeta) (group : List String) : List Module :=
  (deployed group).filterMap (localModule moduleMetas)

/-- One group: a goroutine for each name but `builtin`, under an
`errgroup` whose `Wait` returns `result`, the error of the first to fail
in the order they finished. -/
def DeployGroup (env : Env) (moduleMetas : GoMap ModuleMeta) (group : List String)
    (result : Option Error) : Prop :=
  ∃ order, order.Perm ((deployed group).map (deployResult env moduleMetas)) ∧ firstError order = result

/-- The loop over the groups: what it returns, and the `Deploy` calls of
each group that started. -/
inductive DeployGroups (env : Env) (moduleMetas : GoMap ModuleMeta) :
    List (List String) → Option Error → List (List Module) → Prop
  /-- Every group deployed. -/
  | nil : DeployGroups env moduleMetas [] none []
  /-- A group's `Wait` returned nil, and the next group starts. -/
  | ok {group : List String} {groups : List (List String)} {result : Option Error}
      {calls : List (List Module)} :
      DeployGroup env moduleMetas group none → DeployGroups env moduleMetas groups result calls →
      DeployGroups env moduleMetas (group :: groups) result (groupCalls moduleMetas group :: calls)
  /-- A group's `Wait` returned an error: `deploy failed: %w`. -/
  | error {group : List String} {groups : List (List String)} {err : Error} :
      DeployGroup env moduleMetas group (some err) →
      DeployGroups env moduleMetas (group :: groups) (some (.wrap "deploy failed" err))
        [groupCalls moduleMetas group]

/-- **`Deploy`**: `Graph` of every local module, `TopologicalSort`, and
the groups in order. `calls` holds the `Deploy` calls of each group that
started. A run whose `Graph` does not return has no such pair. -/
def DeployRun (env : Env) (e : Engine) (result : Option Error) (calls : List (List Module)) : Prop :=
  match (e.graph e.modules).run with
  | none => False
  | some (.error err) => result = some err ∧ calls = []
  | some (.ok graph) =>
    match env.topologicalSort graph with
    | .error err => result = some (.wrap "topological sort failed" err) ∧ calls = []
    | .ok groups => DeployGroups env e.moduleMetas groups result calls

section Deploy

variable {env : Env} {metas : GoMap ModuleMeta}

@[simp] theorem mem_deployed {group : List String} {n : String} :
    n ∈ deployed group ↔ n ∈ group ∧ n ≠ "builtin" := by
  simp [deployed]

theorem mem_groupCalls {group : List String} {m : Module} :
    m ∈ groupCalls metas group ↔ ∃ n ∈ deployed group, localModule metas n = some m := by
  simp [groupCalls]

theorem deployResult_of_localModule {n : String} {m : Module} (h : localModule metas n = some m) :
    deployResult env metas n = env.deploy m := by
  simp [deployResult, h]

theorem deployGroup_none_iff {group : List String} :
    DeployGroup env metas group none ↔ ∀ n ∈ deployed group, deployResult env metas n = .ok () := by
  simp only [DeployGroup, firstError_perm_iff, List.forall_mem_map]
  simp

theorem exists_of_deployGroup_some {group : List String} {err : Error}
    (h : DeployGroup env metas group (some err)) :
    ∃ n ∈ deployed group, deployResult env metas n = .error err := by
  rcases firstError_perm_iff.1 h with ⟨h, -⟩ | ⟨_, he, hmem⟩
  · cases h
  · cases he
    simpa using hmem

/-- The names of the modules a group deploys are among the group's names. -/
theorem groupCalls_names (hn : MetasNamed metas) :
    ∀ group : List String, ((groupCalls metas group).map (·.name)).Sublist group
  | [] => by simp [groupCalls, deployed]
  | n :: group => by
    have ih := groupCalls_names hn group
    by_cases hb : n = "builtin"
    · simpa [groupCalls, deployed, hb] using ih.cons n
    · cases hl : localModule metas n with
      | none => simpa [groupCalls, deployed, hb, hl] using ih.cons n
      | some module => simpa [groupCalls, deployed, hb, hl, hn n module hl] using ih.cons₂ n

namespace DeployGroups

variable {groups : List (List String)} {result : Option Error} {calls : List (List Module)}

/-- **A group starts only after every earlier group's `Wait` returned nil.** -/
theorem split (h : DeployGroups env metas groups result calls) :
    ∀ {pre cs post}, calls = pre ++ cs :: post →
      ∃ preG g postG, groups = preG ++ g :: postG ∧ pre = preG.map (groupCalls metas) ∧
        cs = groupCalls metas g ∧ ∀ g' ∈ preG, DeployGroup env metas g' none := by
  induction h with
  | nil => intro pre cs post hc; simp at hc
  | @ok group groups _ _ hg _ ih =>
    intro pre cs post hc
    cases pre with
    | nil =>
      cases hc
      exact ⟨[], group, groups, rfl, rfl, rfl, by simp⟩
    | cons p pre =>
      rw [List.cons_append, List.cons.injEq] at hc
      obtain ⟨rfl, hc⟩ := hc
      obtain ⟨preG, g, postG, rfl, rfl, rfl, hpre⟩ := ih hc
      exact ⟨group :: preG, g, postG, rfl, rfl, rfl, List.forall_mem_cons.2 ⟨hg, hpre⟩⟩
  | @error group groups _ _ =>
    intro pre cs post hc
    cases pre with
    | nil =>
      cases hc
      exact ⟨[], group, groups, rfl, rfl, rfl, by simp⟩
    | cons p pre => simp at hc

/-- When the loop returns nil, every group started and every `Wait`
returned nil. -/
theorem of_none (h : DeployGroups env metas groups result calls) (hr : result = none) :
    calls = groups.map (groupCalls metas) ∧ ∀ g ∈ groups, DeployGroup env metas g none := by
  induction h with
  | nil => simp
  | ok hg _ ih =>
    obtain ⟨rfl, hall⟩ := ih hr
    exact ⟨rfl, List.forall_mem_cons.2 ⟨hg, hall⟩⟩
  | error => cases hr

/-- **A failed group stops the loop.** When the loop returns an error,
the groups before some group `g` all returned nil, `g`'s `Wait` returned
the error it wraps, and no group after `g` started. -/
theorem of_some (h : DeployGroups env metas groups result calls) {err : Error} (hr : result = some err) :
    ∃ preG g postG inner, groups = preG ++ g :: postG ∧ calls = (preG ++ [g]).map (groupCalls metas) ∧
      err = .wrap "deploy failed" inner ∧ (∀ g' ∈ preG, DeployGroup env metas g' none) ∧
      DeployGroup env metas g (some inner) := by
  induction h with
  | nil => cases hr
  | @ok group _ _ _ hg _ ih =>
    obtain ⟨preG, g, postG, inner, rfl, rfl, rfl, hpre, hfail⟩ := ih hr
    exact ⟨group :: preG, g, postG, inner, rfl, rfl, rfl, List.forall_mem_cons.2 ⟨hg, hpre⟩, hfail⟩
  | @error group groups inner hg =>
    cases hr
    exact ⟨[], group, groups, inner, rfl, rfl, rfl, by simp, hg⟩

/-- Every `Deploy` call is for the local module of a name in a group,
other than `builtin`. -/
theorem mem_calls (h : DeployGroups env metas groups result calls) {m : Module}
    (hm : m ∈ calls.flatten) : ∃ n ∈ groups.flatten, n ≠ "builtin" ∧ localModule metas n = some m := by
  induction h with
  | nil => simp at hm
  | @ok group _ _ _ _ _ ih =>
    rcases List.mem_append.1 hm with hm | hm
    · obtain ⟨n, hn, hl⟩ := mem_groupCalls.1 hm
      exact ⟨n, List.mem_append_left _ (mem_deployed.1 hn).1, (mem_deployed.1 hn).2, hl⟩
    · obtain ⟨n, hn, hb, hl⟩ := ih hm
      exact ⟨n, List.mem_append_right _ hn, hb, hl⟩
  | @error group _ _ _ =>
    obtain ⟨n, hn, hl⟩ := mem_groupCalls.1 (by simpa using hm)
    exact ⟨n, List.mem_append_left _ (mem_deployed.1 hn).1, (mem_deployed.1 hn).2, hl⟩

theorem names_sublist (hn : MetasNamed metas) (h : DeployGroups env metas groups result calls) :
    (calls.flatten.map (·.name)).Sublist groups.flatten := by
  induction h with
  | nil => simp
  | @ok group _ _ _ _ _ ih =>
    simpa only [List.flatten_cons, List.map_append] using (groupCalls_names hn group).append ih
  | @error group _ _ _ => simpa using (groupCalls_names hn group).trans (List.sublist_append_left _ _)

/-- With no name that is neither local nor `builtin`, the loop returns
nil when every `Deploy` call does. -/
theorem none_of_calls_ok (h : DeployGroups env metas groups result calls)
    (hl : ∀ n ∈ groups.flatten, n ≠ "builtin" → n ∈ metas)
    (hok : ∀ m ∈ calls.flatten, env.deploy m = .ok ()) : result = none := by
  induction h with
  | nil => rfl
  | ok _ _ ih =>
    exact ih (fun n hn => hl n (List.mem_append_right _ hn))
      (fun m hm => hok m (List.mem_append_right _ hm))
  | @error group _ _ hg =>
    obtain ⟨n, hn, hres⟩ := exists_of_deployGroup_some hg
    obtain ⟨module, hmod⟩ := Option.isSome_iff_exists.1
      (mem_iff_localModule.1 (hl n (List.mem_append_left _ (mem_deployed.1 hn).1) (mem_deployed.1 hn).2))
    have hcall := hok module (by simpa using mem_groupCalls.2 ⟨n, hn, hmod⟩)
    rw [deployResult_of_localModule hmod, hcall] at hres
    cases hres

end DeployGroups

theorem DeployRun.groups {e : Engine} {graph : Graph} {groups : List (List String)}
    {result : Option Error} {calls : List (List Module)}
    (hgraph : (e.graph e.modules).run = some (.ok graph)) (hsort : env.topologicalSort graph = .ok groups)
    (h : DeployRun env e result calls) : DeployGroups env e.moduleMetas groups result calls := by
  simpa only [DeployRun, hgraph, hsort] using h

/-- **What `Deploy` does**, on an engine whose `Graph` returns and whose
`TopologicalSort` lays that graph out, for every outcome of its `Deploy`
calls. `Deploy` is called only for local modules other than `builtin`,
at most once for each, and for every one of them when it returns nil; a
module's call comes after the calls of its local dependencies returned
nil; and when `Graph` holds no module but the local ones and `builtin`,
it returns nil exactly when every call does. When it returns an error,
the groups before some group all deployed, a goroutine of that group
returned the error it wraps, and no later group started. -/
theorem deploy_spec {e : Engine} {graph : Graph} {groups : List (List String)}
    {result : Option Error} {calls : List (List Module)}
    (hgraph : (e.graph e.modules).run = some (.ok graph))
    (hsort : env.topologicalSort graph = .ok groups) (hlay : Layering graph groups)
    (hrun : DeployRun env e result calls) :
    (∀ m ∈ calls.flatten, m.name ≠ "builtin" ∧ localModule e.moduleMetas m.name = some m) ∧
    (calls.flatten.map (·.name)).Nodup ∧
    (result = none → ∀ name module, localModule e.moduleMetas name = some module →
      name ≠ "builtin" → module ∈ calls.flatten) ∧
    (∀ pre cs post, calls = pre ++ cs :: post → ∀ m ∈ cs, ∀ d ∈ m.dependencies, d ≠ "builtin" →
      ∀ dm, localModule e.moduleMetas d = some dm → dm ∈ pre.flatten ∧ env.deploy dm = .ok ()) ∧
    ((∀ n ∈ graph, n = "builtin" ∨ n ∈ e.moduleMetas) →
      (result = none ↔ ∀ m ∈ calls.flatten, env.deploy m = .ok ())) ∧
    (∀ err, result = some err → ∃ preG g postG inner, groups = preG ++ g :: postG ∧
      calls = (preG ++ [g]).map (groupCalls e.moduleMetas) ∧ err = .wrap "deploy failed" inner ∧
      (∀ g' ∈ preG, ∀ n ∈ deployed g', deployResult env e.moduleMetas n = .ok ()) ∧
      ∃ n ∈ deployed g, deployResult env e.moduleMetas n = .error inner) := by
  have h := hrun.groups hgraph hsort
  obtain ⟨hkeys, hvals⟩ := e.graph_ok hgraph
  refine ⟨fun m hm => ?_, (h.names_sublist e.metasNamed).nodup hlay.nodup, fun hnone n module hl hb => ?_,
    fun pre cs post hc m hm d hd hdb dm hdm => ?_, fun hlocal => ⟨fun hnone m hm => ?_,
      h.none_of_calls_ok fun n hn hb => (hlocal n (hlay.subset n hn)).resolve_left hb⟩,
    fun err herr => ?_⟩
  · obtain ⟨n, -, hb, hl⟩ := h.mem_calls hm
    rw [e.metasNamed n m hl]
    exact ⟨hb, hl⟩
  · -- every local module is a root of `Graph`, so laid out in a group
    have hroot : n ∈ e.graphRoots e.modules := by
      rw [Engine.graphRoots, ite_self]
      exact AList.mem_keys.2 (mem_iff_localModule.2 (by simp [hl]))
    obtain ⟨g, hg, hng⟩ := List.mem_flatten.1
      (hlay.covers n (AList.mem_keys.2 ((hkeys n).2 (Engine.reachable_of_mem hroot))))
    rw [(h.of_none hnone).1]
    exact List.mem_flatten.2 ⟨_, List.mem_map_of_mem _ hg, mem_groupCalls.2 ⟨n, mem_deployed.2 ⟨hng, hb⟩, hl⟩⟩
  · obtain ⟨preG, g, postG, hgroups, rfl, rfl, hpre⟩ := h.split hc
    obtain ⟨n, hn, hl⟩ := mem_groupCalls.1 hm
    have hng : n ∈ graph :=
      hlay.subset n (List.mem_flatten.2 ⟨g, by simp [hgroups], (mem_deployed.1 hn).1⟩)
    have hdpre := hlay.mem_before hgroups (mem_deployed.1 hn).1
      ((hvals n hng).trans (Engine.resolve_of_localModule hl)) hd
    obtain ⟨g', hg', hdg'⟩ := List.mem_flatten.1 hdpre
    have hdin : d ∈ deployed g' := mem_deployed.2 ⟨hdg', hdb⟩
    refine ⟨List.mem_flatten.2 ⟨_, List.mem_map_of_mem _ hg', mem_groupCalls.2 ⟨d, hdin, hdm⟩⟩, ?_⟩
    rw [← deployResult_of_localModule hdm]
    exact deployGroup_none_iff.1 (hpre g' hg') d hdin
  · obtain ⟨n, hn, hb, hl⟩ := h.mem_calls hm
    obtain ⟨g, hg, hng⟩ := List.mem_flatten.1 hn
    rw [← deployResult_of_localModule hl]
    exact deployGroup_none_iff.1 ((h.of_none hnone).2 g hg) n (mem_deployed.2 ⟨hng, hb⟩)
  · obtain ⟨preG, g, postG, inner, hgroups, hcalls, rfl, hpre, hfail⟩ := h.of_some herr
    exact ⟨preG, g, postG, inner, hgroups, hcalls, rfl, fun g' hg' => deployGroup_none_iff.1 (hpre g' hg'),
      exists_of_deployGroup_some hfail⟩

end Deploy

/-- The graph of every local module of `pairEngine`, as `Graph` enters it
from `Modules()`. -/
def pairModulesGraph : Graph := ((∅ : Graph).insert "b" []).insert "a" ["b"]

/-- `Deploy` on `pairEngine`, every deploy succeeding: `b`'s group, then
`a`'s, and `a` is deployed. -/
theorem pair_deploys_both :
    (pairEngine.graph pairEngine.modules).run = some (.ok pairModulesGraph) ∧
    (chainEnv pairModulesGraph [["b"], ["a"]] []).topologicalSort pairModulesGraph =
      .ok [["b"], ["a"]] ∧
    Layering pairModulesGraph [["b"], ["a"]] ∧
    DeployRun (chainEnv pairModulesGraph [["b"], ["a"]] []) pairEngine none
      [[⟨"b", []⟩], [⟨"a", ["b"]⟩]] ∧
    (⟨"a", ["b"]⟩ : Module) ∈ ([[⟨"b", []⟩], [⟨"a", ["b"]⟩]] : List (List Module)).flatten :=
  have hg : (pairEngine.graph pairEngine.modules).run = some (.ok pairModulesGraph) := rfl
  have hs : (chainEnv pairModulesGraph [["b"], ["a"]] []).topologicalSort pairModulesGraph =
      .ok [["b"], ["a"]] := rfl
  have hl : Layering pairModulesGraph [["b"], ["a"]] := ⟨by decide, by decide, by decide, by decide⟩
  have hb : DeployGroup (chainEnv pairModulesGraph [["b"], ["a"]] []) pairEngine.moduleMetas ["b"] none :=
    ⟨_, .refl _, rfl⟩
  have ha : DeployGroup (chainEnv pairModulesGraph [["b"], ["a"]] []) pairEngine.moduleMetas ["a"] none :=
    ⟨_, .refl _, rfl⟩
  have hr : DeployRun (chainEnv pairModulesGraph [["b"], ["a"]] []) pairEngine none
      [[⟨"b", []⟩], [⟨"a", ["b"]⟩]] := by
    simp only [DeployRun, hg, hs]
    exact .ok hb (.ok ha .nil)
  ⟨hg, hs, hl, hr, (deploy_spec hg hs hl hr).2.2.1 rfl "a" ⟨"a", ["b"]⟩ rfl (by decide)⟩

/-- `a` depends on `r`, a module the controller serves and no local one. -/
def remoteEngine : Engine := .ofModules [⟨"a", ["r"]⟩] [⟨"r", [], "r"⟩]

/-- The graph of `remoteEngine`. -/
def remoteGraph : Graph := ((∅ : Graph).insert "a" ["r"]).insert "r" []

/-- **A remote dependency makes `Deploy` fail, and deploy nothing,
without a failed call.** `Graph` holds `r`, which a dependency-respecting
`TopologicalSort` puts in the first group. Whatever `Deploy` returns for
each module, `r`'s goroutine finds no local module `r` and returns
`module "r" not found`, so every run of `Deploy` returns that error
wrapped, having started no goroutine for the local module `a`: the
failed group stops the loop before `a`'s. -/
theorem remote_dependency_fails_deploy :
    (remoteEngine.graph remoteEngine.modules).run = some (.ok remoteGraph) ∧
    Layering remoteGraph [["r"], ["a"]] ∧
    localModule remoteEngine.moduleMetas "a" = some ⟨"a", ["r"]⟩ ∧
    ∀ env : Env, env.topologicalSort remoteGraph = .ok [["r"], ["a"]] →
      ∀ result calls, DeployRun env remoteEngine result calls ↔
        result = some (.wrap "deploy failed" (notFound "r")) ∧ calls = [[]] := by
  have hg : (remoteEngine.graph remoteEngine.modules).run = some (.ok remoteGraph) := rfl
  refine ⟨hg, ⟨by decide, by decide, by decide, by decide⟩, rfl, fun env hs result calls => ?_⟩
  have hr : deployResult env remoteEngine.moduleMetas "r" = .error (notFound "r") := rfl
  simp only [DeployRun, hg, hs]
  constructor
  · intro h
    cases h with
    | ok hok _ => cases hr.symm.trans (deployGroup_none_iff.1 hok "r" (by decide))
    | error hfail =>
      obtain ⟨n, hn, hres⟩ := exists_of_deployGroup_some hfail
      obtain rfl : n = "r" := by simpa using (mem_deployed.1 hn).1
      cases hr.symm.trans hres
      exact ⟨rfl, rfl⟩
  · rintro ⟨rfl, rfl⟩
    exact .error ⟨_, .refl _, rfl⟩

end BuildEngine

end Ftl
