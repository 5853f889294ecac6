import Ftl.BuildEngine.Graph
/-!
# The build engine — one worker

A worker of `buildWithCallback` runs `tryBuild` on one module of a group:
a module that was not requested takes the controller's schema, or is
built (`mustSchema`); a requested one is built unless a dependency is
missing from `builtModules`, and then its callback runs. `build` hands the
compiler the combined schema `gatherSchemas` collects and sends the schema
the compiler wrote. What a worker leaves behind is an `Outcome`.

A worker reads `moduleMetas` only through `localModule`, never a build
time, and `builtModules` only through `lookup`; `tryBuild_congr` says so,
and it is why the start times other workers store while it runs cannot
change what it does. The `*_of_*` lemmas are its contract: what it sent,
what it compiled, and which error it reports.
-/


namespace Ftl

namespace BuildEngine

/-- What one worker of `buildWithCallback` leaves behind. -/
structure Outcome where
  /-- The schemas it sent on its group's channel, in order. -/
  sent : List SchemaModule := []
  /-- The `moduleMeta` it stored for its module before building it. -/
  stamp : Option ModuleMeta := none
  /-- The compiler and callback invocations it made, in order. -/
  trace : List Event := []
  /-- What `tryBuild` returned; the worker sends an error on `errCh`. -/
  result : Except Error Unit := .ok ()

/-- The error a worker sends on `errCh`, if any. -/
def Outcome.error? (o : Outcome) : Option Error :=
  match o.result with
  | .error err => some err
  | .ok () => none

/-- The local module stored under `name`: all a worker reads of `moduleMetas`. -/
def localModule (moduleMetas : GoMap ModuleMeta) (name : String) : Option Module :=
  (moduleMetas.lookup name).map (·.module)

/-- `gatherSchemas`: enters in `out` each dependency of the module, with
its schema in `moduleSchemas` (`nil` if none), and recurses into those
that are local modules. It keeps no record of what it visited, so on a
cycle of local modules it never returns; its recursion runs on `fuel`,
and `none` is that case. It returns an error only if a recursive call
does, which none can, so the model returns the map. -/
def gatherSchemas (moduleMetas : GoMap ModuleMeta) (moduleSchemas : GoMap SchemaModule) :
    Nat → Module → GoMap (Option SchemaModule) → Option (GoMap (Option SchemaModule))
  | 0, _, _ => none
  | fuel + 1, module, out =>
    let latestModule := (localModule moduleMetas module.name).getD module
    latestModule.dependencies.foldlM (fun out dep =>
      let out := out.insert dep (moduleSchemas.lookup dep)
      if dep ≠ "builtin" then
        match localModule moduleMetas dep with
        | some depModule => gatherSchemas moduleMetas moduleSchemas fuel depModule out
        | none => some out
      else some out) out

/-- What `build` does once it holds the combined schema: `Build`, then
reading the schema file and sending the schema. -/
def compile (env : Env) (module : Module) (combined : GoMap (Option SchemaModule)) : Outcome :=
  let sch : Schema := combined.entries.map (·.2)
  let trace := [Event.compiled module sch]
  match env.build sch module with
  | .error err => { trace, result := .error err }
  | .ok () =>
    match env.moduleFromProtoFile module with
    | .error err =>
      { trace, result := .error (.wrap ("could not load schema for module " ++ module.name.quote) err) }
    | .ok moduleSchema => { sent := [moduleSchema], trace }

/-- `build`: compiles a local module against the combined schema of its
transitive dependencies. `gatherSchemas` gets one more unit of fuel than
there are local modules, as deep as a chain of distinct ones goes. -/
def build (env : Env) (moduleMetas : GoMap ModuleMeta) (builtModules : GoMap SchemaModule)
    (moduleName : String) : Option Outcome :=
  match localModule moduleMetas moduleName with
  | none => some { result := .error (notFound moduleName) }
  | some module =>
    (gatherSchemas moduleMetas builtModules (moduleMetas.keys.length + 1) module ∅).map
      (compile env module)

/-- `mustSchema`: the controller's schema for the module, or else a build. -/
def mustSchema (env : Env) (moduleMetas : GoMap ModuleMeta)
    (controllerSchema builtModules : GoMap SchemaModule) (moduleName : String) : Option Outcome :=
  match controllerSchema.lookup moduleName with
  | some sch => some { sent := [sch] }
  | none => build env moduleMetas builtModules moduleName

/-- What `tryBuild` adds to the build of a requested module: the start
time it stored, and the callback when the build succeeded. -/
def afterBuild (callback : Option (Module → Except Error Unit)) (meta : ModuleMeta) (o : Outcome) :
    Outcome :=
  match o.result, callback with
  | .ok (), some callback =>
    { o with stamp := some meta, trace := o.trace ++ [.called meta.module],
             result := callback meta.module }
  | _, _ => { o with stamp := some meta }

/-- `tryBuild`. A requested module with a dependency missing from
`builtModules` is skipped with a warning, and no error. -/
def tryBuild (env : Env) (callback : Option (Module → Except Error Unit)) (mustBuild : List String)
    (moduleMetas : GoMap ModuleMeta) (controllerSchema builtModules : GoMap SchemaModule)
    (moduleName : String) : Option Outcome :=
  if moduleName ∉ mustBuild then mustSchema env moduleMetas controllerSchema builtModules moduleName
  else
    match localModule moduleMetas moduleName with
    | none => some { result := .error (.new ("Module " ++ moduleName.quote ++ " not found")) }
    | some module =>
      if ∀ dep ∈ module.dependencies, dep ∈ builtModules then
        let meta : ModuleMeta := ⟨module, env.now moduleName⟩
        (build env (moduleMetas.insert moduleName meta) builtModules moduleName).map
          (afterBuild callback meta)
      else some {}

/-! ## What a worker reads -/

/-- Two states of `moduleMetas` holding the same modules, whatever their
build times: every view a worker can have of the map while the other
workers of its group store their start times. -/
def SameModules (m m' : GoMap ModuleMeta) : Prop := ∀ name, localModule m name = localModule m' name

/-- Every local module is stored under its own name. -/
def MetasNamed (m : GoMap ModuleMeta) : Prop :=
  ∀ name module, localModule m name = some module → module.name = name

theorem Engine.metasNamed (e : Engine) : MetasNamed e.moduleMetas := fun _ _ h => by
  obtain ⟨meta, hmeta, rfl⟩ := Option.map_eq_some'.1 h
  exact e.metas_named hmeta

/-- The schema the compiler writes for a module carries the module's name:
the condition under which `builtModules`, keyed by schema name, is keyed
by module. Nothing in the code checks it. -/
def Env.NamesSchemas (env : Env) : Prop :=
  ∀ {module : Module} {s : SchemaModule}, env.moduleFromProtoFile module = .ok s → s.name = module.name

variable {env : Env} {callback : Option (Module → Except Error Unit)} {mustBuild : List String}
variable {m m' : GoMap ModuleMeta} {c b b' : GoMap SchemaModule} {k : String} {o : Outcome}

@[simp] theorem localModule_insert_self (meta : ModuleMeta) :
    localModule (m.insert k meta) k = some meta.module := by
  simp [localModule, AList.lookup_insert]

@[simp] theorem localModule_insert_ne {k' : String} (meta : ModuleMeta) (h : k' ≠ k) :
    localModule (m.insert k meta) k' = localModule m k' := by
  simp [localModule, AList.lookup_insert_ne h]

theorem mem_iff_localModule : k ∈ m ↔ (localModule m k).isSome := by
  rw [localModule, Option.isSome_map', AList.lookup_isSome]

/-- A local module is what `Graph` resolves its name to. -/
theorem Engine.resolve_of_localModule {e : Engine} {name : String} {module : Module}
    (h : localModule e.moduleMetas name = some module) : e.resolve name = some module.dependencies := by
  obtain ⟨meta, hmeta, rfl⟩ := Option.map_eq_some'.1 h
  simp [Engine.resolve, hmeta]

namespace SameModules

theorem refl (m : GoMap ModuleMeta) : SameModules m m := fun _ => rfl

theorem symm (h : SameModules m m') : SameModules m' m := fun k => (h k).symm

theorem trans {m'' : GoMap ModuleMeta} (h : SameModules m m') (h' : SameModules m' m'') :
    SameModules m m'' := fun k => (h k).trans (h' k)

theorem keys_length (h : SameModules m m') : m.keys.length = m'.keys.length :=
  List.Perm.length_eq <| (List.perm_ext_iff_of_nodup m.keys_nodup m'.keys_nodup).2 fun k => by
    rw [← AList.mem_keys, ← AList.mem_keys, mem_iff_localModule, mem_iff_localModule, h k]

theorem insert (h : SameModules m m') (meta : ModuleMeta) :
    SameModules (m.insert k meta) (m'.insert k meta) := fun k' => by
  by_cases hk : k' = k
  · subst hk; simp
  · simp [hk, h k']

/-- Storing a start time changes no module. -/
theorem insert_self (meta : ModuleMeta) (h : localModule m k = some meta.module) :
    SameModules (m.insert k meta) m := fun k' => by
  by_cases hk : k' = k
  · subst hk; simp [h]
  · simp [hk]

theorem metasNamed (h : SameModules m m') (hn : MetasNamed m') : MetasNamed m :=
  fun _ _ hk => hn _ _ ((h _).symm.trans hk)

end SameModules

theorem gatherSchemas_congr (h : SameModules m m') (hb : ∀ k, b.lookup k = b'.lookup k) :
    ∀ fuel module out, gatherSchemas m b fuel module out = gatherSchemas m' b' fuel module out
  | 0, _, _ => rfl
  | fuel + 1, module, out => by
    simp only [gatherSchemas, h _, hb _, gatherSchemas_congr h hb fuel]

theorem build_congr (h : SameModules m m') (hb : ∀ k, b.lookup k = b'.lookup k) :
    build env m b k = build env m' b' k := by
  simp only [build, h k, h.keys_length, gatherSchemas_congr h hb]

/-- **A worker reads the modules of `moduleMetas`, not their build times,
and `builtModules` through its entries.** -/
theorem tryBuild_congr (h : SameModules m m') (hb : ∀ k, b.lookup k = b'.lookup k) :
    tryBuild env callback mustBuild m c b k = tryBuild env callback mustBuild m' c b' k := by
  have hmem : ∀ d, d ∈ b ↔ d ∈ b' := fun d => by rw [← AList.lookup_isSome, hb d, AList.lookup_isSome]
  simp only [tryBuild, mustSchema, build_congr h hb, h k, hmem, build_congr (h.insert _) hb]

/-! ## What a worker does -/

section Compile

variable {module : Module} {combined : GoMap (Option SchemaModule)}

@[simp] theorem compile_trace :
    (compile env module combined).trace = [.compiled module (combined.entries.map (·.2))] := by
  cases hb : env.build (combined.entries.map (·.2)) module <;>
    cases hm : env.moduleFromProtoFile module <;> simp [compile, hb, hm]

@[simp] theorem compile_stamp : (compile env module combined).stamp = none := by
  cases hb : env.build (combined.entries.map (·.2)) module <;>
    cases hm : env.moduleFromProtoFile module <;> simp [compile, hb, hm]

theorem moduleFromProtoFile_of_mem_sent {s : SchemaModule} (h : s ∈ (compile env module combined).sent) :
    env.moduleFromProtoFile module = .ok s := by
  cases hb : env.build (combined.entries.map (·.2)) module <;>
    cases hm : env.moduleFromProtoFile module <;> simp_all [compile]

theorem compile_ok (h : (compile env module combined).result = .ok ()) :
    env.build (combined.entries.map (·.2)) module = .ok () ∧
      ∃ s, env.moduleFromProtoFile module = .ok s ∧ (compile env module combined).sent = [s] := by
  cases hb : env.build (combined.entries.map (·.2)) module <;>
    cases hm : env.moduleFromProtoFile module <;> simp_all [compile]

theorem compile_sent_length : (compile env module combined).sent.length ≤ 1 := by
  cases hb : env.build (combined.entries.map (·.2)) module <;>
    cases hm : env.moduleFromProtoFile module <;> simp [compile, hb, hm]

/-- A failing `Build` is what `build` reports. -/
theorem compile_result_of_build_error {ce : Error}
    (h : env.build (combined.entries.map (·.2)) module = .error ce) :
    (compile env module combined).result = .error ce := by
  simp [compile, h]

end Compile

section AfterBuild

variable {meta : ModuleMeta}

@[simp] theorem afterBuild_sent : (afterBuild callback meta o).sent = o.sent := by
  unfold afterBuild; split <;> rfl

@[simp] theorem afterBuild_stamp : (afterBuild callback meta o).stamp = some meta := by
  unfold afterBuild; split <;> rfl

theorem afterBuild_of_ok {cb : Module → Except Error Unit} (h : o.result = .ok ()) :
    afterBuild (some cb) meta o =
      { o with stamp := some meta, trace := o.trace ++ [.called meta.module], result := cb meta.module } := by
  simp [afterBuild, h]

theorem afterBuild_of_not_ok (h : o.result ≠ .ok ()) :
    afterBuild callback meta o = { o with stamp := some meta } := by
  unfold afterBuild; split <;> simp_all

theorem compiled_mem_of_afterBuild {module : Module} {sch : Schema}
    (h : .compiled module sch ∈ (afterBuild callback meta o).trace) : .compiled module sch ∈ o.trace := by
  unfold afterBuild at h; split at h <;> simp_all

theorem result_of_afterBuild_ok (h : (afterBuild callback meta o).result = .ok ()) :
    o.result = .ok () := by
  by_contra hne
  rw [afterBuild_of_not_ok hne] at h
  exact hne h

end AfterBuild

theorem build_eq_some (h : build env m b k = some o) :
    (localModule m k = none ∧ o = { result := .error (notFound k) }) ∨
      ∃ module combined, localModule m k = some module ∧
        gatherSchemas m b (m.keys.length + 1) module ∅ = some combined ∧
          o = compile env module combined := by
  unfold build at h
  cases hl : localModule m k with
  | none =>
    simp only [hl, Option.some.injEq] at h
    exact .inl ⟨rfl, h.symm⟩
  | some module =>
    simp only [hl] at h
    obtain ⟨c, hc, rfl⟩ := Option.map_eq_some'.1 h
    exact .inr ⟨module, c, rfl, hc, rfl⟩

/-- **Every way `tryBuild` can return**, with the guards that lead there. -/
theorem tryBuild_eq_some (h : tryBuild env callback mustBuild m c b k = some o) :
    (k ∉ mustBuild ∧
      ((∃ sch, c.lookup k = some sch ∧ o = { sent := [sch] }) ∨
        (c.lookup k = none ∧ build env m b k = some o))) ∨
    (k ∈ mustBuild ∧ localModule m k = none ∧
      o = { result := .error (.new ("Module " ++ k.quote ++ " not found")) }) ∨
    (k ∈ mustBuild ∧ ∃ module, localModule m k = some module ∧
      (∃ d ∈ module.dependencies, d ∉ b) ∧ o = {}) ∨
    (k ∈ mustBuild ∧ ∃ module o', localModule m k = some module ∧
      (∀ d ∈ module.dependencies, d ∈ b) ∧
      build env (m.insert k ⟨module, env.now k⟩) b k = some o' ∧
      o = afterBuild callback ⟨module, env.now k⟩ o') := by
  unfold tryBuild mustSchema at h
  by_cases hk : k ∈ mustBuild
  · rw [if_neg (not_not.2 hk)] at h
    cases hl : localModule m k with
    | none =>
      simp only [hl, Option.some.injEq] at h
      exact .inr (.inl ⟨hk, rfl, h.symm⟩)
    | some module =>
      simp only [hl] at h
      by_cases hd : ∀ d ∈ module.dependencies, d ∈ b
      · rw [if_pos hd] at h
        obtain ⟨o', ho', rfl⟩ := Option.map_eq_some'.1 h
        exact .inr (.inr (.inr ⟨hk, module, o', rfl, hd, ho', rfl⟩))
      · rw [if_neg hd] at h
        push_neg at hd
        exact .inr (.inr (.inl ⟨hk, module, rfl, hd, (Option.some.inj h).symm⟩))
  · rw [if_pos hk] at h
    cases hc : c.lookup k with
    | none =>
      rw [hc] at h
      exact .inl ⟨hk, .inr ⟨rfl, h⟩⟩
    | some sch =>
      rw [hc] at h
      exact .inl ⟨hk, .inl ⟨sch, rfl, (Option.some.inj h).symm⟩⟩

/-! ## The worker's contract -/

theorem build_stamp (h : build env m b k = some o) : o.stamp = none := by
  rcases build_eq_some h with ⟨-, rfl⟩ | ⟨module, c, -, -, rfl⟩ <;> simp

theorem build_sent_name (hn : MetasNamed m) (henv : env.NamesSchemas) (h : build env m b k = some o) :
    ∀ s ∈ o.sent, s.name = k := by
  rcases build_eq_some h with ⟨-, rfl⟩ | ⟨module, c, hl, -, rfl⟩
  · simp
  · exact fun s hs => (henv (moduleFromProtoFile_of_mem_sent hs)).trans (hn _ _ hl)

theorem build_sent_of_ok (h : build env m b k = some o) (hok : o.result = .ok ()) : o.sent ≠ [] := by
  rcases build_eq_some h with ⟨-, rfl⟩ | ⟨module, c, -, -, rfl⟩
  · simp at hok
  · obtain ⟨-, s, -, hs⟩ := compile_ok hok
    simp [hs]

theorem build_sent_length (h : build env m b k = some o) : o.sent.length ≤ 1 := by
  rcases build_eq_some h with ⟨-, rfl⟩ | ⟨module, c, -, -, rfl⟩
  · simp
  · exact compile_sent_length

theorem build_result_of_compiled {module : Module} {sch : Schema} {ce : Error}
    (h : build env m b k = some o) (hc : .compiled module sch ∈ o.trace)
    (hb : env.build sch module = .error ce) : o.result = .error ce := by
  rcases build_eq_some h with ⟨-, rfl⟩ | ⟨module', c, -, -, rfl⟩
  · simp at hc
  · simp only [compile_trace, List.mem_singleton, Event.compiled.injEq] at hc
    obtain ⟨rfl, rfl⟩ := hc
    exact compile_result_of_build_error hb

/-- **Every schema a worker sends is named after its module**, when the
compiler's schemas are named after theirs. -/
theorem tryBuild_sent_name (hn : MetasNamed m)
    (hc : ∀ {k : String} {s : SchemaModule}, c.lookup k = some s → s.name = k)
    (henv : env.NamesSchemas) (h : tryBuild env callback mustBuild m c b k = some o) :
    ∀ s ∈ o.sent, s.name = k := by
  rcases tryBuild_eq_some h with ⟨-, ⟨sch, hsch, rfl⟩ | ⟨-, hb⟩⟩ | ⟨-, -, rfl⟩ |
    ⟨-, _, -, -, rfl⟩ | ⟨-, module, o', hl, -, hb, rfl⟩
  · simpa using hc hsch
  · exact build_sent_name hn henv hb
  · simp
  · simp
  · simpa using build_sent_name ((SameModules.insert_self ⟨module, env.now k⟩ hl).metasNamed hn) henv hb

/-- A worker sends at most one schema. -/
theorem tryBuild_sent_length (h : tryBuild env callback mustBuild m c b k = some o) :
    o.sent.length ≤ 1 := by
  rcases tryBuild_eq_some h with ⟨-, ⟨sch, -, rfl⟩ | ⟨-, hb⟩⟩ | ⟨-, -, rfl⟩ |
    ⟨-, _, -, -, rfl⟩ | ⟨-, module, o', -, -, hb, rfl⟩
  · simp
  · exact build_sent_length hb
  · simp
  · simp
  · simpa using build_sent_length hb

/-- **A worker that reports no error has sent a schema**, provided every
dependency of a requested module is built: the skip is the one silent
path. -/
theorem tryBuild_sent_of_ok (h : tryBuild env callback mustBuild m c b k = some o)
    (hok : o.result = .ok ())
    (hdeps : ∀ module, k ∈ mustBuild → localModule m k = some module →
      ∀ d ∈ module.dependencies, d ∈ b) : o.sent ≠ [] := by
  rcases tryBuild_eq_some h with ⟨-, ⟨sch, -, rfl⟩ | ⟨-, hb⟩⟩ | ⟨-, -, rfl⟩ |
    ⟨hk, module, hl, ⟨d, hd, hdb⟩, rfl⟩ | ⟨-, module, o', -, -, hb, rfl⟩
  · simp
  · exact build_sent_of_ok hb hok
  · simp at hok
  · exact absurd (hdeps module hk hl d hd) hdb
  · rw [afterBuild_sent]
    exact build_sent_of_ok hb (result_of_afterBuild_ok hok)

/-- **A requested module whose worker reports no error was compiled, and
its callback ran and succeeded**, provided its dependencies are built. -/
theorem tryBuild_requested_of_ok {cb : Module → Except Error Unit}
    (h : tryBuild env (some cb) mustBuild m c b k = some o) (hk : k ∈ mustBuild)
    (hok : o.result = .ok ())
    (hdeps : ∀ module, localModule m k = some module → ∀ d ∈ module.dependencies, d ∈ b) :
    ∃ module sch, localModule m k = some module ∧ .compiled module sch ∈ o.trace ∧
      env.build sch module = .ok () ∧ (∃ s, env.moduleFromProtoFile module = .ok s) ∧
      .called module ∈ o.trace ∧ cb module = .ok () := by
  rcases tryBuild_eq_some h with ⟨hk', -⟩ | ⟨-, -, rfl⟩ |
    ⟨-, module, hl, ⟨d, hd, hdb⟩, rfl⟩ | ⟨-, module, o', hl, -, hb, rfl⟩
  · exact absurd hk hk'
  · simp at hok
  · exact absurd (hdeps module hl d hd) hdb
  · have hok' := result_of_afterBuild_ok hok
    rw [afterBuild_of_ok hok'] at hok ⊢
    rcases build_eq_some hb with ⟨-, rfl⟩ | ⟨module', c, hl', -, rfl⟩
    · simp at hok'
    · simp only [localModule_insert_self, Option.some.injEq] at hl'
      subst hl'
      obtain ⟨hbuild, s, hs, -⟩ := compile_ok hok'
      exact ⟨module, _, hl, by simp, hbuild, ⟨s, hs⟩, by simp, hok⟩

/-- **A failed compilation is the error its worker reports.** -/
theorem tryBuild_result_of_compiled {module : Module} {sch : Schema} {ce : Error}
    (h : tryBuild env callback mustBuild m c b k = some o) (hc : .compiled module sch ∈ o.trace)
    (hb : env.build sch module = .error ce) : o.result = .error ce := by
  rcases tryBuild_eq_some h with ⟨-, ⟨sch, -, rfl⟩ | ⟨-, hb'⟩⟩ | ⟨-, -, rfl⟩ |
    ⟨-, _, -, -, rfl⟩ | ⟨-, module', o', -, -, hb', rfl⟩
  · simp at hc
  · exact build_result_of_compiled hb' hc hb
  · simp at hc
  · simp at hc
  · have hres := build_result_of_compiled hb' (compiled_mem_of_afterBuild hc) hb
    rw [afterBuild_of_not_ok (by simp [hres])]
    exact hres

/-- What a worker stores in `moduleMetas` is its own module, with a new
start time. -/
theorem tryBuild_stamp (h : tryBuild env callback mustBuild m c b k = some o) {meta : ModuleMeta}
    (hs : o.stamp = some meta) : localModule m k = some meta.module := by
  rcases tryBuild_eq_some h with ⟨-, ⟨sch, -, rfl⟩ | ⟨-, hb⟩⟩ | ⟨-, -, rfl⟩ |
    ⟨-, _, -, -, rfl⟩ | ⟨-, module, o', hl, -, -, rfl⟩
  · simp at hs
  · simp [build_stamp hb] at hs
  · simp at hs
  · simp at hs
  · simp only [afterBuild_stamp, Option.some.injEq] at hs
    subst hs
    exact hl

end BuildEngine

end Ftl
