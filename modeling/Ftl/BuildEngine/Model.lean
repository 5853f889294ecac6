import Mathlib.Data.List.AList
import Ftl.Go.Basic
/-!
# The build engine — its data

What `buildengine/engine.go` keeps and reads: the local modules with the
start time of their last build (`moduleMetas`), the schemas the
controller publishes (`controllerSchema`), and the collaborators whose
code is not under `src/` (`Env`). A Go map with string keys is an
`AList`, whose keys are distinct as a Go map's are.

An `Engine` carries the two facts every way of filling its maps keeps:
a local module is stored under its own name (`New` and the dev loop store
`module.Config.Module`), and a controller schema under its own name
(`startSchemaSync` and `Import` store `sch.Name`, `New` stores
`schema.Builtins()` under `"builtin"`).

`Each` runs a function over the local modules in the order the map's
`Range` visits them, which Go leaves open; `each_perm_iff` says what it can
return over every such order.
-/


namespace Ftl

/-- A Go `map[string]V`. -/
abbrev GoMap (V : Type) := AList (fun _ : String => V)

/-- A lookup after an insert, by cases on the key. -/
theorem GoMap.lookup_insert_ite {V : Type} (m : GoMap V) (k k' : String) (v : V) :
    (m.insert k v).lookup k' = if k' = k then some v else m.lookup k' := by
  split
  · next h => subst h; exact AList.lookup_insert m
  · next h => exact AList.lookup_insert_ne h

namespace BuildEngine

/-- A local module (`Module`): its name, `Config.Module`, and the
dependencies its configuration declares. -/
structure Module where
  name : String
  dependencies : List String
deriving DecidableEq, Repr

/-- `moduleMeta`: a local module and the start time of its last build. -/
structure ModuleMeta where
  module : Module
  lastBuildStartTime : Nat
deriving DecidableEq, Repr

/-- A module's schema, `*schema.Module`, as the engine reads it: its
`Name`, what `Imports()` returns, and what `String()` renders. -/
structure SchemaModule where
  name : String
  imports : List String
  text : String
deriving DecidableEq, Repr

/-- The combined schema `build` hands the compiler, `maps.Values(combined)`:
a dependency nothing was built for is a `nil` module. -/
abbrev Schema := List (Option SchemaModule)

/-- `map[string][]string`, what `Graph` returns. -/
abbrev Graph := GoMap (List String)

/-- The engine's maps, with the naming facts every reachable state has. -/
structure Engine where
  moduleMetas : GoMap ModuleMeta
  controllerSchema : GoMap SchemaModule
  metas_named : ∀ {name : String} {meta : ModuleMeta},
    moduleMetas.lookup name = some meta → meta.module.name = name
  controller_named : ∀ {name : String} {sch : SchemaModule},
    controllerSchema.lookup name = some sch → sch.name = name

/-- The collaborators of the engine whose code is not under `src/`. Each is
a parameter, so every result holds whatever they do. -/
structure Env where
  /-- `UpdateDependencies`, modelled from the spec: the dependencies the
  module's sources declare now. -/
  updateDependencies : Module → Except Error (List String)
  /-- `TopologicalSort`. -/
  topologicalSort : Graph → Except Error (List (List String))
  /-- `Build`, the language's compiler, run on the combined schema. -/
  build : Schema → Module → Except Error Unit
  /-- `schema.ModuleFromProtoFile`, on the schema file the compiler wrote. -/
  moduleFromProtoFile : Module → Except Error SchemaModule
  /-- `Deploy`, of one built module. -/
  deploy : Module → Except Error Unit
  /-- `time.Now()`, when the named module's build starts. -/
  now : String → Nat
  /-- `schema.Builtins()`. -/
  builtins : SchemaModule

/-- What a build run does that its contracts are about, in order. -/
inductive Event where
  /-- `Build` is invoked for the module on this combined schema, right
  after the listener's `OnBuildStarted`. -/
  | compiled (module : Module) (schema : Schema)
  /-- The build callback is invoked for the module. -/
  | called (module : Module)
deriving DecidableEq, Repr

namespace Engine

/-- `Modules()`: the names of the local modules, in `Range` order. -/
def modules (e : Engine) : List String := e.moduleMetas.keys

/-- Storing a local module under its own name keeps the engine's facts. -/
def storeMeta (e : Engine) (name : String) (meta : ModuleMeta) (h : meta.module.name = name) :
    Engine where
  moduleMetas := e.moduleMetas.insert name meta
  controllerSchema := e.controllerSchema
  metas_named {k m} hk := by
    by_cases hkn : k = name
    · subst hkn
      rw [AList.lookup_insert, Option.some.injEq] at hk
      exact hk ▸ h
    · rw [AList.lookup_insert_ne hkn] at hk
      exact e.metas_named hk
  controller_named := e.controller_named

/-- Storing a controller schema under its own name keeps them too. -/
def storeSchema (e : Engine) (sch : SchemaModule) : Engine where
  moduleMetas := e.moduleMetas
  controllerSchema := e.controllerSchema.insert sch.name sch
  metas_named := e.metas_named
  controller_named {k s} hk := by
    by_cases hkn : k = sch.name
    · subst hkn
      rw [AList.lookup_insert, Option.some.injEq] at hk
      exact hk ▸ rfl
    · rw [AList.lookup_insert_ne hkn] at hk
      exact e.controller_named hk

/-- The engine with no modules and no schemas. -/
def empty : Engine where
  moduleMetas := ∅
  controllerSchema := ∅
  metas_named h := by simp at h
  controller_named h := by simp at h

/-- An engine holding these local modules, never built, and these
controller schemas, each stored under its own name as `New` and the
schema sync store them. -/
def ofModules (modules : List Module) (schemas : List SchemaModule) : Engine :=
  schemas.foldl storeSchema (modules.foldl (fun e m => e.storeMeta m.name ⟨m, 0⟩ rfl) empty)

@[simp] theorem storeMeta_moduleMetas (e : Engine) (name : String) (meta : ModuleMeta)
    (h : meta.module.name = name) : (e.storeMeta name meta h).moduleMetas = e.moduleMetas.insert name meta :=
  rfl

@[simp] theorem storeMeta_controllerSchema (e : Engine) (name : String) (meta : ModuleMeta)
    (h : meta.module.name = name) : (e.storeMeta name meta h).controllerSchema = e.controllerSchema :=
  rfl

/-! ## `Each` -/

/-- `Each` over the local modules in the order the map's `Range` visits
them: the first module `fn` fails on stops it, its error wrapped with the
module's key. -/
def eachIn (fn : Module → Except Error Unit) : List (Σ _ : String, ModuleMeta) → Except Error Unit
  | [] => pure ()
  | ⟨key, meta⟩ :: rest =>
    match fn meta.module with
    | .error ferr => .error (.wrap key ferr)
    | .ok () => eachIn fn rest

variable {fn : Module → Except Error Unit}

theorem eachIn_eq_ok : ∀ {order : List (Σ _ : String, ModuleMeta)},
    eachIn fn order = .ok () ↔ ∀ m ∈ order, fn m.2.module = .ok ()
  | [] => by simp [eachIn, pure, Except.pure]
  | ⟨key, meta⟩ :: rest => by
    rcases hf : fn meta.module with ferr | ⟨⟩ <;> simp [eachIn, hf, eachIn_eq_ok]

theorem eachIn_eq_error {err : Error} : ∀ {order : List (Σ _ : String, ModuleMeta)},
    eachIn fn order = .error err →
      ∃ m ∈ order, ∃ ferr, fn m.2.module = .error ferr ∧ err = .wrap m.1 ferr
  | [], h => nomatch h
  | ⟨key, meta⟩ :: rest, h => by
    rcases hf : fn meta.module with ferr | ⟨⟩ <;> simp only [eachIn, hf] at h
    · cases h
      exact ⟨_, List.mem_cons_self _ _, ferr, hf, rfl⟩
    · obtain ⟨m, hm, ferr, hferr, rfl⟩ := eachIn_eq_error h
      exact ⟨m, List.mem_cons_of_mem _ hm, ferr, hferr, rfl⟩

/-- A local module's key is its name. -/
theorem key_eq_name (e : Engine) {m : Σ _ : String, ModuleMeta} (hm : m ∈ e.moduleMetas.entries) :
    m.1 = m.2.module.name :=
  (e.metas_named (AList.mem_lookup_iff.2 hm)).symm

/-- **What `Each` can return.** Over every order in which the map may visit
the local modules, `Each` returns nil exactly when `fn` succeeds on each of
them, and otherwise the error of any one module `fn` fails on, wrapped with
that module's name. -/
theorem each_perm_iff (e : Engine) (fn : Module → Except Error Unit) (r : Except Error Unit) :
    (∃ order, order.Perm e.moduleMetas.entries ∧ eachIn fn order = r) ↔
      (r = .ok () ∧ ∀ m ∈ e.moduleMetas.entries, fn m.2.module = .ok ()) ∨
      ∃ m ∈ e.moduleMetas.entries, ∃ ferr, fn m.2.module = .error ferr ∧
        r = .error (.wrap m.2.module.name ferr) := by
  constructor
  · rintro ⟨order, hp, rfl⟩
    rcases h : eachIn fn order with err | ⟨⟩
    · obtain ⟨m, hm, ferr, hf, rfl⟩ := eachIn_eq_error h
      exact .inr ⟨m, hp.subset hm, ferr, hf, by rw [key_eq_name e (hp.subset hm)]⟩
    · exact .inl ⟨rfl, fun m hm => eachIn_eq_ok.1 h m (hp.symm.subset hm)⟩
  · rintro (⟨rfl, hok⟩ | ⟨m, hm, ferr, hf, rfl⟩)
    · exact ⟨_, .refl _, eachIn_eq_ok.2 hok⟩
    · refine ⟨m :: e.moduleMetas.entries.erase m, (List.perm_cons_erase hm).symm, ?_⟩
      rw [← key_eq_name e hm]
      obtain ⟨key, meta⟩ := m
      simp only [eachIn, hf]

end Engine

end BuildEngine

end Ftl
