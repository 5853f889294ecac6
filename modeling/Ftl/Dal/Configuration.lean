import Mathlib.Logic.Relation
import Ftl.Dal.Sql
/-!
# The configuration DAL — `module_configuration`

The configuration DAL keeps configuration values in one table,
`module_configuration`: a value per module and name, or a global one where
`module` is NULL. Its four methods run one query each and pass the error
through `dalerrs.TranslatePGError` (`translated`).

The table's only guard besides its key is `UNIQUE (module, name)`. Over
every run of single-row statements, two values of one module never share a
name; but NULLs are distinct in a unique index, so the guard never sees a
global value, and from any table a run reaches, a global value with a
fresh id can be added whatever global values of its name the table holds
(`configuration_names_of_run`).
-/

namespace Ftl

namespace Dal

open Dalerrs Sql Relation

/-! ## The table -/

/-- A row of `module_configuration`; `module` is NULL for a global value. -/
structure ConfigurationRow where
  id : Nat
  module : Option String
  name : String
  value : String
deriving DecidableEq, Repr

/-- The primary key, and `UNIQUE (module, name)`, which leaves out a row
whose module is NULL. -/
def configurationIndexes : List (UniqueIndex ConfigurationRow) :=
  [.on "module_configuration_pkey" fun r => some r.id,
   .on "module_configuration_module_name_key" fun r => r.module.map (·, r.name)]

/-- A single-row statement on `module_configuration`. -/
inductive ConfigurationStmt where
  | insert (row : ConfigurationRow)
  | update (id : Nat) (set : ConfigurationRow → ConfigurationRow)
  | delete (id : Nat)

/-- The table after a statement, or the error that rolls it back. -/
def ConfigurationStmt.exec (rows : List ConfigurationRow) :
    ConfigurationStmt → Except Error (List ConfigurationRow)
  | .insert row => do
    checkUnique "module_configuration" configurationIndexes rows row
    pure (row :: rows)
  | .update id set =>
    match rows.find? (·.id = id) with
    | none => pure rows
    | some old => do
      let row := set old
      let others := rows.filter (·.id ≠ id)
      checkUnique "module_configuration" configurationIndexes others row
      pure (row :: others)
  | .delete id => pure (rows.filter (·.id ≠ id))

/-- The tables a run of statements reaches from the empty one. -/
def ConfigurationReachable (rows : List ConfigurationRow) : Prop :=
  ReflTransGen (fun rows rows' => ∃ stmt, ConfigurationStmt.exec rows stmt = .ok rows') [] rows

variable {rows rows' : List ConfigurationRow}

theorem exec_insert_eq_ok {row : ConfigurationRow} :
    ConfigurationStmt.exec rows (.insert row) = .ok rows' ↔
      violated configurationIndexes rows row = none ∧ row :: rows = rows' := by
  simp [ConfigurationStmt.exec, except_map_eq_ok]

/-- Each statement keeps both indexes. -/
theorem indexed_exec (h : Indexed configurationIndexes rows) {stmt : ConfigurationStmt}
    (hexec : stmt.exec rows = .ok rows') : Indexed configurationIndexes rows' := by
  cases stmt with
  | insert row =>
    obtain ⟨hv, rfl⟩ := exec_insert_eq_ok.1 hexec
    exact h.cons hv
  | update id set =>
    simp only [ConfigurationStmt.exec] at hexec
    split at hexec
    · cases hexec
      exact h
    · obtain ⟨hv, rfl⟩ : violated configurationIndexes (rows.filter (·.id ≠ id)) (set ‹_›) = none ∧
          set ‹_› :: rows.filter (·.id ≠ id) = rows' := by
        simpa [except_bind_eq_ok, except_map_eq_ok] using hexec
      exact (h.sublist (List.filter_sublist _)).cons hv
  | delete id =>
    cases hexec
    exact h.sublist (List.filter_sublist _)

/-- A global row with a fresh id clashes with no row. -/
theorem violated_global {row : ConfigurationRow} (hglobal : row.module = none)
    (hfresh : ∀ r ∈ rows, r.id ≠ row.id) : violated configurationIndexes rows row = none := by
  simp only [violated_eq_none, configurationIndexes, List.mem_cons, List.mem_singleton,
    List.not_mem_nil, or_false]
  rintro idx (rfl | rfl) r hr
  · simpa [UniqueIndex.clash_on_eq_false] using hfresh r hr
  · simp [UniqueIndex.clash_on_eq_false, hglobal]

/-- **Names are unique within a module, and only there.** In every table a
run reaches, ids are distinct and no two values of one module share a
name; yet from any of them a run goes on to add a global value with a fresh
id, whatever global values of its name the table holds. -/
theorem configuration_names_of_run (h : ConfigurationReachable rows) :
    ((rows.map (·.id)).Nodup ∧ (rows.filterMap fun r => r.module.map (·, r.name)).Nodup) ∧
      ∀ row : ConfigurationRow, row.module = none → (∀ r ∈ rows, r.id ≠ row.id) →
        ConfigurationReachable (row :: rows) := by
  have hidx : Indexed configurationIndexes rows := by
    induction h with
    | refl => exact .nil
    | tail _ hstep ih =>
      obtain ⟨stmt, hexec⟩ := hstep
      exact indexed_exec ih hexec
  refine ⟨⟨hidx.nodup_map (List.mem_cons_self _ _), hidx.nodup (List.mem_cons_of_mem _
    (List.mem_cons_self _ _))⟩, fun row hglobal hfresh => h.tail ⟨.insert row, ?_⟩⟩
  exact exec_insert_eq_ok.2 ⟨violated_global hglobal hfresh, rfl⟩

/-- Two global values named `timeout`, side by side. -/
theorem two_global_timeouts :
    ConfigurationReachable [⟨2, none, "timeout", "30"⟩, ⟨1, none, "timeout", "10"⟩] :=
  (configuration_names_of_run (.single ⟨.insert ⟨1, none, "timeout", "10"⟩, rfl⟩)).2 _ rfl
    (by decide)

/-! ## The DAL -/

/-- What each method of the configuration DAL returns: its query's result,
the error passed through `dalerrs.TranslatePGError`. -/
def translated {α : Type} : Except Error α → Except Error α
  | .ok a => .ok a
  | .error err => .error (translatePGError err)

/-- `DAL.GetModuleConfiguration`. -/
def getModuleConfiguration (query : Except Error String) : Except Error String :=
  translated query

/-- `DAL.SetModuleConfiguration`. -/
def setModuleConfiguration (query : Except Error Unit) : Except Error Unit :=
  translated query

/-- `DAL.UnsetModuleConfiguration`. -/
def unsetModuleConfiguration (query : Except Error Unit) : Except Error Unit :=
  translated query

/-- `DAL.ListModuleConfiguration`. -/
def listModuleConfiguration (query : Except Error (List ConfigurationRow)) :
    Except Error (List ConfigurationRow) :=
  translated query

end Dal

end Ftl
