import Ftl.Dal.Errs
/-!
# What PostgreSQL does with a written row — three-valued tests, unique indexes, violations

The controller's schema (001_init.sql) keeps its invariants in the database:
unique indexes, some of them partial, foreign keys, and row triggers. This
file holds the part of PostgreSQL's semantics they rest on, once for every
table.

A test in a trigger is three-valued, NULL as soon as an operand is
(`SqlBool`), and PL/pgSQL's IF runs its branch only when the test is true
(`SqlBool.holds_and`). A unique index is the key each row has in it: none
for a row outside a partial index's WHERE, and none for a row with a NULL
key column, since NULLs are distinct (`UniqueIndex.on`). A table satisfies
its indexes when no two of its rows clash (`Indexed`), which for one index
is a `Nodup` of the keys (`pairwise_clash_on_iff`). A written row is checked
against the other rows, index by index in the order they were created
(`violated`); a clash fails the statement with SQLSTATE 23505, a reference
to no row with 23503, and `translatePGError` turns the first into
`errConflict` and the second into `errNotFound`.
-/

namespace Ftl

namespace Sql

open Dalerrs

/-! ## Three-valued tests -/

/-- A truth value of SQL: `none` is NULL. -/
abbrev SqlBool := Option Bool

/-- SQL's AND: false wins over NULL, and NULL over true. -/
def SqlBool.and : SqlBool → SqlBool → SqlBool
  | some false, _ => some false
  | _, some false => some false
  | some true, b => b
  | none, _ => none

/-- Whether PL/pgSQL's IF runs its branch: only on true, never on NULL. -/
def SqlBool.holds (b : SqlBool) : Bool := b == some true

/-- `a != b` with a column that may be NULL: NULL when it is. -/
def sqlNe {α : Type} [DecidableEq α] (a : Option α) (b : α) : SqlBool := a.map (· ≠ b)

/-- A conjunction runs an IF's branch exactly when both sides are true. -/
@[simp] theorem SqlBool.holds_and (a b : SqlBool) : (a.and b).holds = (a.holds && b.holds) := by
  rcases a with _ | _ | _ <;> rcases b with _ | _ | _ <;> rfl

@[simp] theorem SqlBool.holds_some (b : Bool) : SqlBool.holds (some b) = b := by
  cases b <;> rfl

/-- A test against NULL never runs an IF's branch. -/
@[simp] theorem holds_sqlNe {α : Type} [DecidableEq α] (a : Option α) (b : α) :
    (sqlNe a b).holds = a.any (· ≠ b) := by
  cases a <;> simp [sqlNe, SqlBool.holds]

/-! ## Unique indexes -/

/-- A unique index of a table of `α` rows: its name, and when two rows clash in it. -/
structure UniqueIndex (α : Type) where
  name : String
  clash : α → α → Bool

variable {α : Type}

/-- The index on the key a row has in it; `none` leaves the row out. -/
def UniqueIndex.on {κ : Type} [DecidableEq κ] (name : String) (key : α → Option κ) :
    UniqueIndex α where
  name := name
  clash r r' := match key r, key r' with
    | some k, some k' => decide (k = k')
    | _, _ => false

theorem UniqueIndex.clash_on_eq_false {κ : Type} [DecidableEq κ] {name : String}
    {key : α → Option κ} {r r' : α} :
    (UniqueIndex.on name key).clash r r' = false ↔ ∀ k, key r = some k → key r' ≠ some k := by
  simp only [UniqueIndex.on]
  split <;> simp_all [eq_comm]

/-- Rows satisfy each of the indexes: no two clash. -/
def Indexed (indexes : List (UniqueIndex α)) (rows : List α) : Prop :=
  ∀ idx ∈ indexes, rows.Pairwise fun r r' => idx.clash r r' = false

/-- **One index holds exactly when the rows' keys are distinct**, the rows
out of the index apart. -/
theorem pairwise_clash_on_iff {κ : Type} [DecidableEq κ] (name : String) (key : α → Option κ)
    (rows : List α) :
    rows.Pairwise (fun r r' => (UniqueIndex.on name key).clash r r' = false) ↔
      (rows.filterMap key).Nodup := by
  induction rows with
  | nil => simp
  | cons a rows ih =>
    rw [List.pairwise_cons, ih, List.filterMap_cons]
    rcases h : key a with _ | k <;> simp [UniqueIndex.clash_on_eq_false, h, List.mem_filterMap]

/-- The first index a written row clashes in with one of the other rows. -/
def violated (indexes : List (UniqueIndex α)) (others : List α) (row : α) :
    Option (UniqueIndex α) :=
  indexes.find? fun idx => others.any (idx.clash row)

theorem violated_eq_none {indexes : List (UniqueIndex α)} {others : List α} {row : α} :
    violated indexes others row = none ↔ ∀ idx ∈ indexes, ∀ r ∈ others, idx.clash row r = false := by
  simp [violated, List.find?_eq_none]

/-- The keys of a partial index's rows: the keys of the rows its WHERE holds of. -/
theorem filterMap_ite {β : Type} (rows : List α) (p : α → Prop) [DecidablePred p] (f : α → β) :
    (rows.filterMap fun r => if p r then some (f r) else none) = (rows.filter p).map f := by
  induction rows with
  | nil => rfl
  | cons a rows ih => by_cases h : p a <;> simp [List.filter_cons, h, ih]

namespace Indexed

variable {indexes : List (UniqueIndex α)} {rows rows' : List α}

/-- An index the rows satisfy: their keys in it are distinct. -/
theorem nodup {κ : Type} [DecidableEq κ] {name : String} {key : α → Option κ}
    (h : Indexed indexes rows) (hidx : UniqueIndex.on name key ∈ indexes) :
    (rows.filterMap key).Nodup :=
  (pairwise_clash_on_iff name key rows).1 (h _ hidx)

/-- An index on a column no row leaves NULL: the rows' values in it are distinct. -/
theorem nodup_map {κ : Type} [DecidableEq κ] {name : String} {key : α → κ}
    (h : Indexed indexes rows) (hidx : UniqueIndex.on name (fun r => some (key r)) ∈ indexes) :
    (rows.map key).Nodup := by
  rw [← List.filterMap_eq_map]
  exact h.nodup hidx

theorem nil : Indexed indexes ([] : List α) := fun _ _ => .nil

/-- A row that clashes with none of the rows can join them. -/
theorem cons {row : α} (h : Indexed indexes rows) (hv : violated indexes rows row = none) :
    Indexed indexes (row :: rows) :=
  fun idx hidx => List.pairwise_cons.2 ⟨violated_eq_none.1 hv idx hidx, h idx hidx⟩

/-- Fewer rows clash less. -/
theorem sublist (h : Indexed indexes rows) (hs : rows'.Sublist rows) : Indexed indexes rows' :=
  fun idx hidx => (h idx hidx).sublist hs

/-- Changing columns no index reads keeps the rows indexed. -/
theorem map {f : α → α} (hf : ∀ idx ∈ indexes, ∀ r r', idx.clash (f r) (f r') = idx.clash r r')
    (h : Indexed indexes rows) : Indexed indexes (rows.map f) :=
  fun idx hidx => List.pairwise_map.2 ((h idx hidx).imp fun {r r'} hr => (hf idx hidx r r').trans hr)

end Indexed

/-- A key no other row holds finds its row. -/
theorem find?_eq_of_nodup {κ : Type} [DecidableEq κ] {key : α → κ} {rows : List α} {row : α}
    (hnd : (rows.map key).Nodup) (hrow : row ∈ rows) :
    rows.find? (fun r => key r = key row) = some row := by
  induction rows with
  | nil => cases hrow
  | cons a rows ih =>
    rw [List.map_cons, List.nodup_cons] at hnd
    rcases List.mem_cons.1 hrow with rfl | hrow
    · simp
    · have hne : key a ≠ key row := fun h => hnd.1 (h ▸ List.mem_map_of_mem key hrow)
      simp [hne, ih hnd.2 hrow]

/-! ## Violations, and what the DAL makes of them -/

/-- The error of a row that clashes in a unique index. -/
def uniqueViolationError (table index : String) : Error :=
  .pg uniqueViolation index table ("duplicate key value violates unique constraint \"" ++ index ++ "\"")

/-- The error of a row whose reference names no row of the referenced table. -/
def foreignKeyViolationError (table constraint : String) : Error :=
  .pg foreignKeyViolation constraint table
    ("insert or update on table \"" ++ table ++ "\" violates foreign key constraint \"" ++
      constraint ++ "\"")

/-- The error of a referenced row whose key changes while a row refers to
it (`ON UPDATE NO ACTION`); the driver names the referencing table. -/
def stillReferencedError (table constraint referencing : String) : Error :=
  .pg foreignKeyViolation constraint referencing
    ("update or delete on table \"" ++ table ++ "\" violates foreign key constraint \"" ++
      constraint ++ "\" on table \"" ++ referencing ++ "\"")

/-- The unique indexes' check of a row written to `table`. -/
def checkUnique (table : String) (indexes : List (UniqueIndex α)) (others : List α) (row : α) :
    Except Error Unit :=
  match violated indexes others row with
  | some idx => throw (uniqueViolationError table idx.name)
  | none => pure ()

/-- A foreign key's check of a row written to `table`. -/
def checkReference (table constraint : String) (present : Bool) : Except Error Unit :=
  if present then pure () else throw (foreignKeyViolationError table constraint)

/-- A foreign key's check of a referenced row whose key is written. -/
def checkUnreferenced (table constraint referencing : String) (referenced : Bool) :
    Except Error Unit :=
  if referenced then throw (stillReferencedError table constraint referencing) else pure ()

@[simp] theorem checkUnique_eq_ok {table : String} {indexes : List (UniqueIndex α)}
    {others : List α} {row : α} {u : Unit} :
    checkUnique table indexes others row = .ok u ↔ violated indexes others row = none := by
  unfold checkUnique
  split <;> simp_all [throw, throwThe, MonadExceptOf.throw, pure, Except.pure]

@[simp] theorem checkReference_eq_ok {table constraint : String} {present : Bool} {u : Unit} :
    checkReference table constraint present = .ok u ↔ present = true := by
  unfold checkReference
  split <;> simp_all [throw, throwThe, MonadExceptOf.throw, pure, Except.pure]

@[simp] theorem checkUnreferenced_eq_ok {table constraint referencing : String} {referenced : Bool}
    {u : Unit} : checkUnreferenced table constraint referencing referenced = .ok u ↔ referenced = false := by
  unfold checkUnreferenced
  split <;> simp_all [throw, throwThe, MonadExceptOf.throw, pure, Except.pure]

/-- The errors the checks raise: which index or constraint, on which table. -/
inductive Violation : Error → Prop
  | unique (table index : String) : Violation (uniqueViolationError table index)
  | foreignKey (table constraint : String) : Violation (foreignKeyViolationError table constraint)
  | referenced (table constraint referencing : String) :
      Violation (stillReferencedError table constraint referencing)

theorem checkUnique_error {table : String} {indexes : List (UniqueIndex α)} {others : List α}
    {row : α} {err : Error} (h : checkUnique table indexes others row = .error err) :
    Violation err := by
  unfold checkUnique at h
  split at h
  · cases h
    exact .unique _ _
  · cases h

theorem checkReference_error {table constraint : String} {present : Bool} {err : Error}
    (h : checkReference table constraint present = .error err) : Violation err := by
  unfold checkReference at h
  split at h
  · cases h
  · cases h
    exact .foreignKey _ _

theorem checkUnreferenced_error {table constraint referencing : String} {referenced : Bool}
    {err : Error} (h : checkUnreferenced table constraint referencing referenced = .error err) :
    Violation err := by
  unfold checkUnreferenced at h
  split at h
  · cases h
    exact .referenced _ _ _
  · cases h

@[simp] theorem translatePGError_uniqueViolationError (table index : String) :
    translatePGError (uniqueViolationError table index) =
      .wrap ("duplicate key value violates unique constraint \"" ++ index ++ "\"") errConflict := rfl

@[simp] theorem translatePGError_foreignKeyViolationError (table constraint : String) :
    translatePGError (foreignKeyViolationError table constraint) =
      .wrap (trimSuffix (trimPrefix constraint (table ++ "_")) "_id_fkey") errNotFound := rfl

@[simp] theorem translatePGError_stillReferencedError (table constraint referencing : String) :
    translatePGError (stillReferencedError table constraint referencing) =
      .wrap (trimSuffix (trimPrefix constraint (referencing ++ "_")) "_id_fkey") errNotFound := rfl

/-- **What the DAL reports for a violation**: a clash in a unique index is
a conflict, with PostgreSQL's message; a reference to no row is "not
found", with the stem of the constraint's name after the table's, and a
referenced row that changes its key is "not found" with the stem after
the referencing table's. -/
theorem translatePGError_of_violation {err : Error} (h : Violation err) :
    (∃ table index, err = uniqueViolationError table index ∧ translatePGError err =
      .wrap ("duplicate key value violates unique constraint \"" ++ index ++ "\"") errConflict) ∨
    (∃ table constraint, err = foreignKeyViolationError table constraint ∧ translatePGError err =
      .wrap (trimSuffix (trimPrefix constraint (table ++ "_")) "_id_fkey") errNotFound) ∨
    (∃ table constraint referencing, err = stillReferencedError table constraint referencing ∧
      translatePGError err =
        .wrap (trimSuffix (trimPrefix constraint (referencing ++ "_")) "_id_fkey") errNotFound) := by
  cases h with
  | unique table index => exact .inl ⟨table, index, rfl, rfl⟩
  | foreignKey table constraint => exact .inr (.inl ⟨table, constraint, rfl, rfl⟩)
  | referenced table constraint referencing =>
    exact .inr (.inr ⟨table, constraint, referencing, rfl, rfl⟩)

end Sql

end Ftl
