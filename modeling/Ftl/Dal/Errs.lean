import Ftl.Go.Basic
/-!
# DAL errors — the sentinels, and TranslatePGError

Every DAL call funnels the driver's errors through `translatePGError`
(db/dalerrs): PostgreSQL's integrity violations and the drivers' "no rows"
errors become one of three sentinels, `errNotFound`, `errConflict` and
`errConstraint`, which callers match with `errors.Is`; anything else passes
through. The sentinels are leaves of the error tree (`errors.New`), so
`errors.Is` against them decides (`Error.hasLeaf_iff`), and so does the
translator. `errors.As` for a `*pgconn.PgError` is `asPgError`: the first
driver error met walking the tree.
-/

namespace Ftl

namespace Dalerrs

/-- `ErrConflict`: a resource already exists. Reducible, as each sentinel,
so that `errors.Is` against it finds its decision procedure. -/
abbrev errConflict : Error := .new "conflict"

/-- `ErrNotFound`: no results. -/
abbrev errNotFound : Error := .new "not found"

/-- `ErrConstraint`: a constraint is violated. -/
abbrev errConstraint : Error := .new "constraint violation"

/-- `database/sql`'s `ErrNoRows`. -/
abbrev sqlErrNoRows : Error := .new "sql: no rows in result set"

/-- `pgx`'s `ErrNoRows`, what a query that returns one row and matched none fails with. -/
abbrev pgxErrNoRows : Error := .new "no rows in result set"

/-- `IsNotFound`: either driver's "no rows". -/
def IsNotFound (err : Error) : Prop := err.Is sqlErrNoRows ∨ err.Is pgxErrNoRows

instance : DecidablePred IsNotFound := fun _ => inferInstanceAs (Decidable (_ ∨ _))

/-- The fields of a `*pgconn.PgError` the translator reads. -/
structure PgError where
  code : String
  constraintName : String
  tableName : String
  message : String
deriving DecidableEq, Repr

/-- `errors.As(err, &pgErr)` for a `*pgconn.PgError`: the first one met
walking the tree, the error itself first, then what it wraps, a join's
parts in order. -/
def asPgError : Error → Option PgError
  | .new _ => none
  | .wrap _ inner => asPgError inner
  | .join errs => firstPgError errs
  | .pg code constraintName tableName message => some ⟨code, constraintName, tableName, message⟩
where
  /-- The first part of a join that holds a driver error. -/
  firstPgError : List Error → Option PgError
    | [] => none
    | e :: es => (asPgError e).orElse fun _ => firstPgError es

/-! ## SQLSTATE codes (`pgerrcode`) -/

def foreignKeyViolation : String := "23503"
def uniqueViolation : String := "23505"
def integrityConstraintViolation : String := "23000"
def restrictViolation : String := "23001"
def notNullViolation : String := "23502"
def checkViolation : String := "23514"
def exclusionViolation : String := "23P01"

/-- `strings.TrimPrefix`. -/
def trimPrefix (s pre : String) : String := if s.startsWith pre then s.drop pre.length else s

/-- `strings.TrimSuffix`. -/
def trimSuffix (s suf : String) : String := if s.endsWith suf then s.dropRight suf.length else s

/-- `TranslatePGError`, on a non-nil error (a nil error stays nil: callers
map it over the error side of a result). A foreign-key violation names the
constraint's stem, `fsm_instances_async_call_id_fkey` on `fsm_instances`
giving `async_call`. -/
def translatePGError (err : Error) : Error :=
  match asPgError err with
  | some pgErr =>
    if pgErr.code = foreignKeyViolation then
      .wrap (trimSuffix (trimPrefix pgErr.constraintName (pgErr.tableName ++ "_")) "_id_fkey")
        errNotFound
    else if pgErr.code = uniqueViolation then .wrap pgErr.message errConflict
    else if pgErr.code ∈ [integrityConstraintViolation, restrictViolation, notNullViolation,
        checkViolation, exclusionViolation] then .wrap pgErr.message errConstraint
    else err
  | none => if IsNotFound err then errNotFound else err

/-- A query that matched no row fails with not found. -/
@[simp] theorem translatePGError_pgxErrNoRows : translatePGError pgxErrNoRows = errNotFound := rfl

/-! ## Translating again

Higher layers wrap the DAL's errors with context, `fmt.Errorf("…: %w")`,
and such an error may reach `translatePGError` again. It then comes back
as it is (`translatePGError_wrapAll_translate`): what the translator
returns, wrapped any number of times, is an error it passes through. -/

/-- `fmt.Errorf("<text>: %w", err)` applied once for each text, the last
text outermost. -/
def wrapAll (texts : List String) (err : Error) : Error := texts.foldr .wrap err

@[simp] theorem asPgError_wrapAll (texts : List String) (err : Error) :
    asPgError (wrapAll texts err) = asPgError err := by
  induction texts with
  | nil => rfl
  | cons _ _ ih => exact ih

@[simp] theorem is_wrapAll (texts : List String) (err : Error) (text : String) :
    (wrapAll texts err).Is (.new text) ↔ err.Is (.new text) := by
  induction texts with
  | nil => rfl
  | cons t _ ih => exact ⟨fun h => ih.1 (h.cases_wrap.resolve_left Error.noConfusion), .wrap ∘ ih.2⟩

theorem isNotFound_wrapAll (texts : List String) (err : Error) :
    IsNotFound (wrapAll texts err) ↔ IsNotFound err := by
  simp only [IsNotFound, is_wrapAll]

/-- The codes `translatePGError` maps to a sentinel. -/
def translatedCodes : List String :=
  [foreignKeyViolation, uniqueViolation, integrityConstraintViolation, restrictViolation,
    notNullViolation, checkViolation, exclusionViolation]

/-- An error `translatePGError` returns as it is: its first driver error has
a code it does not map, or it has no driver error and no "no rows". -/
def PassesThrough (err : Error) : Prop :=
  (∃ pgErr, asPgError err = some pgErr ∧ pgErr.code ∉ translatedCodes) ∨
    (asPgError err = none ∧ ¬ IsNotFound err)

theorem translatePGError_of_passesThrough {err : Error} (h : PassesThrough err) :
    translatePGError err = err := by
  rcases h with ⟨pgErr, hpg, hcode⟩ | ⟨hpg, hnf⟩
  · simp only [translatedCodes, List.mem_cons, List.mem_singleton, not_or] at hcode
    simp [translatePGError, hpg, hcode]
  · simp [translatePGError, hpg, hnf]

theorem passesThrough_wrapAll {texts : List String} {err : Error} (h : PassesThrough err) :
    PassesThrough (wrapAll texts err) := by
  simpa only [PassesThrough, asPgError_wrapAll, isNotFound_wrapAll] using h

/-- A sentinel other than the drivers' "no rows" passes through. -/
theorem passesThrough_sentinel (sentinel : String)
    (h : sentinel ≠ "sql: no rows in result set" ∧ sentinel ≠ "no rows in result set") :
    PassesThrough (.new sentinel) :=
  .inr ⟨rfl, by simpa [IsNotFound, ← Error.hasLeaf_iff, Error.hasLeaf] using h⟩

/-- **What `translatePGError` returns it passes through.** -/
theorem passesThrough_translatePGError (err : Error) : PassesThrough (translatePGError err) := by
  unfold translatePGError
  rcases hpg : asPgError err with _ | pgErr
  · by_cases hnf : IsNotFound err
    · simpa [hnf] using passesThrough_sentinel "not found" (by decide)
    · simpa [hnf] using Or.inr ⟨hpg, hnf⟩
  · simp only
    split_ifs with hfk hu hc
    · exact @passesThrough_wrapAll [_] _ (passesThrough_sentinel _ (by decide))
    · exact @passesThrough_wrapAll [_] _ (passesThrough_sentinel _ (by decide))
    · exact @passesThrough_wrapAll [_] _ (passesThrough_sentinel _ (by decide))
    · refine .inl ⟨pgErr, hpg, ?_⟩
      simp only [translatedCodes, List.mem_cons, List.mem_singleton, not_or] at hc ⊢
      exact ⟨hfk, hu, hc⟩

/-- A translated error, wrapped again by any number of layers, translates
to itself. -/
theorem translatePGError_wrapAll_translate (err : Error) (texts : List String) :
    translatePGError (wrapAll texts (translatePGError err)) = wrapAll texts (translatePGError err) :=
  translatePGError_of_passesThrough (passesThrough_wrapAll (passesThrough_translatePGError err))

/-- **Translating again after wrapping never changes an error's kind**:
for every error tree and every stack of wrappings by higher layers, the
error translated again matches under `errors.Is` exactly the sentinels the
first translation matched. -/
theorem translatePGError_keeps_kind (err : Error) (texts : List String) :
    ((translatePGError (wrapAll texts (translatePGError err))).Is errNotFound ↔
        (translatePGError err).Is errNotFound) ∧
      ((translatePGError (wrapAll texts (translatePGError err))).Is errConflict ↔
        (translatePGError err).Is errConflict) ∧
      ((translatePGError (wrapAll texts (translatePGError err))).Is errConstraint ↔
        (translatePGError err).Is errConstraint) := by
  simp only [translatePGError_wrapAll_translate, is_wrapAll, and_self, iff_self]

end Dalerrs

end Ftl
