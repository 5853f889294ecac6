import Ftl.Go.Basic
import Ftl.Kotlin.Generator
/-!
# The Kotlin stub generator — what a schema type becomes

`getTypeClass` translates a field's schema type into a Kotlin type, and
this file says what the translation keeps.

It fails exactly on a type that misses a part at some depth (an array's
element, a map's key or value, an optional's wrapped type) or is of a case
it has no branch for (`getTypeClass_isOk`). What it returns is nullable
exactly when the schema type is optional (`getTypeClass_isNullable`). And
it loses only what Kotlin has no words for: in the file of module `own`,
two field types get one Kotlin type exactly when they agree once a
reference with no module is read as one to `own` and an optional of an
optional as one optional (`getTypeClass_eq_iff`).

The last result is read off a decoder, `decodeType`, which takes a Kotlin
type back to the schema type it came from (`decodeType_getTypeClass`), and
off the fact that `getTypeClass` cannot tell a type from its resolved form
(`getTypeClass_resolve`).

`SchemaType` is a nested inductive, its children under `Option`, which the
`induction` tactic does not take; the proofs about it are recursive
theorems whose cases are `getTypeClass`'s own.
-/

namespace Ftl

namespace Kotlin

namespace SchemaType

/-- A type with every part the generator reads, at every depth. -/
def complete : SchemaType → Bool
  | .int | .float | .string | .bytes | .bool | .time | .dataRef _ _ => true
  | .array (some element) => element.complete
  | .map (some key) (some value) => key.complete && value.complete
  | .optional (some wrapped) => wrapped.complete
  | _ => false

/-- The optional of a type; an optional is its own. -/
def toOptional : SchemaType → SchemaType
  | .optional type => .optional type
  | type => .optional (some type)

/-- What a type means in the file of module `own`: a reference with no
module is one to `own`, and an optional of an optional is one optional. -/
def resolve (own : String) : SchemaType → SchemaType
  | .array (some element) => .array (some (element.resolve own))
  | .map (some key) (some value) => .map (some (key.resolve own)) (some (value.resolve own))
  | .dataRef module name => .dataRef (if module.isEmpty then own else module) name
  | .optional (some wrapped) => (wrapped.resolve own).toOptional
  | type => type

@[simp] theorem resolve_array (own : String) (element : SchemaType) :
    (array (some element)).resolve own = .array (some (element.resolve own)) := rfl

@[simp] theorem resolve_map (own : String) (key value : SchemaType) :
    (map (some key) (some value)).resolve own = .map (some (key.resolve own)) (some (value.resolve own)) :=
  rfl

@[simp] theorem resolve_dataRef (own module name : String) :
    (dataRef module name).resolve own = .dataRef (if module.isEmpty then own else module) name := rfl

@[simp] theorem resolve_optional (own : String) (wrapped : SchemaType) :
    (optional (some wrapped)).resolve own = (wrapped.resolve own).toOptional := rfl

@[simp] theorem isOptional_toOptional (t : SchemaType) : t.toOptional.isOptional = true := by
  cases t <;> rfl

@[simp] theorem toOptional_toOptional (t : SchemaType) : t.toOptional.toOptional = t.toOptional := by
  cases t <;> rfl

end SchemaType

@[simp] theorem TypeName.isNullable_copyNullable (k : TypeName) : k.copyNullable.isNullable = true := by
  cases k <;> rfl

@[simp] theorem TypeName.copyNullable_copyNullable (k : TypeName) :
    k.copyNullable.copyNullable = k.copyNullable := by
  cases k <;> rfl

open SchemaType

variable {ns own : String}

/-! ## When the translation fails -/

/-- The Kotlin type of a field is nullable exactly when its schema type is
optional: an array or a map of optionals is not itself nullable. -/
theorem getTypeClass_isNullable {t : SchemaType} {k : TypeName} (h : getTypeClass ns t = .ok k) :
    k.isNullable = t.isOptional := by
  rcases t with _ | _ | _ | _ | _ | _ | (_ | e) | ⟨_ | key, _ | value⟩ | ⟨m, n⟩ | (_ | w) | _ <;>
    simp only [getTypeClass, except_bind_eq_ok, except_pure_eq_ok] at h
  case optional.some => obtain ⟨_, -, rfl⟩ := h; exact TypeName.isNullable_copyNullable _
  case array.some => obtain ⟨_, -, rfl⟩ := h; rfl
  case map.some.some => obtain ⟨_, -, _, -, rfl⟩ := h; rfl
  all_goals first | (subst h; rfl) | cases h

/-! ## Reading a Kotlin type back -/

/-- The schema type of a class of the generator's, its type arguments read
back: a class of the package `ftl.<module>` is data of that module. -/
def decodeClass (pkg name : String) : List SchemaType → Option SchemaType
  | [] =>
    match pkg, name with
    | "kotlin", "Long" => some .int
    | "kotlin", "Float" => some .float
    | "kotlin", "String" => some .string
    | "kotlin", "ByteArray" => some .bytes
    | "kotlin", "Boolean" => some .bool
    | "java.time", "OffsetDateTime" => some .time
    | pkg, name =>
      match pkg.data with
      | 'f' :: 't' :: 'l' :: '.' :: module => some (.dataRef ⟨module⟩ name)
      | _ => none
  | [element] =>
    if pkg = "kotlin.collections" ∧ name = "ArrayList" then some (.array (some element)) else none
  | [key, value] =>
    if pkg = "kotlin.collections" ∧ name = "Map" then some (.map (some key) (some value)) else none
  | _ => none

mutual

/-- The schema type a Kotlin type of `getTypeClass`'s came from, in the
file of a module: a nullable type is the optional of its non-null one. -/
def decodeType : TypeName → Option SchemaType
  | .className pkg name args nullable =>
    let base := (decodeArgs args).bind (decodeClass pkg name)
    if nullable then base.map toOptional else base
  | .typeVariable _ _ => none

/-- The type arguments of a class, read back. -/
def decodeArgs : List TypeName → Option (List SchemaType)
  | [] => some []
  | arg :: args => (decodeType arg).bind fun t => (decodeArgs args).map (t :: ·)

end

@[simp] theorem decodeClass_arrayList (element : SchemaType) :
    decodeClass "kotlin.collections" "ArrayList" [element] = some (.array (some element)) := rfl

@[simp] theorem decodeClass_map (key value : SchemaType) :
    decodeClass "kotlin.collections" "Map" [key, value] = some (.map (some key) (some value)) := rfl

theorem decodeType_nullable (pkg name : String) (args : List TypeName) :
    decodeType (.className pkg name args true) =
      (decodeType (.className pkg name args false)).map toOptional := by
  simp [decodeType]

theorem decodeType_copyNullable {k : TypeName} {t : SchemaType} (h : decodeType k = some t) :
    decodeType k.copyNullable = some t.toOptional := by
  rcases k with ⟨pkg, name, args, _ | _⟩ | _
  · rw [TypeName.copyNullable, decodeType_nullable, h]; rfl
  · rw [decodeType_nullable, Option.map_eq_some'] at h
    obtain ⟨x, hx, rfl⟩ := h
    rw [TypeName.copyNullable, decodeType_nullable, hx]
    simp
  · cases h

/-- **The decoder inverts the translation.** In the file of module `own`,
the Kotlin type of a field decodes to its schema type, resolved. -/
theorem decodeType_getTypeClass (own : String) : ∀ {t : SchemaType} {k : TypeName},
    getTypeClass ("ftl." ++ own) t = .ok k → decodeType k = some (t.resolve own)
  | .array (some element), k, h => by
    simp only [getTypeClass, except_bind_eq_ok, except_pure_eq_ok] at h
    obtain ⟨_, he, rfl⟩ := h
    simp [decodeType, decodeArgs, TypeName.ofClass, TypeName.parameterizedBy,
      decodeType_getTypeClass own he]
  | .map (some key) (some value), k, h => by
    simp only [getTypeClass, except_bind_eq_ok, except_pure_eq_ok] at h
    obtain ⟨_, hk, _, hv, rfl⟩ := h
    simp [decodeType, decodeArgs, TypeName.ofClass, TypeName.parameterizedBy,
      decodeType_getTypeClass own hk, decodeType_getTypeClass own hv]
  | .optional (some wrapped), k, h => by
    simp only [getTypeClass, except_bind_eq_ok, except_pure_eq_ok] at h
    obtain ⟨_, hw, rfl⟩ := h
    exact decodeType_copyNullable (decodeType_getTypeClass own hw)
  | .dataRef module name, k, h => by
    cases h
    by_cases hm : module.isEmpty <;> simp [hm] <;> rfl
  | .int, _, h | .float, _, h | .string, _, h | .bytes, _, h | .bool, _, h | .time, _, h => by
    cases h; rfl
  | .array none, _, h | .map none _, _, h | .map (some _) none, _, h | .optional none, _, h
  | .other, _, h => by cases h

/-! ## One Kotlin type, one meaning -/

theorem getTypeClass_toOptional (t : SchemaType) :
    getTypeClass ns t.toOptional = TypeName.copyNullable <$> getTypeClass ns t := by
  rcases t with _ | _ | _ | _ | _ | _ | _ | _ | _ | (_ | wrapped) | _
  case optional.none => rfl
  case optional.some =>
    simp only [toOptional, getTypeClass, bind_pure_comp, Functor.map_map,
      TypeName.copyNullable_copyNullable]
  all_goals exact bind_pure_comp _ _

/-- `getTypeClass` cannot tell a type from what it means in the file of
its module. -/
theorem getTypeClass_resolve (own : String) : ∀ t : SchemaType,
    getTypeClass ("ftl." ++ own) (t.resolve own) = getTypeClass ("ftl." ++ own) t
  | .array (some element) => by
    simp only [resolve_array, getTypeClass, getTypeClass_resolve own element]
  | .map (some key) (some value) => by
    simp only [resolve_map, getTypeClass, getTypeClass_resolve own key, getTypeClass_resolve own value]
  | .optional (some wrapped) => by
    rw [resolve_optional, getTypeClass_toOptional, getTypeClass_resolve own wrapped, getTypeClass,
      bind_pure_comp]
  | .dataRef module name => by by_cases hm : module.isEmpty <;> simp [getTypeClass, hm]
  | .int | .float | .string | .bytes | .bool | .time | .other => rfl
  | .array none | .map none _ | .map (some _) none | .optional none => rfl

/-- **Two field types share a Kotlin type exactly when they mean the same.**
In the file of module `own`, the types `getTypeClass` gives two schema types
are equal exactly when the schema types are, once a reference with no
module is read as one to `own` and an optional of an optional as one
optional. -/
theorem getTypeClass_eq_iff {a b : SchemaType} {ka kb : TypeName}
    (ha : getTypeClass ("ftl." ++ own) a = .ok ka) (hb : getTypeClass ("ftl." ++ own) b = .ok kb) :
    ka = kb ↔ a.resolve own = b.resolve own := by
  constructor
  · rintro rfl
    exact Option.some.inj ((decodeType_getTypeClass own ha).symm.trans (decodeType_getTypeClass own hb))
  · intro h
    have hab : getTypeClass ("ftl." ++ own) a = getTypeClass ("ftl." ++ own) b := by
      rw [← getTypeClass_resolve own a, h, getTypeClass_resolve]
    exact Except.ok.inj (ha.symm.trans (hab.trans hb))

/-- In the file of `echo`, a reference to `EchoRequest` with no module and
one to `echo.EchoRequest` are one class, as they mean one type. -/
theorem echo_refs_share_a_class :
    (TypeName.ofClass "ftl.echo" "EchoRequest" = .ofClass "ftl.echo" "EchoRequest" ↔
      (SchemaType.dataRef "" "EchoRequest").resolve "echo" =
        (SchemaType.dataRef "echo" "EchoRequest").resolve "echo") :=
  getTypeClass_eq_iff rfl rfl

end Kotlin

end Ftl
