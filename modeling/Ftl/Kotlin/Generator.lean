import Mathlib.Data.List.Basic
/-!
# The Kotlin stub generator — ModuleGenerator

Before a Kotlin module is compiled, `ModuleGenerator.run` writes, for each
other module of the schema, a Kotlin file of stubs: a data class for each
data declaration, and a class of verb stubs that throw when called directly.
This file models what it builds, as KotlinPoet specs: a field's schema type
becomes a Kotlin type (`getTypeClass`), an ingress route the path string of
an `@Ingress` annotation (`ingressPathString`), a data declaration a data
class (`buildDataClass`), a verb a stub function (`buildVerbFunction`), and a
module a file (`generateModule`). The `IllegalArgumentException`s the
generator throws are its errors, with their messages.

The schema is the protobuf `xyz.block.ftl.v1.schema` as the Wire-generated
Kotlin classes hold it: each part of a `oneof` is a nullable field, at most
one of them set, and a message field may be missing. What KotlinPoet does
with a spec, printing it, is not modelled; nor are the files `run` writes
beside the stubs (`prepareFtlRoot`).
-/

namespace Ftl

namespace Kotlin

/-! ## The schema, as the generator reads it -/

/-- `schema.Type`: the case of its `oneof` that is set. `other` is a case
the generator has no branch for, or none set. -/
inductive SchemaType where
  | int
  | float
  | string
  | bytes
  | bool
  | time
  | array (element : Option SchemaType)
  | map (key value : Option SchemaType)
  | dataRef (module name : String)
  | optional (type : Option SchemaType)
  | other
deriving Repr

/-- `type.optional != null`. -/
def SchemaType.isOptional : SchemaType → Bool
  | .optional _ => true
  | _ => false

/-- `schema.Field`. -/
structure Field where
  name : String
  comments : List String
  type : Option SchemaType

/-- `schema.Data`. -/
structure Data where
  name : String
  comments : List String
  fields : List Field

/-- `schema.DataRef`, what a verb's request and response name. -/
structure DataRef where
  module : String
  name : String

/-- `schema.IngressPathComponent`. -/
inductive IngressPathComponent where
  | literal (text : String)
  | parameter (name : String)
  | unknown

/-- `schema.MetadataIngress`. -/
structure MetadataIngress where
  method : String
  path : List IngressPathComponent

/-- `schema.Metadata`: its `ingress` case, if that is the one set. -/
structure Metadata where
  ingress : Option MetadataIngress

/-- `schema.Verb`. -/
structure Verb where
  name : String
  comments : List String
  request : Option DataRef
  response : Option DataRef
  metadata : List Metadata

/-- `schema.Decl`: its `data_` or `verb` case, or another. -/
inductive Decl where
  | data (data : Data)
  | verb (verb : Verb)
  | other

/-- `decl.data_`. -/
def Decl.data? : Decl → Option Data
  | .data d => some d
  | _ => none

/-- `decl.verb`. -/
def Decl.verb? : Decl → Option Verb
  | .verb v => some v
  | _ => none

/-- `schema.Module`. -/
structure Module where
  name : String
  comments : List String
  decls : List Decl

/-- `schema.Schema`. -/
structure Schema where
  modules : List Module

/-! ## KotlinPoet specs -/

/-- KotlinPoet's `TypeName`: a `ClassName`, parameterized or not, or a
`TypeVariableName`, each nullable or not. -/
inductive TypeName where
  | className (packageName simpleName : String) (typeArguments : List TypeName) (nullable : Bool)
  | typeVariable (name : String) (nullable : Bool)
deriving Repr

/-- `ClassName(packageName, simpleName)`. -/
def TypeName.ofClass (packageName simpleName : String) : TypeName :=
  .className packageName simpleName [] false

/-- `parameterizedBy`. -/
def TypeName.parameterizedBy : TypeName → List TypeName → TypeName
  | .className p n _ nullable, args => .className p n args nullable
  | t, _ => t

/-- `copy(nullable = true)`. -/
def TypeName.copyNullable : TypeName → TypeName
  | .className p n args _ => .className p n args true
  | .typeVariable n _ => .typeVariable n true

/-- Whether the type is nullable. -/
def TypeName.isNullable : TypeName → Bool
  | .className _ _ _ nullable => nullable
  | .typeVariable _ nullable => nullable

/-- `ParameterSpec`: a name, a type and a default value. -/
structure ParameterSpec where
  name : String
  type : TypeName
  defaultValue : Option String

/-- `PropertySpec`: a name, a type and an initializer. -/
structure PropertySpec where
  name : String
  type : TypeName
  initializer : String

/-- A member of an annotation: a `%T` type or a `%S` string. -/
inductive AnnotationMember where
  | type (type : TypeName)
  | string (value : String)

/-- `AnnotationSpec`. -/
structure AnnotationSpec where
  type : TypeName
  members : List AnnotationMember

/-- `FunSpec`; its code is a format string and its arguments. -/
structure FunSpec where
  name : String
  kdoc : String
  annotations : List AnnotationSpec
  parameters : List ParameterSpec
  returns : Option TypeName
  code : String × List String

/-- `TypeSpec` of a class. -/
structure TypeSpec where
  name : String
  modifiers : List String
  kdoc : String
  annotations : List AnnotationSpec
  primaryConstructor : List ParameterSpec
  properties : List PropertySpec
  functions : List FunSpec

/-- `FileSpec`. -/
structure FileSpec where
  packageName : String
  name : String
  comment : String
  types : List TypeSpec

/-! ## Types -/

/-- `getTypeClass`: the Kotlin type of a field's schema type, in the file of
package `ns` (the source's `namespace`). A data reference with no module is
in that package. -/
def getTypeClass (ns : String) : SchemaType → Except String TypeName
  | .int => pure (.ofClass "kotlin" "Long")
  | .float => pure (.ofClass "kotlin" "Float")
  | .string => pure (.ofClass "kotlin" "String")
  | .bytes => pure (.ofClass "kotlin" "ByteArray")
  | .bool => pure (.ofClass "kotlin" "Boolean")
  | .time => pure (.ofClass "java.time" "OffsetDateTime")
  | .array none => throw "Missing element type in kotlin array generator"
  | .array (some element) => do
    let elementType ← getTypeClass ns element
    pure ((TypeName.ofClass "kotlin.collections" "ArrayList").parameterizedBy [elementType])
  | .map none _ => throw "Missing map key in kotlin map generator"
  | .map (some _) none => throw "Missing map value in kotlin map generator"
  | .map (some key) (some value) => do
    let keyType ← getTypeClass ns key
    let valueType ← getTypeClass ns value
    pure ((TypeName.ofClass "kotlin.collections" "Map").parameterizedBy [keyType, valueType])
  | .dataRef module name =>
    pure (.ofClass (if module.isEmpty then ns else "ftl." ++ module) name)
  | .optional none => throw "Missing wrapped type in kotlin optional generator"
  | .optional (some wrapped) => do
    let wrappedType ← getTypeClass ns wrapped
    pure wrappedType.copyNullable
  | .other => throw "Unknown type in kotlin generator"

/-! ## Ingress paths -/

/-- One component of a path: a literal's text, or a parameter in braces. -/
def ingressPathComponent : IngressPathComponent → Except String String
  | .literal text => pure text
  | .parameter name => pure ("\x7b" ++ name ++ "\x7d")
  | .unknown => throw "Unknown ingress path component"

/-- `ingressPathString`: `"/"` and the components joined by `"/"`. -/
def ingressPathString (components : List IngressPathComponent) : Except String String := do
  let parts ← components.mapM ingressPathComponent
  pure ("/" ++ "/".intercalate parts)

/-- Kotlin's `replaceBefore(delimiter, replacement)` for a one-character
delimiter: the string itself when it has none. -/
def replaceBefore (s : String) (delimiter : Char) (replacement : String) : String :=
  let before := s.takeWhile (· ≠ delimiter)
  if before.length = s.length then s else replacement ++ s.drop before.length

/-! ## Data classes and verb stubs -/

/-- `Unit::class`. -/
def unitType : TypeName := .ofClass "kotlin" "Unit"

/-- The constructor parameter and the property a field with a type becomes:
a nullable one defaults to `null`. The source computes the type twice, once
for each; it is the same. -/
def fieldMembers (ns : String) (field : Field) :
    Except String (Option (ParameterSpec × PropertySpec)) :=
  match field.type with
  | none => pure none
  | some type => do
    let typeClass ← getTypeClass ns type
    pure (some (⟨field.name, typeClass, if type.isOptional then some "null" else none⟩,
      ⟨field.name, typeClass, field.name⟩))

/-- `buildDataClass`: a `data` class with a constructor parameter and a
property for each field that has a type, or `_empty: Unit = Unit` when the
data has no fields. Each field's comments are appended to the class's. -/
def buildDataClass (type : Data) (ns : String) : Except String TypeSpec := do
  let members ← type.fields.mapM (fieldMembers ns)
  let (parameters, properties) :=
    if type.fields.isEmpty then ([⟨"_empty", unitType, some "Unit"⟩], [⟨"_empty", unitType, "_empty"⟩])
    else (members.filterMap id).unzip
  pure { name := type.name, modifiers := ["data"],
         kdoc := String.join ("\n".intercalate type.comments ::
           type.fields.map fun field => "\n".intercalate field.comments),
         annotations := [], primaryConstructor := parameters, properties := properties,
         functions := [] }

/-- The `@Ingress` annotation of an ingress route. -/
def ingressAnnotation (ingress : MetadataIngress) : Except String AnnotationSpec := do
  let path ← ingressPathString ingress.path
  pure ⟨.ofClass "xyz.block.ftl" "Ingress",
    [.type (.ofClass "xyz.block.ftl.Method" (replaceBefore ingress.method '.' "")), .string path]⟩

/-- `buildVerbFunction`: a function annotated `@Verb`, and `@Ingress` for
each ingress route, taking the context and the request and returning the
response, each named by its bare name, whose body throws. -/
def buildVerbFunction (className : String) (verb : Verb) : Except String FunSpec := do
  let ingress ← verb.metadata.filterMapM fun metadata => metadata.ingress.mapM ingressAnnotation
  pure { name := verb.name, kdoc := "\n".intercalate verb.comments,
         annotations := ⟨.ofClass "xyz.block.ftl" "Verb", []⟩ :: ingress,
         parameters := ⟨"context", .ofClass "xyz.block.ftl" "Context", none⟩ ::
           (verb.request.map fun request => ⟨"req", .typeVariable request.name false, none⟩).toList,
         returns := verb.response.map fun response => .typeVariable response.name false,
         code := ("throw NotImplementedError(%S)",
           ["Verb stubs should not be called directly, instead use context.call(" ++ className ++
             "::" ++ verb.name ++ ", ...)"]) }

/-! ## Files -/

/-- `DEFAULT_MODULE_CLIENT_SUFFIX`. -/
def defaultModuleClientSuffix : String := "Module"

/-- The module's class: annotated `@Ignore`, a constructor of no
parameters, and the verb stubs. -/
def moduleClass (className : String) (functions : List FunSpec) : TypeSpec where
  name := className
  modifiers := []
  kdoc := ""
  annotations := [⟨.ofClass "xyz.block.ftl" "Ignore", []⟩]
  primaryConstructor := []
  properties := []
  functions := functions

/-- `generateModule`: the file `ftl.<module>`, its data classes, then the
module's class of verb stubs. -/
def generateModule (module : Module) (moduleClientSuffix : String) : Except String FileSpec := do
  let ns := "ftl." ++ module.name
  let className := module.name.capitalize ++ moduleClientSuffix
  let types ← (module.decls.filterMap Decl.data?).mapM (buildDataClass · ns)
  let functions ← (module.decls.filterMap Decl.verb?).mapM (buildVerbFunction className)
  pure { packageName := ns, name := className,
         comment := "Code generated by FTL-Generator, do not edit." ++ "\n" ++
           "\n".intercalate module.comments,
         types := types ++ [moduleClass className functions] }

/-- The files generated for modules in order, up to the first that fails:
the exception stops `run`, the files before it already written. -/
def generateAll (moduleClientSuffix : String) : List Module → List FileSpec × Option String
  | [] => ([], none)
  | module :: modules =>
    match generateModule module moduleClientSuffix with
    | .error err => ([], some err)
    | .ok file =>
      let (files, err) := generateAll moduleClientSuffix modules
      (file :: files, err)

/-- `run`: a file for each module of the schema but the one being built. -/
def run (schema : Schema) (module moduleClientSuffix : String) : List FileSpec × Option String :=
  generateAll moduleClientSuffix (schema.modules.filter (·.name ≠ module))

end Kotlin

end Ftl
