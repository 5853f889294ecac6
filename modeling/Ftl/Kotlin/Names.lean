import Mathlib.Data.List.Nodup
import Ftl.Kotlin.Stubs
/-!
# The Kotlin stub generator — the classes a stub file names

A stub file names classes: the types of its constructor parameters and
properties, the parameters and return types of its verb stubs, and its
annotations (`FileSpec.classes`). Each is a class of the Kotlin library, of
`java.time` or of the FTL runtime (`libraryPackages`), or a class of the
package of some module. It declares its own: a class for each data
declaration of its module, and the module's class (`FileSpec.declares`).

A field's type names a class of the package of the module its data
reference names (`getTypeClass`). A verb's request and response are named
differently: by their bare names (`TypeVariableName`), which Kotlin looks
up in the file's own package, whatever module the reference names.

So for a schema whose references all name data of the schema
(`Schema.Closed`) and whose verbs take and return data of their own module
(`Schema.VerbsLocal`), every class a file of a run that succeeds names is a
library class or the class of a data declaration of the schema, and unless
that data is the built module's, one of the run's files declares it
(`run_classes_declared`). The verbs' hypothesis cannot be dropped: the stub
of a verb that takes another module's data names a class that no file
declares (the example on `foreignRequestSchema`).
-/

namespace Ftl

namespace Kotlin

/-! ## The classes a file names -/

mutual

/-- The classes a Kotlin type names, each by its package and simple name. A
type variable is printed as its bare name, which Kotlin looks up in the
file's package `pkg`. -/
def TypeName.classes (pkg : String) : TypeName → List (String × String)
  | .className p n args _ => (p, n) :: TypeName.classesOfArgs pkg args
  | .typeVariable n _ => [(pkg, n)]

/-- The classes the type arguments of a class name. -/
def TypeName.classesOfArgs (pkg : String) : List TypeName → List (String × String)
  | [] => []
  | k :: ks => k.classes pkg ++ TypeName.classesOfArgs pkg ks

end

/-- The class a `%T` member of an annotation names. -/
def AnnotationMember.classes (pkg : String) : AnnotationMember → List (String × String)
  | .type k => k.classes pkg
  | .string _ => []

/-- The classes an annotation names: its own and its members'. -/
def AnnotationSpec.classes (pkg : String) (a : AnnotationSpec) : List (String × String) :=
  a.type.classes pkg ++ a.members.flatMap (·.classes pkg)

/-- The classes a function names: in its annotations, its parameters and
its return type. -/
def FunSpec.classes (pkg : String) (f : FunSpec) : List (String × String) :=
  f.annotations.flatMap (·.classes pkg) ++ f.parameters.flatMap (·.type.classes pkg) ++
    f.returns.toList.flatMap (·.classes pkg)

/-- The classes a class names: in its annotations, its constructor, its
properties and its functions. -/
def TypeSpec.classes (pkg : String) (t : TypeSpec) : List (String × String) :=
  t.annotations.flatMap (·.classes pkg) ++ t.primaryConstructor.flatMap (·.type.classes pkg) ++
    t.properties.flatMap (·.type.classes pkg) ++ t.functions.flatMap (·.classes pkg)

/-- The classes a file names. -/
def FileSpec.classes (file : FileSpec) : List (String × String) :=
  file.types.flatMap (·.classes file.packageName)

/-- The classes a file declares. -/
def FileSpec.declares (file : FileSpec) : List (String × String) :=
  file.types.map fun t => (file.packageName, t.name)

/-- The packages of the classes the generator names besides the stubs':
the Kotlin library, `java.time`, and the FTL runtime with its `Method`s. -/
def libraryPackages : List String :=
  ["kotlin", "kotlin.collections", "java.time", "xyz.block.ftl", "xyz.block.ftl.Method"]

namespace TypeName

variable {pkg : String}

@[simp] theorem classesOfArgs_nil : classesOfArgs pkg [] = [] := by
  simp [classesOfArgs]

@[simp] theorem classesOfArgs_cons (k : TypeName) (ks : List TypeName) :
    classesOfArgs pkg (k :: ks) = k.classes pkg ++ classesOfArgs pkg ks := by
  simp [classesOfArgs]

@[simp] theorem classes_ofClass (p n : String) : (ofClass p n).classes pkg = [(p, n)] := by
  simp [ofClass, classes]

@[simp] theorem classes_parameterizedBy (p n : String) (args : List TypeName) :
    ((ofClass p n).parameterizedBy args).classes pkg = (p, n) :: classesOfArgs pkg args := by
  simp [ofClass, parameterizedBy, classes]

@[simp] theorem classes_copyNullable (k : TypeName) : k.copyNullable.classes pkg = k.classes pkg := by
  cases k <;> simp [copyNullable, classes]

end TypeName

/-! ## The references of a schema -/

/-- The data references a type makes, at every depth. -/
def SchemaType.refs : SchemaType → List (String × String)
  | .array (some element) => element.refs
  | .map (some key) (some value) => key.refs ++ value.refs
  | .map (some key) none => key.refs
  | .map none (some value) => value.refs
  | .dataRef module name => [(module, name)]
  | .optional (some wrapped) => wrapped.refs
  | _ => []

/-- The data references of a field's type. -/
def Field.refs (field : Field) : List (String × String) :=
  match field.type with
  | some type => type.refs
  | none => []

/-- The data references a verb's request and response make. -/
def Verb.refs (verb : Verb) : List (String × String) :=
  (verb.request.toList ++ verb.response.toList).map fun ref => (ref.module, ref.name)

/-- The data a module declares. -/
def Module.data (module : Module) : List Data := module.decls.filterMap Decl.data?

/-- The verbs a module declares. -/
def Module.verbs (module : Module) : List Verb := module.decls.filterMap Decl.verb?

/-- The data references a module makes, in its data and its verbs. -/
def Module.refs (module : Module) : List (String × String) :=
  module.data.flatMap (·.fields.flatMap Field.refs) ++ module.verbs.flatMap Verb.refs

/-- The module a reference made in module `own` names: `own` when it names
none. -/
def refModule (own : String) (ref : String × String) : String :=
  if ref.1.isEmpty then own else ref.1

/-- Every reference names data of the schema: the module it names declares
data of its name. -/
def Schema.Closed (schema : Schema) : Prop :=
  ∀ m ∈ schema.modules, ∀ ref ∈ m.refs,
    ∃ m' ∈ schema.modules, m'.name = refModule m.name ref ∧ ∃ d ∈ m'.data, d.name = ref.2

/-- Every verb takes and returns data of its own module. -/
def Schema.VerbsLocal (schema : Schema) : Prop :=
  ∀ m ∈ schema.modules, ∀ v ∈ m.verbs, ∀ ref ∈ v.refs, refModule m.name ref = m.name

instance (schema : Schema) : Decidable schema.Closed :=
  inferInstanceAs (Decidable (∀ m ∈ schema.modules, ∀ ref ∈ m.refs,
    ∃ m' ∈ schema.modules, m'.name = refModule m.name ref ∧ ∃ d ∈ m'.data, d.name = ref.2))

instance (schema : Schema) : Decidable schema.VerbsLocal :=
  inferInstanceAs (Decidable (∀ m ∈ schema.modules, ∀ v ∈ m.verbs, ∀ ref ∈ v.refs,
    refModule m.name ref = m.name))

/-! ## What each part of a file names -/

variable {own pkg : String}

/-- A class of a library package names nothing else. -/
theorem library_of_mem_classes {p n : String} (hp : p ∈ libraryPackages) {c : String × String}
    (hc : c ∈ (TypeName.ofClass p n).classes pkg) : c.1 ∈ libraryPackages := by
  rw [TypeName.classes_ofClass, List.mem_singleton] at hc
  exact hc ▸ hp

/-- The classes of a field's Kotlin type: library classes, and the class of
each data reference of its schema type, in the package of the module the
reference names. -/
theorem classes_getTypeClass : ∀ {t : SchemaType} {k : TypeName},
    getTypeClass ("ftl." ++ own) t = .ok k → ∀ c ∈ k.classes pkg,
      c.1 ∈ libraryPackages ∨ ∃ ref ∈ t.refs, c = ("ftl." ++ refModule own ref, ref.2)
  | .array (some element), k, h, c, hc => by
    simp only [getTypeClass, except_bind_eq_ok, except_pure_eq_ok] at h
    obtain ⟨_, he, rfl⟩ := h
    simp only [TypeName.classes_parameterizedBy, TypeName.classesOfArgs_cons,
      TypeName.classesOfArgs_nil, List.append_nil, List.mem_cons] at hc
    rcases hc with rfl | hc
    · exact .inl (by simp [libraryPackages])
    · exact classes_getTypeClass he c hc
  | .map (some key) (some value), k, h, c, hc => by
    simp only [getTypeClass, except_bind_eq_ok, except_pure_eq_ok] at h
    obtain ⟨_, hk, _, hv, rfl⟩ := h
    simp only [TypeName.classes_parameterizedBy, TypeName.classesOfArgs_cons,
      TypeName.classesOfArgs_nil, List.append_nil, List.mem_cons, List.mem_append] at hc
    rcases hc with rfl | hc | hc
    · exact .inl (by simp [libraryPackages])
    · exact (classes_getTypeClass hk c hc).imp_right fun ⟨ref, href, hc⟩ =>
        ⟨ref, List.mem_append_left _ href, hc⟩
    · exact (classes_getTypeClass hv c hc).imp_right fun ⟨ref, href, hc⟩ =>
        ⟨ref, List.mem_append_right _ href, hc⟩
  | .optional (some wrapped), k, h, c, hc => by
    simp only [getTypeClass, except_bind_eq_ok, except_pure_eq_ok] at h
    obtain ⟨_, hw, rfl⟩ := h
    rw [TypeName.classes_copyNullable] at hc
    exact classes_getTypeClass hw c hc
  | .dataRef module name, k, h, c, hc => by
    cases h
    rw [TypeName.classes_ofClass, List.mem_singleton] at hc
    refine .inr ⟨(module, name), List.mem_singleton_self _, hc.trans ?_⟩
    by_cases hm : module.isEmpty <;> simp [refModule, hm]
  | .int, _, h, c, hc | .float, _, h, c, hc | .string, _, h, c, hc | .bytes, _, h, c, hc
  | .bool, _, h, c, hc | .time, _, h, c, hc => by
    cases h
    exact .inl (library_of_mem_classes (by decide) hc)
  | .array none, _, h, _, _ | .map none _, _, h, _, _ | .map (some _) none, _, h, _, _
  | .optional none, _, h, _, _ | .other, _, h, _, _ => by cases h

/-- What a data class is made of: a class of the data's name, with no
annotation and no function, whose constructor parameters and properties
are `_empty: Unit` or of the Kotlin type of a field's schema type. -/
theorem buildDataClass_members {type : Data} {ns : String} {spec : TypeSpec}
    (h : buildDataClass type ns = .ok spec) :
    spec.name = type.name ∧ spec.annotations = [] ∧ spec.functions = [] ∧
      ∀ k ∈ spec.primaryConstructor.map (·.type) ++ spec.properties.map (·.type),
        k = unitType ∨ ∃ field ∈ type.fields, ∃ t, field.type = some t ∧ getTypeClass ns t = .ok k := by
  simp only [buildDataClass, except_bind_eq_ok, except_pure_eq_ok] at h
  obtain ⟨members, hm, rfl⟩ := h
  split
  · exact ⟨rfl, rfl, rfl, by simp⟩
  · rcases hu : (members.filterMap id).unzip with ⟨params, props⟩
    have hparams : (members.filterMap id).map Prod.fst = params := by rw [← List.unzip_fst, hu]
    have hprops : (members.filterMap id).map Prod.snd = props := by rw [← List.unzip_snd, hu]
    have hmember : ∀ pq, some pq ∈ members → ∃ field ∈ type.fields, ∃ t, field.type = some t ∧
        getTypeClass ns t = .ok pq.1.type ∧ pq.2.type = pq.1.type := by
      intro pq hpq
      obtain ⟨field, hfield, hf⟩ := mem_of_mapM_eq_ok hm _ hpq
      rcases fieldMembers_eq_ok hf with ⟨-, ⟨⟩⟩ | ⟨t, k, ht, hk, heq⟩
      cases Option.some.inj heq
      exact ⟨field, hfield, t, ht, hk, rfl⟩
    subst hparams hprops
    refine ⟨rfl, rfl, rfl, fun k hk => .inr ?_⟩
    simp only [List.map_map, List.mem_append, List.mem_map, List.mem_filterMap, id_eq,
      Function.comp_apply] at hk
    rcases hk with ⟨pq, ⟨_, hpq, rfl⟩, rfl⟩ | ⟨pq, ⟨_, hpq, rfl⟩, rfl⟩
    · obtain ⟨field, hfield, t, ht, hk, -⟩ := hmember pq hpq
      exact ⟨field, hfield, t, ht, hk⟩
    · obtain ⟨field, hfield, t, ht, hk, heq⟩ := hmember pq hpq
      exact ⟨field, hfield, t, ht, heq ▸ hk⟩

/-- The classes a data class names: library classes, and those its fields'
types name. -/
theorem classes_buildDataClass {type : Data} {spec : TypeSpec}
    (h : buildDataClass type ("ftl." ++ own) = .ok spec) :
    ∀ c ∈ spec.classes pkg, c.1 ∈ libraryPackages ∨
      ∃ ref ∈ type.fields.flatMap Field.refs, c = ("ftl." ++ refModule own ref, ref.2) := by
  obtain ⟨-, hann, hfun, hmembers⟩ := buildDataClass_members h
  intro c hc
  simp only [TypeSpec.classes, hann, hfun, List.flatMap_nil, List.nil_append, List.append_nil,
    List.mem_append, List.mem_flatMap] at hc
  obtain ⟨k, hk, hc⟩ : ∃ k ∈ spec.primaryConstructor.map (·.type) ++ spec.properties.map (·.type),
      c ∈ k.classes pkg := by
    rcases hc with ⟨p, hp, hc⟩ | ⟨p, hp, hc⟩
    · exact ⟨p.type, List.mem_append_left _ (List.mem_map_of_mem _ hp), hc⟩
    · exact ⟨p.type, List.mem_append_right _ (List.mem_map_of_mem _ hp), hc⟩
  rcases hmembers k hk with rfl | ⟨field, hfield, t, ht, hk⟩
  · exact .inl (library_of_mem_classes (by decide) hc)
  · refine (classes_getTypeClass hk c hc).imp_right fun ⟨ref, href, hc⟩ => ⟨ref, ?_, hc⟩
    exact List.mem_flatMap.2 ⟨field, hfield, by simpa [Field.refs, ht] using href⟩

/-- An `@Ingress` annotation names library classes only. -/
theorem ingressAnnotation_classes {ingress : MetadataIngress} {a : AnnotationSpec}
    (h : ingressAnnotation ingress = .ok a) : ∀ c ∈ a.classes pkg, c.1 ∈ libraryPackages := by
  unfold ingressAnnotation at h
  simp only [except_bind_eq_ok, except_pure_eq_ok] at h
  obtain ⟨_, -, rfl⟩ := h
  intro c hc
  simp [AnnotationSpec.classes, AnnotationMember.classes] at hc
  rcases hc with rfl | rfl <;> simp [libraryPackages]

/-- The classes a verb stub names: library classes, and its request's and
response's bare names, which Kotlin looks up in the file's own package
whatever module the references name. -/
theorem classes_buildVerbFunction {className : String} {verb : Verb} {f : FunSpec}
    (h : buildVerbFunction className verb = .ok f) :
    ∀ c ∈ f.classes pkg, c.1 ∈ libraryPackages ∨ ∃ ref ∈ verb.refs, c = (pkg, ref.2) := by
  simp only [buildVerbFunction, except_bind_eq_ok, except_pure_eq_ok] at h
  obtain ⟨ingress, hingress, rfl⟩ := h
  intro c hc
  simp only [FunSpec.classes, List.flatMap_cons, List.mem_append, List.mem_flatMap] at hc
  rcases hc with ((hc | ⟨a, ha, hc⟩) | (hc | ⟨p, hp, hc⟩)) | ⟨k, hk, hc⟩
  -- the `@Verb` annotation
  · rw [AnnotationSpec.classes, List.flatMap_nil, List.append_nil] at hc
    exact .inl (library_of_mem_classes (by decide) hc)
  -- an `@Ingress` annotation
  · obtain ⟨metadata, -, hmetadata⟩ := mem_of_filterMapM_eq_ok hingress a ha
    cases hi : metadata.ingress with
    | none => simp [Option.mapM, hi] at hmetadata
    | some i =>
      simp only [Option.mapM, hi, except_bind_eq_ok, except_pure_eq_ok] at hmetadata
      obtain ⟨a', ha', ⟨⟩⟩ := hmetadata
      exact .inl (ingressAnnotation_classes ha' c hc)
  -- the context
  · exact .inl (library_of_mem_classes (by decide) hc)
  -- the request
  · obtain ⟨r, hr, rfl⟩ := Option.map_eq_some'.1 (Option.mem_toList.1 hp)
    rw [TypeName.classes, List.mem_singleton] at hc
    exact .inr ⟨(r.module, r.name), by simp [Verb.refs, hr], hc⟩
  -- the response
  · obtain ⟨r, hr, rfl⟩ := Option.map_eq_some'.1 (Option.mem_toList.1 hk)
    rw [TypeName.classes, List.mem_singleton] at hc
    exact .inr ⟨(r.module, r.name), by simp [Verb.refs, hr], hc⟩

/-! ## What a file names and declares -/

variable {module : Module} {suffix : String} {file : FileSpec}

/-- The classes a file names: library classes, the class of each data
reference its data make, in the package of the module the reference names,
and the bare names of its verbs' requests and responses, in its own
package. -/
theorem classes_generateModule (h : generateModule module suffix = .ok file) :
    ∀ c ∈ file.classes, c.1 ∈ libraryPackages ∨
      (∃ ref ∈ module.data.flatMap (·.fields.flatMap Field.refs),
        c = ("ftl." ++ refModule module.name ref, ref.2)) ∨
      ∃ ref ∈ module.verbs.flatMap Verb.refs, c = ("ftl." ++ module.name, ref.2) := by
  simp only [generateModule, except_bind_eq_ok, except_pure_eq_ok] at h
  obtain ⟨types, htypes, functions, hfunctions, rfl⟩ := h
  intro c hc
  simp only [FileSpec.classes, List.flatMap_append, List.mem_append, List.flatMap_cons,
    List.flatMap_nil, List.append_nil, List.mem_flatMap] at hc
  rcases hc with ⟨spec, hspec, hc⟩ | hc
  -- a data class
  · obtain ⟨d, hd, hspec⟩ := mem_of_mapM_eq_ok htypes spec hspec
    exact (classes_buildDataClass hspec c hc).imp_right fun ⟨ref, href, hc⟩ =>
      .inl ⟨ref, List.mem_flatMap.2 ⟨d, hd, href⟩, hc⟩
  -- the module's class
  · simp only [TypeSpec.classes, moduleClass, List.flatMap_cons, List.flatMap_nil, List.append_nil,
      List.nil_append, List.mem_append, List.mem_flatMap] at hc
    rcases hc with hc | ⟨f, hf, hc⟩
    · rw [AnnotationSpec.classes, List.flatMap_nil, List.append_nil] at hc
      exact .inl (library_of_mem_classes (by decide) hc)
    · obtain ⟨v, hv, hf⟩ := mem_of_mapM_eq_ok hfunctions f hf
      exact (classes_buildVerbFunction hf c hc).imp_right fun ⟨ref, href, hc⟩ =>
        .inr ⟨ref, List.mem_flatMap.2 ⟨v, hv, href⟩, hc⟩

/-- A file declares a class for each data of its module, under the data's
name, and the module's class. -/
theorem declares_generateModule (h : generateModule module suffix = .ok file) :
    file.declares = module.data.map (fun d => ("ftl." ++ module.name, d.name)) ++
      [("ftl." ++ module.name, module.name.capitalize ++ suffix)] := by
  simp only [generateModule, except_bind_eq_ok, except_pure_eq_ok] at h
  obtain ⟨types, htypes, functions, -, rfl⟩ := h
  have hnames : types.map (fun t => ("ftl." ++ module.name, t.name)) =
      module.data.map (fun d => ("ftl." ++ module.name, d.name)) :=
    map_of_mapM_eq_ok (fun d spec hspec => by rw [(buildDataClass_members hspec).1]) htypes
  simp only [FileSpec.declares, List.map_append, hnames]
  rfl

/-- **A file declares each class once exactly when its module's data have
distinct names, none of them its module class's.** The generator checks
neither: data named `EchoModule` in module `echo` gives a file declaring
`EchoModule` twice, which Kotlin rejects. -/
theorem generateModule_declares_nodup_iff (h : generateModule module suffix = .ok file) :
    file.declares.Nodup ↔ (module.data.map (·.name)).Nodup ∧
      module.name.capitalize ++ suffix ∉ module.data.map (·.name) := by
  have hmap : module.data.map (fun d => ("ftl." ++ module.name, d.name)) =
      (module.data.map (·.name)).map (Prod.mk ("ftl." ++ module.name)) := by
    rw [List.map_map]; rfl
  rw [declares_generateModule h, hmap, List.nodup_append, List.disjoint_singleton,
    List.nodup_map_iff (Prod.mk.inj_left _), List.mem_map]
  simp

/-- The module `echo` with data named `EchoModule`: a file declaring its
module class twice. -/
theorem echoModule_declared_twice :
    ∃ file, generateModule ⟨"echo", [], [.data ⟨"EchoModule", [], []⟩]⟩ defaultModuleClientSuffix =
      .ok file ∧ ¬ file.declares.Nodup :=
  let h : generateModule ⟨"echo", [], [.data ⟨"EchoModule", [], []⟩]⟩ defaultModuleClientSuffix =
    .ok _ := rfl
  ⟨_, h, fun hnodup => ((generateModule_declares_nodup_iff h).1 hnodup).2 (by decide)⟩

/-- Every module given to a run that succeeds has its file among the
run's. -/
theorem exists_file_of_generateAll :
    ∀ {modules : List Module}, (generateAll suffix modules).2 = none →
      ∀ m ∈ modules, ∃ file ∈ (generateAll suffix modules).1, generateModule m suffix = .ok file
  | [], _, m, hm => nomatch hm
  | module :: modules, h, m, hm => by
    cases hgen : generateModule module suffix with
    | error err => simp [generateAll, hgen] at h
    | ok file =>
      rw [generateAll_of_ok modules hgen] at h ⊢
      rcases List.mem_cons.1 hm with rfl | hm
      · exact ⟨file, List.mem_cons_self _ _, hgen⟩
      · obtain ⟨f, hf, hmf⟩ := exists_file_of_generateAll h m hm
        exact ⟨f, List.mem_cons_of_mem _ hf, hmf⟩

/-- **Every class a stub file names is declared.** When a run succeeds on a
schema whose references all name data of the schema, and whose verbs take
and return data of their own module, each class a file of the run names is
a library class or the class of a data declaration of the schema; and
unless that data is the built module's, whose classes come from its own
sources, a file of the run declares it. -/
theorem run_classes_declared {schema : Schema} {module suffix : String} {files : List FileSpec}
    (hrun : run schema module suffix = (files, none)) (hclosed : schema.Closed)
    (hlocal : schema.VerbsLocal) :
    ∀ file ∈ files, ∀ c ∈ file.classes, c.1 ∈ libraryPackages ∨
      ∃ m ∈ schema.modules, ∃ d ∈ m.data, c = ("ftl." ++ m.name, d.name) ∧
        (m.name = module ∨ ∃ file' ∈ files, c ∈ file'.declares) := by
  have hfiles : (generateAll suffix (schema.modules.filter (·.name ≠ module))).1 = files :=
    congrArg Prod.fst hrun
  have herr : (generateAll suffix (schema.modules.filter (·.name ≠ module))).2 = none :=
    congrArg Prod.snd hrun
  intro file hfile c hc
  obtain ⟨m, hmf, hgen⟩ := mem_generateAll (hfiles ▸ hfile)
  have hm : m ∈ schema.modules := (List.mem_filter.1 hmf).1
  -- a reference of `m` names data of the schema, whose class is declared
  have hdeclared : ∀ ref ∈ m.refs, c = ("ftl." ++ refModule m.name ref, ref.2) →
      ∃ m ∈ schema.modules, ∃ d ∈ m.data, c = ("ftl." ++ m.name, d.name) ∧
        (m.name = module ∨ ∃ file' ∈ files, c ∈ file'.declares) := by
    intro ref href hc
    obtain ⟨m', hm', hname, d, hd, hdname⟩ := hclosed m hm ref href
    refine ⟨m', hm', d, hd, by rw [hc, hname, hdname], ?_⟩
    by_cases hbuilt : m'.name = module
    · exact .inl hbuilt
    · obtain ⟨file', hfile', hgen'⟩ :=
        exists_file_of_generateAll herr m' (List.mem_filter.2 ⟨hm', by simpa using hbuilt⟩)
      refine .inr ⟨file', hfiles ▸ hfile', ?_⟩
      rw [declares_generateModule hgen', hc, ← hname, ← hdname]
      exact List.mem_append_left _ (List.mem_map_of_mem _ hd)
  rcases classes_generateModule hgen c hc with hlib | ⟨ref, href, hc⟩ | ⟨ref, href, hc⟩
  · exact .inl hlib
  · exact .inr (hdeclared ref (List.mem_append_left _ href) hc)
  · obtain ⟨v, hv, hrefv⟩ := List.mem_flatMap.1 href
    refine .inr (hdeclared ref (List.mem_append_right _ href) ?_)
    rw [hc, hlocal m hm v hv ref hrefv]

/-- A schema of two modules: `inventory`, whose items have a SKU and an
optional count, and `shop`, whose orders hold items of `inventory`. -/
def shopSchema : Schema :=
  ⟨[⟨"inventory", [], [.data ⟨"Item", [], [⟨"sku", [], some .string⟩,
        ⟨"count", [], some (.optional (some .int))⟩]⟩,
      .verb ⟨"lookup", [], some ⟨"inventory", "Item"⟩, some ⟨"", "Item"⟩, []⟩]⟩,
    ⟨"shop", [], [.data ⟨"Order", [], [⟨"items", [], some (.array (some (.dataRef "inventory" "Item")))⟩]⟩,
      .verb ⟨"order", [], some ⟨"shop", "Order"⟩, none, []⟩]⟩]⟩

/-- Building `shop` writes the stubs of `inventory`, every class of which
is declared. -/
theorem shop_stubs_declared :
    ∃ file ∈ (run shopSchema "shop" defaultModuleClientSuffix).1, ∀ c ∈ file.classes,
      c.1 ∈ libraryPackages ∨ ∃ m ∈ shopSchema.modules, ∃ d ∈ m.data, c = ("ftl." ++ m.name, d.name) ∧
        (m.name = "shop" ∨ ∃ file' ∈ (run shopSchema "shop" defaultModuleClientSuffix).1,
          c ∈ file'.declares) :=
  let hfile : _ ∈ (run shopSchema "shop" defaultModuleClientSuffix).1 := List.mem_singleton_self _
  ⟨_, hfile, run_classes_declared rfl (by decide) (by decide) _ hfile⟩

/-- The schema of `shop` whose verb `order` takes an item of `inventory`. -/
def foreignRequestSchema : Schema :=
  ⟨[⟨"inventory", [], [.data ⟨"Item", [], [⟨"sku", [], some .string⟩]⟩]⟩,
    ⟨"shop", [], [.verb ⟨"order", [], some ⟨"inventory", "Item"⟩, none, []⟩]⟩]⟩

/-- A verb stub names another module's data in its own package: the
schema is closed and the run succeeds, yet the stub of `shop.order` takes
an `Item` of the package `ftl.shop`, which no file declares. -/
example :
    foreignRequestSchema.Closed ∧ (run foreignRequestSchema "app" defaultModuleClientSuffix).2 = none ∧
      ∃ file ∈ (run foreignRequestSchema "app" defaultModuleClientSuffix).1,
        ("ftl.shop", "Item") ∈ file.classes ∧
        ∀ file' ∈ (run foreignRequestSchema "app" defaultModuleClientSuffix).1,
          ("ftl.shop", "Item") ∉ file'.declares := by
  decide

end Kotlin

end Ftl
