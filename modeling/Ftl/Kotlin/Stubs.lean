import Mathlib.Data.List.Basic
import Ftl.Kotlin.Types
/-!
# The Kotlin stub generator — the files it writes

What holds of every file `run` writes, and of the strings in it.

`run` writes, in the schema's order, the file of each module but the one
being built, up to the first module it cannot generate. In each file, a
data's class has a constructor parameter for each field with a type, in
order, defaulting to `null` exactly when the field is optional, and so
exactly when the parameter's type is nullable (`run_defaults`): a caller
may leave out exactly the optional fields. A data class gets no
constructor parameter, which Kotlin rejects for a `data` class, exactly
when the data has fields and none of them has a type
(`buildDataClass_primaryConstructor_eq_nil`). And the path of an
`@Ingress` annotation reads back to the route it was printed from, as long
as no literal is empty, starts with a brace or holds a slash, and no
parameter's name holds a slash (`decodeIngressPath_ingressPathString`).
-/

namespace Ftl

namespace Kotlin

/-! ## Data classes -/

theorem fieldMembers_eq_ok {ns : String} {field : Field} {m : Option (ParameterSpec × PropertySpec)}
    (h : fieldMembers ns field = .ok m) :
    (field.type = none ∧ m = none) ∨ ∃ t k, field.type = some t ∧ getTypeClass ns t = .ok k ∧
      m = some (⟨field.name, k, if t.isOptional then some "null" else none⟩,
        ⟨field.name, k, field.name⟩) := by
  unfold fieldMembers at h
  split at h
  · exact .inl ⟨‹_›, (except_pure_eq_ok.1 h).symm⟩
  · simp only [except_bind_eq_ok, except_pure_eq_ok] at h
    obtain ⟨k, hk, rfl⟩ := h
    exact .inr ⟨_, k, ‹_›, hk, rfl⟩

theorem buildDataClass_eq_ok {type : Data} {ns : String} {spec : TypeSpec}
    (h : buildDataClass type ns = .ok spec) :
    ∃ members, type.fields.mapM (fieldMembers ns) = .ok members ∧ spec.name = type.name ∧
      spec.primaryConstructor = (if type.fields.isEmpty then [⟨"_empty", unitType, some "Unit"⟩]
        else ((members.filterMap id).unzip).1) := by
  simp only [buildDataClass, except_bind_eq_ok, except_pure_eq_ok] at h
  obtain ⟨members, hm, rfl⟩ := h
  refine ⟨members, hm, rfl, ?_⟩
  split <;> rfl

/-- The constructor parameters of a data class, by name and default: one
for each field that has a type, in order, defaulting to `null` exactly
when the field's type is optional; `_empty = Unit` for a data with no
fields. -/
theorem buildDataClass_parameters {type : Data} {ns : String} {spec : TypeSpec}
    (h : buildDataClass type ns = .ok spec) :
    spec.name = type.name ∧ spec.primaryConstructor.map (fun p => (p.name, p.defaultValue)) =
      if type.fields.isEmpty then [("_empty", some "Unit")]
      else type.fields.filterMap fun f => f.type.map fun t => (f.name, if t.isOptional then some "null" else none) := by
  obtain ⟨members, hm, hname, hspec⟩ := buildDataClass_eq_ok h
  refine ⟨hname, ?_⟩
  have hmap := congrArg (List.filterMap id) <| @map_of_mapM_eq_ok _ _ _ _ _
    (Option.map fun pq : ParameterSpec × PropertySpec => (pq.1.name, pq.1.defaultValue))
    (fun f => f.type.map fun t => (f.name, if t.isOptional then some "null" else none))
    (fun field m hf => by
      rcases fieldMembers_eq_ok hf with ⟨ht, rfl⟩ | ⟨t, k, ht, -, rfl⟩ <;> simp [ht]) _ _ hm
  rw [hspec]
  split
  · rfl
  · simpa [List.filterMap_map, List.map_filterMap, Option.map_map, Function.comp_def, List.unzip_fst]
      using hmap

/-- A constructor parameter of a data class defaults to `null` exactly
when its type is nullable. -/
theorem buildDataClass_defaults {type : Data} {ns : String} {spec : TypeSpec}
    (h : buildDataClass type ns = .ok spec) :
    ∀ p ∈ spec.primaryConstructor, (p.defaultValue = some "null" ↔ p.type.isNullable) := by
  obtain ⟨members, hm, -, hspec⟩ := buildDataClass_eq_ok h
  intro p hp
  rw [hspec] at hp
  split at hp
  · obtain rfl := List.mem_singleton.1 hp
    decide
  · obtain ⟨q, hpq⟩ : ∃ q, (p, q) ∈ members.filterMap id := by
      simpa [List.unzip_fst] using hp
    obtain ⟨field, -, hfield⟩ := mem_of_mapM_eq_ok hm (some (p, q)) (by simpa using hpq)
    rcases fieldMembers_eq_ok hfield with ⟨-, ⟨⟩⟩ | ⟨t, k, -, hk, hpq⟩
    obtain ⟨rfl, -⟩ := Prod.mk.inj (Option.some.inj hpq)
    rw [getTypeClass_isNullable hk]
    cases t.isOptional <;> simp

/-- **A data class has no constructor parameter exactly when its fields
all lack a type.** Kotlin rejects a `data` class without one; the generator
stands in `_empty` for a data with no fields, but not for one whose fields
it skips. -/
theorem buildDataClass_primaryConstructor_eq_nil {type : Data} {ns : String} {spec : TypeSpec}
    (h : buildDataClass type ns = .ok spec) :
    spec.primaryConstructor = [] ↔ type.fields ≠ [] ∧ ∀ field ∈ type.fields, field.type = none := by
  obtain ⟨members, hm, -, hspec⟩ := buildDataClass_eq_ok h
  rw [hspec]
  by_cases hnil : type.fields = []
  · simp [hnil]
  · have hall : (∀ m ∈ members, m = none) ↔ ∀ field ∈ type.fields, field.type = none := by
      constructor
      · intro hnone field hfield
        obtain ⟨m, hm', hf⟩ := exists_of_mapM_eq_ok hm field hfield
        rcases fieldMembers_eq_ok hf with ⟨hnone', -⟩ | ⟨t, k, -, -, rfl⟩
        · exact hnone'
        · cases hnone _ hm'
      · intro hnone m hm'
        obtain ⟨field, hfield, hf⟩ := mem_of_mapM_eq_ok hm m hm'
        rcases fieldMembers_eq_ok hf with ⟨-, rfl⟩ | ⟨t, k, ht, -, -⟩
        · rfl
        · cases (hnone field hfield).symm.trans ht
    simp [hnil, ← hall, List.unzip_fst, List.filterMap_eq_nil_iff]

/-- A data whose one field has no type: a class with no constructor
parameter. -/
theorem untyped_field_leaves_no_parameter :
    ∃ spec, buildDataClass ⟨"Echo", [], [⟨"name", [], none⟩]⟩ "ftl.echo" = .ok spec ∧
      spec.primaryConstructor = [] :=
  let h : buildDataClass ⟨"Echo", [], [⟨"name", [], none⟩]⟩ "ftl.echo" = .ok _ := rfl
  ⟨_, h, (buildDataClass_primaryConstructor_eq_nil h).2 ⟨List.cons_ne_nil _ _, by simp⟩⟩

/-! ## Ingress paths -/

/-- A component the printed path keeps apart from its neighbours: a literal
that is not empty, does not start with a brace and holds no slash, or a
parameter whose name holds no slash. -/
def IngressPathComponent.plain : IngressPathComponent → Bool
  | .literal text => text.data ≠ [] && text.data.head? ≠ some '{' && '/' ∉ text.data
  | .parameter name => '/' ∉ name.data
  | .unknown => false

/-- A component of a printed path read back: in braces, a parameter. -/
def decodeComponent (part : List Char) : IngressPathComponent :=
  match part with
  | '{' :: rest => if rest.getLast? = some '}' then .parameter ⟨rest.dropLast⟩ else .literal ⟨part⟩
  | _ => .literal ⟨part⟩

/-- A printed path read back: the components between its slashes. -/
def decodeIngressPath (path : String) : List IngressPathComponent :=
  match path.data with
  | '/' :: rest => if rest = [] then [] else (rest.splitOn '/').map decodeComponent
  | _ => []

theorem flatten_intersperse_cons {α : Type} (sep x : List α) :
    ∀ xs : List (List α), (List.intersperse sep (x :: xs)).flatten = x ++ (xs.map (sep ++ ·)).flatten
  | [] => by simp
  | y :: ys => by
    rw [List.intersperse_cons_cons, List.flatten_cons, List.flatten_cons,
      flatten_intersperse_cons sep y ys]
    simp

theorem intercalate_go_data (acc s : String) (l : List String) :
    (String.intercalate.go acc s l).data = acc.data ++ (l.map fun a => s.data ++ a.data).flatten := by
  induction l generalizing acc with
  | nil => simp [String.intercalate.go]
  | cons a l ih => simp [String.intercalate.go, ih]

theorem intercalate_data (s : String) (l : List String) :
    (s.intercalate l).data = s.data.intercalate (l.map String.data) := by
  cases l with
  | nil => rfl
  | cons a l =>
    rw [String.intercalate, intercalate_go_data, List.map_cons, List.intercalate,
      flatten_intersperse_cons, List.map_map]
    rfl

theorem ingressPathComponent_of_plain {c : IngressPathComponent} (h : c.plain) :
    ∃ part, ingressPathComponent c = .ok part ∧ part.data ≠ [] ∧ '/' ∉ part.data ∧
      decodeComponent part.data = c := by
  cases c with
  | literal text =>
    obtain ⟨_ | ⟨ch, cs⟩⟩ := text
    · simp [IngressPathComponent.plain] at h
    · simp only [IngressPathComponent.plain, List.head?_cons, Bool.and_eq_true, decide_eq_true_eq,
        ne_eq, Option.some.injEq] at h
      obtain ⟨⟨-, hch⟩, hslash⟩ := h
      exact ⟨⟨ch :: cs⟩, rfl, List.cons_ne_nil _ _, hslash, by simp [decodeComponent, hch]⟩
  | parameter name =>
    refine ⟨_, rfl, by simp, by simpa [IngressPathComponent.plain] using h, ?_⟩
    simp [decodeComponent]
  | unknown => cases h

theorem mapM_ingressPathComponent_of_plain : ∀ {components : List IngressPathComponent},
    (∀ c ∈ components, c.plain) →
    ∃ parts, components.mapM ingressPathComponent = .ok parts ∧
      (∀ part ∈ parts, part.data ≠ [] ∧ '/' ∉ part.data) ∧
      (parts.map String.data).map decodeComponent = components
  | [], _ => ⟨[], rfl, by simp, rfl⟩
  | c :: cs, h => by
    obtain ⟨part, hc, hne, hslash, hdec⟩ := ingressPathComponent_of_plain (h c (List.mem_cons_self _ _))
    obtain ⟨parts, hcs, hparts, hdecs⟩ :=
      mapM_ingressPathComponent_of_plain fun c' hc' => h c' (List.mem_cons_of_mem _ hc')
    refine ⟨part :: parts, by rw [List.mapM_cons, hc, hcs]; rfl, ?_, by simp [hdec, hdecs]⟩
    simpa [hne, hslash] using hparts

/-- **An ingress path reads back to its route.** The path the generator
prints for a route of plain components, the string of its `@Ingress`
annotation, splits at its slashes into those components again. -/
theorem decodeIngressPath_ingressPathString {components : List IngressPathComponent}
    (h : ∀ c ∈ components, c.plain) :
    ∃ path, ingressPathString components = .ok path ∧ decodeIngressPath path = components := by
  obtain ⟨parts, hparts, hwf, hdec⟩ := mapM_ingressPathComponent_of_plain h
  refine ⟨_, by rw [ingressPathString, hparts]; rfl, ?_⟩
  rcases parts with _ | ⟨part, parts⟩
  · rw [← hdec]; rfl
  · have hne : ['/'].intercalate ((part :: parts).map String.data) ≠ [] := by
      rw [List.map_cons, List.intercalate, flatten_intersperse_cons]
      exact List.append_ne_nil_of_left_ne_nil (hwf part (List.mem_cons_self _ _)).1 _
    have hsplit : (['/'].intercalate ((part :: parts).map String.data)).splitOn '/' =
        (part :: parts).map String.data :=
      List.splitOn_intercalate _ '/'
        (fun _ hp => by obtain ⟨s, hs, rfl⟩ := List.mem_map.1 hp; exact (hwf s hs).2) (by simp)
    simp only [List.map_cons] at hne hsplit
    simp only [decodeIngressPath, String.data_append, intercalate_data, List.map_cons,
      List.singleton_append]
    rw [if_neg hne, hsplit]
    exact hdec

/-- The route `/users/{id}` prints and reads back. -/
theorem users_route_reads_back :
    ∃ path, ingressPathString [.literal "users", .parameter "id"] = .ok path ∧
      decodeIngressPath path = [.literal "users", .parameter "id"] :=
  decodeIngressPath_ingressPathString (by decide)

/-! ## Files -/

theorem generateModule_eq_ok {module : Module} {suffix : String} {file : FileSpec}
    (h : generateModule module suffix = .ok file) :
    ∃ types functions,
      (module.decls.filterMap Decl.data?).mapM (buildDataClass · ("ftl." ++ module.name)) = .ok types ∧
      file.packageName = "ftl." ++ module.name ∧
      file.types = types ++ [moduleClass (module.name.capitalize ++ suffix) functions] := by
  simp only [generateModule, except_bind_eq_ok, except_pure_eq_ok] at h
  obtain ⟨types, ht, functions, -, rfl⟩ := h
  exact ⟨types, functions, ht, rfl, rfl⟩

theorem generateModule_defaults {module : Module} {suffix : String} {file : FileSpec}
    (h : generateModule module suffix = .ok file) :
    ∀ spec ∈ file.types, ∀ p ∈ spec.primaryConstructor,
      (p.defaultValue = some "null" ↔ p.type.isNullable) := by
  obtain ⟨types, functions, ht, -, htypes⟩ := generateModule_eq_ok h
  intro spec hspec
  rw [htypes, List.mem_append, List.mem_singleton] at hspec
  rcases hspec with hspec | rfl
  · obtain ⟨data, -, hdata⟩ := mem_of_mapM_eq_ok ht spec hspec
    exact buildDataClass_defaults hdata
  · exact fun p hp => nomatch hp

theorem generateAll_of_ok {suffix : String} {module : Module} {file : FileSpec}
    (modules : List Module) (h : generateModule module suffix = .ok file) :
    generateAll suffix (module :: modules) =
      (file :: (generateAll suffix modules).1, (generateAll suffix modules).2) := by
  simp [generateAll, h]

theorem mem_generateAll {suffix : String} {file : FileSpec} :
    ∀ {modules : List Module}, file ∈ (generateAll suffix modules).1 →
      ∃ module ∈ modules, generateModule module suffix = .ok file
  | [], h => nomatch h
  | module :: modules, h => by
    cases hm : generateModule module suffix with
    | error err => simp [generateAll, hm] at h
    | ok file' =>
      rw [generateAll_of_ok modules hm, List.mem_cons] at h
      rcases h with rfl | h
      · exact ⟨module, List.mem_cons_self _ _, hm⟩
      · obtain ⟨m, hm', hfile⟩ := mem_generateAll h
        exact ⟨m, List.mem_cons_of_mem _ hm', hfile⟩

/-- **Optional fields may be left out, and only those.** Every file `run`
writes is the file of a module of the schema other than the one being
built, in the module's package. In it, a constructor parameter defaults to
`null` exactly when its type is nullable; and each data of the module
has its class, whose parameters are its fields that have a type, in
order, each defaulting to `null` exactly when the field's schema type
is optional. -/
theorem run_defaults {schema : Schema} {module suffix : String} {file : FileSpec}
    (hfile : file ∈ (run schema module suffix).1) :
    ∃ m ∈ schema.modules, m.name ≠ module ∧ file.packageName = "ftl." ++ m.name ∧
      (∀ spec ∈ file.types, ∀ p ∈ spec.primaryConstructor,
        (p.defaultValue = some "null" ↔ p.type.isNullable)) ∧
      ∀ d ∈ m.decls.filterMap Decl.data?, ∃ spec ∈ file.types, spec.name = d.name ∧
        spec.primaryConstructor.map (fun p => (p.name, p.defaultValue)) =
          if d.fields.isEmpty then [("_empty", some "Unit")]
          else d.fields.filterMap fun f => f.type.map fun t =>
            (f.name, if t.isOptional then some "null" else none) := by
  obtain ⟨m, hmf, hm⟩ := mem_generateAll hfile
  obtain ⟨hms, hname⟩ := List.mem_filter.1 hmf
  obtain ⟨types, functions, ht, hpkg, htypes⟩ := generateModule_eq_ok hm
  refine ⟨m, hms, of_decide_eq_true hname, hpkg, generateModule_defaults hm, fun d hd => ?_⟩
  obtain ⟨spec, hspec, hbuild⟩ := exists_of_mapM_eq_ok ht d hd
  exact ⟨spec, htypes ▸ List.mem_append_left _ hspec, buildDataClass_parameters hbuild⟩

/-- A schema of two modules: `echo`, whose request has an optional name,
and `time`. -/
def echoSchema : Schema :=
  ⟨[⟨"echo", [], [.data ⟨"EchoRequest", [], [⟨"name", [], some (.optional (some .string))⟩]⟩,
      .verb ⟨"echo", [], some ⟨"echo", "EchoRequest"⟩, some ⟨"echo", "EchoResponse"⟩, []⟩]⟩,
    ⟨"time", [], [.data ⟨"TimeResponse", [], [⟨"time", [], some .time⟩]⟩]⟩]⟩

/-- Building `time` writes the stubs of `echo`, whose optional name
is a parameter defaulting to `null`. -/
theorem echo_stubs_default_null :
    ∃ file ∈ (run echoSchema "time" defaultModuleClientSuffix).1,
      ∃ m ∈ echoSchema.modules, m.name ≠ "time" ∧ file.packageName = "ftl." ++ m.name ∧
        (∀ spec ∈ file.types, ∀ p ∈ spec.primaryConstructor,
          (p.defaultValue = some "null" ↔ p.type.isNullable)) ∧
        ∀ d ∈ m.decls.filterMap Decl.data?, ∃ spec ∈ file.types, spec.name = d.name ∧
          spec.primaryConstructor.map (fun p => (p.name, p.defaultValue)) =
            if d.fields.isEmpty then [("_empty", some "Unit")]
            else d.fields.filterMap fun f => f.type.map fun t =>
              (f.name, if t.isOptional then some "null" else none) :=
  let hfile : _ ∈ (run echoSchema "time" defaultModuleClientSuffix).1 := List.mem_singleton_self _
  ⟨_, hfile, run_defaults hfile⟩

end Kotlin

end Ftl
