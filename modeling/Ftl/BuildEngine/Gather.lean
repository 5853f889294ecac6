import Ftl.BuildEngine.Worker
import Mathlib.Data.List.Perm.Subperm
/-!
# The build engine — the combined schema `gatherSchemas` collects

`build` hands the compiler the map `gatherSchemas` fills: every
dependency of the module, and, through each dependency that is a local
module other than `builtin`, that module's dependencies in turn, each
entered with its schema in `builtModules`. `GatherStep` is one level of
that recursion, and **`gatherSchemas_gathers`** says what a call that
returns has done: it entered the modules `GatherStep` reaches from the
dependencies, with their schemas, and kept every other entry. The search
keeps no record of what it visited, so it returns only when no local
module reaches itself: **`gatherSchemas_isSome`** is the termination
argument, on a path of distinct local modules, and `gatherSchemas_spec`
puts the two together for every engine whose dependency relation is
acyclic; `gatherSchemas_collects` reads it off for a local module.

`GatherStep` is `Graph`'s relation restricted to local modules: a
dependency known only from the controller is entered and not followed
(the source's `TODO`), so every module entered is one `Graph` reaches
(`dependsOn_of_collected`), but not the other way round.
-/

namespace Ftl

namespace BuildEngine

open Relation

/-! ## Loops in `Option` -/

section Loop

variable {α β : Type} {f g : β → α → Option β}

/-- A loop returns when its body returns on every state. -/
theorem foldlM_isSome {xs : List α} (hf : ∀ b, ∀ a ∈ xs, (f b a).isSome) (b : β) :
    (xs.foldlM f b).isSome := by
  induction xs generalizing b with
  | nil => rfl
  | cons x xs ih =>
    obtain ⟨b₁, hb₁⟩ := Option.isSome_iff_exists.1 (hf b x (List.mem_cons_self _ _))
    simpa [hb₁] using ih (fun b a ha => hf b a (List.mem_cons_of_mem _ ha)) b₁

/-- A loop returns what it returned when its body is replaced by one that
returns whatever the old body returned. -/
theorem foldlM_mono (h : ∀ {b a r}, f b a = some r → g b a = some r) :
    ∀ {xs : List α} {b r : β}, xs.foldlM f b = some r → xs.foldlM g b = some r
  | [], _, _, h' => h'
  | x :: xs, b, r, h' => by
    rw [List.foldlM_cons] at h' ⊢
    obtain ⟨b₁, hb₁, h'⟩ := Option.bind_eq_some.1 h'
    exact Option.bind_eq_some.2 ⟨b₁, h hb₁, foldlM_mono h h'⟩

end Loop

/-! ## What one call enters -/

section Gathers

variable (m : GoMap ModuleMeta) (moduleSchemas : GoMap SchemaModule)

/-- One level of `gatherSchemas`'s recursion: from a local module other
than `builtin` to one of its dependencies. -/
def GatherStep (a d : String) : Prop :=
  a ≠ "builtin" ∧ ∃ module, localModule m a = some module ∧ d ∈ module.dependencies

/-- `k` is a module `gatherSchemas` enters when it loops over `deps`. -/
def Collected (deps : List String) (k : String) : Prop :=
  ∃ d ∈ deps, ReflTransGen (GatherStep m) d k

/-- What `gatherSchemas` returning `out'` from `out`, looping over `deps`,
has done: it entered every module collected from `deps` with its schema,
`nil` if it has none, and kept every other entry of `out`. -/
structure Gathers (deps : List String) (out out' : GoMap (Option SchemaModule)) : Prop where
  enters : ∀ {k}, Collected m deps k → out'.lookup k = some (moduleSchemas.lookup k)
  keeps : ∀ {k}, ¬ Collected m deps k → out'.lookup k = out.lookup k

variable {m moduleSchemas}

theorem gatherStep_iff {d d' : String} {module : Module} (hd : d ≠ "builtin")
    (hloc : localModule m d = some module) : GatherStep m d d' ↔ d' ∈ module.dependencies := by
  simp [GatherStep, hd, hloc]

theorem collected_cons {d k : String} {ds : List String} :
    Collected m (d :: ds) k ↔ ReflTransGen (GatherStep m) d k ∨ Collected m ds k := by
  simp [Collected]

theorem collected_singleton {d k : String} :
    Collected m [d] k ↔ ReflTransGen (GatherStep m) d k := by
  simp [Collected]

namespace Gathers

variable {out o₁ o₂ : GoMap (Option SchemaModule)}

theorem nil (out : GoMap (Option SchemaModule)) : Gathers m moduleSchemas [] out out where
  enters h := by simp [Collected] at h
  keeps _ := rfl

/-- Entering one dependency, then looping over the rest. -/
theorem cons {d : String} {ds : List String} (h₁ : Gathers m moduleSchemas [d] out o₁)
    (h₂ : Gathers m moduleSchemas ds o₁ o₂) : Gathers m moduleSchemas (d :: ds) out o₂ where
  enters {k} hk := by
    by_cases hds : Collected m ds k
    · exact h₂.enters hds
    · rw [h₂.keeps hds]
      exact h₁.enters ⟨d, List.mem_singleton_self d, (collected_cons.1 hk).resolve_right hds⟩
  keeps {k} hk := by
    rw [collected_cons, not_or] at hk
    rw [h₂.keeps hk.2, h₁.keeps fun ⟨_, hd, h⟩ => hk.1 (List.mem_singleton.1 hd ▸ h)]

/-- A dependency the search does not enter: `builtin`, or a module that
is not local. -/
theorem leaf {d : String} (hstop : ∀ d', ¬ GatherStep m d d') (out : GoMap (Option SchemaModule)) :
    Gathers m moduleSchemas [d] out (out.insert d (moduleSchemas.lookup d)) := by
  have hcol : ∀ k, Collected m [d] k ↔ k = d := fun k => by
    rw [collected_singleton, ReflTransGen.cases_head_iff]
    exact ⟨fun h => (h.resolve_right fun ⟨c, hc, _⟩ => hstop c hc).symm, fun h => .inl h.symm⟩
  exact ⟨fun {k} hk => by rw [(hcol k).1 hk, AList.lookup_insert],
    fun {k} hk => AList.lookup_insert_ne ((hcol k).not.1 hk)⟩

/-- A dependency the search enters, a local module other than `builtin`:
its own dependencies are gathered into the map it was added to. -/
theorem descend {d : String} {module : Module} (hd : d ≠ "builtin")
    (hloc : localModule m d = some module)
    (h : Gathers m moduleSchemas module.dependencies (out.insert d (moduleSchemas.lookup d)) o₁) :
    Gathers m moduleSchemas [d] out o₁ := by
  have hcol : ∀ k, Collected m [d] k ↔ k = d ∨ Collected m module.dependencies k := fun k => by
    rw [collected_singleton, ReflTransGen.cases_head_iff]
    simp only [gatherStep_iff hd hloc, Collected]
    exact or_congr eq_comm Iff.rfl
  refine ⟨fun {k} hk => ?_, fun {k} hk => ?_⟩
  · by_cases hdeps : Collected m module.dependencies k
    · exact h.enters hdeps
    · rw [h.keeps hdeps, ((hcol k).1 hk).resolve_right hdeps, AList.lookup_insert]
  · rw [hcol, not_or] at hk
    rw [h.keeps hk.2, AList.lookup_insert_ne hk.1]

/-- From an empty map, the keys entered are exactly the modules collected. -/
theorem mem_iff {deps : List String} {out : GoMap (Option SchemaModule)} {k : String}
    (h : Gathers m moduleSchemas deps ∅ out) : k ∈ out ↔ Collected m deps k := by
  rw [← AList.lookup_isSome]
  by_cases hk : Collected m deps k
  · simp [h.enters hk, hk]
  · simp [h.keeps hk, hk]

end Gathers

/-- **What `gatherSchemas` enters, when it returns**: the modules
collected from the dependencies of the module's latest version. -/
theorem gatherSchemas_gathers (hm : MetasNamed m) :
    ∀ {fuel : Nat} {module : Module} {out out' : GoMap (Option SchemaModule)},
      gatherSchemas m moduleSchemas fuel module out = some out' →
      Gathers m moduleSchemas ((localModule m module.name).getD module).dependencies out out'
  | 0, _, _, _, h => by simp [gatherSchemas] at h
  | fuel + 1, module, out, out', h => by
    rw [gatherSchemas] at h
    generalize ((localModule m module.name).getD module).dependencies = deps at h ⊢
    induction deps generalizing out with
    | nil => exact Option.some.inj h ▸ .nil out
    | cons d ds ih =>
      obtain ⟨o₁, h₁, h₂⟩ := Option.bind_eq_some.1 ((List.foldlM_cons _ _ _ _).symm.trans h)
      refine .cons ?_ (ih _ h₂)
      dsimp only at h₁
      split_ifs at h₁ with hd
      · cases hloc : localModule m d with
        | none =>
          simp only [hloc, Option.some.injEq] at h₁
          exact h₁ ▸ .leaf (fun _ ⟨_, _, hl, _⟩ => by simp [hloc] at hl) out
        | some dm =>
          simp only [hloc] at h₁
          have := gatherSchemas_gathers hm h₁
          rw [hm _ _ hloc, hloc, Option.getD_some] at this
          exact .descend hd hloc this
      · exact Option.some.inj h₁ ▸ .leaf (fun _ ⟨hb, _⟩ => hb (not_not.1 hd)) out

/-! ## Fuel -/

/-- More fuel, the same result. -/
theorem gatherSchemas_succ : ∀ {fuel : Nat} {module : Module} {out r : GoMap (Option SchemaModule)},
    gatherSchemas m moduleSchemas fuel module out = some r →
      gatherSchemas m moduleSchemas (fuel + 1) module out = some r
  | 0, _, _, _, h => by simp [gatherSchemas] at h
  | fuel + 1, module, out, r, h => by
    rw [gatherSchemas] at h ⊢
    refine foldlM_mono (fun {o d r} h' => ?_) h
    dsimp only at h' ⊢
    split_ifs at h' ⊢
    · cases hloc : localModule m d with
      | none => simpa [hloc] using h'
      | some dm =>
        simp only [hloc] at h' ⊢
        exact gatherSchemas_succ h'
    · exact h'

theorem gatherSchemas_mono {fuel fuel' : Nat} {module : Module} {out r : GoMap (Option SchemaModule)}
    (h : gatherSchemas m moduleSchemas fuel module out = some r) (hle : fuel ≤ fuel') :
    gatherSchemas m moduleSchemas fuel' module out = some r := by
  induction hle with
  | refl => exact h
  | step _ ih => exact gatherSchemas_succ ih

/-! ## Termination -/

theorem mem_keys_of_localModule {a : String} {module : Module} (h : localModule m a = some module) :
    a ∈ m.keys :=
  AList.mem_keys.2 (mem_iff_localModule.2 (by simp [h]))

/-- One level of the recursion returns when every call it makes does. -/
theorem gatherSchemas_succ_isSome {fuel : Nat} {module : Module}
    (h : ∀ d ∈ ((localModule m module.name).getD module).dependencies, d ≠ "builtin" →
      ∀ dm, localModule m d = some dm → ∀ out, (gatherSchemas m moduleSchemas fuel dm out).isSome)
    (out : GoMap (Option SchemaModule)) : (gatherSchemas m moduleSchemas (fuel + 1) module out).isSome := by
  rw [gatherSchemas]
  refine foldlM_isSome (fun o d hd => ?_) out
  dsimp only
  split_ifs with hb
  · cases hloc : localModule m d with
    | none => rfl
    | some dm => exact h d hd hb dm hloc _
  · rfl

/-- The call on the local module `a`, entered at the end of `path`, a
chain of distinct local modules each of which reaches `a`: the fuel left
covers the local modules off the path. -/
theorem gatherSchemas_isSome_of_path (hm : MetasNamed m) (hacyc : ∀ a, ¬ TransGen (GatherStep m) a a) :
    ∀ {fuel : Nat} {a : String} {module : Module} {path : List String},
      a ≠ "builtin" → localModule m a = some module → (a :: path).Nodup →
      (∀ p ∈ path, TransGen (GatherStep m) p a) → m.keys.length ≤ fuel + path.length →
      ∀ out, (gatherSchemas m moduleSchemas fuel module out).isSome
  | 0, a, _, path, _, hloc, hnd, hpath, hlen, _ => by
    have hsub : a :: path ⊆ m.keys := fun p hp => by
      rcases List.mem_cons.1 hp with rfl | hp
      · exact mem_keys_of_localModule hloc
      · obtain ⟨_, ⟨_, _, hl, _⟩, -⟩ := TransGen.head'_iff.1 (hpath p hp)
        exact mem_keys_of_localModule hl
    have := (hnd.subperm hsub).length_le
    simp only [List.length_cons] at this
    omega
  | fuel + 1, a, module, path, ha, hloc, hnd, hpath, hlen, out => by
    refine gatherSchemas_succ_isSome (fun d hd hb dm hdl => ?_) out
    rw [hm _ _ hloc, hloc, Option.getD_some] at hd
    have hstep : GatherStep m a d := ⟨ha, module, hloc, hd⟩
    have hreach : ∀ p ∈ a :: path, TransGen (GatherStep m) p d := fun p hp => by
      rcases List.mem_cons.1 hp with rfl | hp
      · exact .single hstep
      · exact (hpath p hp).tail hstep
    exact gatherSchemas_isSome_of_path hm hacyc hb hdl
      (List.nodup_cons.2 ⟨fun hmem => hacyc d (hreach d hmem), hnd⟩) hreach
      (by simp only [List.length_cons]; omega)

/-- **`gatherSchemas` returns** when no local module reaches itself and
its fuel exceeds the number of local modules, from every module and map. -/
theorem gatherSchemas_isSome (hm : MetasNamed m) (hacyc : ∀ a, ¬ TransGen (GatherStep m) a a)
    {fuel : Nat} (hfuel : m.keys.length < fuel) (module : Module) (out : GoMap (Option SchemaModule)) :
    (gatherSchemas m moduleSchemas fuel module out).isSome := by
  obtain ⟨fuel, rfl⟩ : ∃ f, fuel = f + 1 := ⟨fuel - 1, by omega⟩
  exact gatherSchemas_succ_isSome (fun d _ hb _ hdl =>
    gatherSchemas_isSome_of_path hm hacyc hb hdl (List.nodup_singleton d) (by simp) (by simp; omega)) out

end Gathers

/-! ## On an engine -/

namespace Engine

/-- No module reaches itself through `Graph`'s dependency relation. -/
def Acyclic (e : Engine) : Prop := ∀ n, ¬ TransGen e.DependsOn n n

variable {e : Engine}

theorem dependsOn_of_gatherStep {a d : String} (h : GatherStep e.moduleMetas a d) : e.DependsOn a d :=
  let ⟨_, module, hloc, hd⟩ := h
  ⟨module.dependencies, resolve_of_localModule hloc, hd⟩

/-- Every module `gatherSchemas` enters for a local module is a
transitive dependency of it, as `Graph` resolves them. -/
theorem dependsOn_of_collected {name k : String} {module : Module}
    (hloc : localModule e.moduleMetas name = some module)
    (h : Collected e.moduleMetas module.dependencies k) : TransGen e.DependsOn name k :=
  let ⟨_, hd, hdk⟩ := h
  TransGen.head' ⟨_, resolve_of_localModule hloc, hd⟩ (hdk.mono fun _ _ => dependsOn_of_gatherStep)

/-- **`gatherSchemas` on an acyclic engine**: from every module, and with
every map of built schemas, it has one result for every fuel above the
number of local modules, and that result holds exactly the modules
collected from the dependencies of the module's latest version, each
with its schema. -/
theorem gatherSchemas_spec (hacyc : e.Acyclic) (moduleSchemas : GoMap SchemaModule) (module : Module) :
    ∃ out, (∀ fuel, e.moduleMetas.keys.length < fuel →
        gatherSchemas e.moduleMetas moduleSchemas fuel module ∅ = some out) ∧
      Gathers e.moduleMetas moduleSchemas
        ((localModule e.moduleMetas module.name).getD module).dependencies ∅ out := by
  have hacyc' : ∀ a, ¬ TransGen (GatherStep e.moduleMetas) a a :=
    fun a h => hacyc a (h.mono fun _ _ => dependsOn_of_gatherStep)
  have hsome : (gatherSchemas e.moduleMetas moduleSchemas (e.moduleMetas.keys.length + 1) module ∅).isSome :=
    gatherSchemas_isSome e.metasNamed hacyc' (Nat.lt_succ_self _) module ∅
  obtain ⟨out, hout⟩ := Option.isSome_iff_exists.1 hsome
  exact ⟨out, fun _ hfuel => gatherSchemas_mono hout hfuel, gatherSchemas_gathers e.metasNamed hout⟩

/-- A rank that drops along every dependency rules out cycles. -/
theorem acyclic_of_rank (rank : String → Nat)
    (h : ∀ a ∈ e.knownNames, ∀ d ∈ (e.resolve a).getD [], rank d < rank a) : e.Acyclic := by
  have hstep : ∀ {a d}, e.DependsOn a d → rank d < rank a := fun ⟨_, hres, hd⟩ =>
    h _ (mem_knownNames hres) _ (by simpa [hres] using hd)
  intro n hn
  have hlt : ∀ {a b}, TransGen e.DependsOn a b → rank b < rank a := fun hab => by
    induction hab with
    | single h => exact hstep h
    | tail _ h ih => exact (hstep h).trans ih
  exact lt_irrefl _ (hlt hn)

/-! ## A remote module between two others -/

/-- A local module `a` importing `r`, a module known only from the
controller, which imports `x`. -/
def remoteChain : Engine :=
  .ofModules [⟨"a", ["r"]⟩] [⟨"r", ["x"], "module r"⟩, ⟨"x", [], "module x"⟩]

/-- The combined schema for `a` misses `x`, a transitive dependency of
`a` in `Graph`'s acyclic relation, though `builtModules` holds its schema:
`gatherSchemas` enters `r` and does not follow it. -/
theorem gatherSchemas_skips_remote_imports :
    remoteChain.Acyclic ∧ TransGen remoteChain.DependsOn "a" "x" ∧
      ∀ fuel, remoteChain.moduleMetas.keys.length < fuel →
        (gatherSchemas remoteChain.moduleMetas remoteChain.controllerSchema fuel ⟨"a", ["r"]⟩ ∅).map
          AList.keys = some ["r"] := by
  refine ⟨acyclic_of_rank (fun n => if n = "a" then 2 else if n = "r" then 1 else 0) (by decide),
    .head ⟨["r"], rfl, List.mem_singleton_self _⟩ (.single ⟨["x"], rfl, List.mem_singleton_self _⟩),
    fun fuel hfuel => ?_⟩
  have h2 : (gatherSchemas remoteChain.moduleMetas remoteChain.controllerSchema 2 ⟨"a", ["r"]⟩ ∅).map
      AList.keys = some ["r"] := by decide
  obtain ⟨out, hout, hkeys⟩ := Option.map_eq_some'.1 h2
  have hle : 2 ≤ fuel := by
    have : remoteChain.moduleMetas.keys.length = 1 := rfl
    omega
  rw [gatherSchemas_mono hout hle, Option.map_some', hkeys]

/-- **The combined schema of a local module, on an acyclic engine.**
`gatherSchemas` returns one map for every fuel above the number of local
modules; its keys are exactly the modules collected from the module's
dependencies, each entered with its schema in `builtModules` (`nil` if
it has none), and each is a transitive dependency of the module as
`Graph` resolves them. -/
theorem gatherSchemas_collects (hacyc : e.Acyclic) (moduleSchemas : GoMap SchemaModule) {name : String}
    {module : Module} (hloc : localModule e.moduleMetas name = some module) :
    ∃ out, (∀ fuel, e.moduleMetas.keys.length < fuel →
        gatherSchemas e.moduleMetas moduleSchemas fuel module ∅ = some out) ∧
      (∀ k, k ∈ out ↔ Collected e.moduleMetas module.dependencies k) ∧
      (∀ k, Collected e.moduleMetas module.dependencies k → out.lookup k = some (moduleSchemas.lookup k)) ∧
      ∀ k ∈ out, TransGen e.DependsOn name k := by
  obtain ⟨out, hfuel, hgathers⟩ := gatherSchemas_spec hacyc moduleSchemas module
  have hself : (localModule e.moduleMetas module.name).getD module = module := by
    rw [e.metasNamed name module hloc, hloc, Option.getD_some]
  rw [hself] at hgathers
  exact ⟨out, hfuel, fun _ => hgathers.mem_iff, fun _ hk => hgathers.enters hk,
    fun _ hk => dependsOn_of_collected hloc (hgathers.mem_iff.1 hk)⟩

/-- On `remoteChain`, the combined schema for `a` holds `r`, the one
module collected from `a`'s dependencies. -/
theorem remoteChain_collects_r :
    remoteChain.Acyclic ∧ localModule remoteChain.moduleMetas "a" = some ⟨"a", ["r"]⟩ ∧
      ∃ out, (∀ fuel, remoteChain.moduleMetas.keys.length < fuel →
          gatherSchemas remoteChain.moduleMetas remoteChain.controllerSchema fuel ⟨"a", ["r"]⟩ ∅ = some out) ∧
        (∀ k, k ∈ out ↔ Collected remoteChain.moduleMetas ["r"] k) ∧
        (∀ k, Collected remoteChain.moduleMetas ["r"] k →
          out.lookup k = some (remoteChain.controllerSchema.lookup k)) ∧
        ∀ k ∈ out, TransGen remoteChain.DependsOn "a" k :=
  have hacyc : remoteChain.Acyclic :=
    acyclic_of_rank (fun n => if n = "a" then 2 else if n = "r" then 1 else 0) (by decide)
  have hloc : localModule remoteChain.moduleMetas "a" = some ⟨"a", ["r"]⟩ := rfl
  ⟨hacyc, hloc, gatherSchemas_collects hacyc remoteChain.controllerSchema hloc⟩

end Engine

end BuildEngine

end Ftl
