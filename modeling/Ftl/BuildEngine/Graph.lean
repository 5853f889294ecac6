import Mathlib.Logic.Relation
import Ftl.BuildEngine.Model
/-!
# The build engine — `Graph`

`buildGraph` is a depth-first search memoised in the map it fills: a
module already in `out` is skipped, and any other is entered in `out`
before its dependencies are visited, so cycles end the search rather than
loop it. `Graph` runs it from every requested name, or from every local
module when none is named.

`graph_spec` is what it computes, for every pair of maps and every list
of names, cycles included: an error exactly when some module reachable
from the names resolves in neither map, and otherwise the map from every
reachable module, and no other, to what it resolves to. The invariant is
`Explored`, what one call adds to `out`; `buildGraph_ne_none` is the
termination argument, on the number of known names not yet in `out`.
-/


namespace Ftl

namespace BuildEngine

namespace Engine

variable (e : Engine)

/-- What `buildGraph` reads for a module: the dependencies of the local
module of that name, or else the imports of the controller's schema. -/
def resolve (moduleName : String) : Option (List String) :=
  match e.moduleMetas.lookup moduleName with
  | some meta => some meta.module.dependencies
  | none => (e.controllerSchema.lookup moduleName).map (·.imports)

/-- `buildGraph`: enters the module's dependencies in `out` and visits
each of them, skipping modules already there. The recursion runs on
`fuel` and gives up (`Call.diverge`) when it is out; `graph` gives it
enough (`buildGraph_ne_none`). -/
def buildGraph : Nat → String → Graph → Call Graph
  | 0, _, _ => Call.diverge
  | fuel + 1, moduleName, out =>
    if moduleName ∈ out then pure out
    else
      match e.resolve moduleName with
      | none => throw (notFound moduleName)
      | some deps => deps.foldlM (fun out dep => buildGraph fuel dep out) (out.insert moduleName deps)

/-- The names either map knows, repeated where both know one. -/
def knownNames : List String := e.moduleMetas.keys ++ e.controllerSchema.keys

/-- The names `Graph` starts from: those requested, or every local module. -/
def graphRoots (moduleNames : List String) : List String :=
  if moduleNames = [] then e.modules else moduleNames

/-- `Graph`: the dependency graph of the requested modules. -/
def graph (moduleNames : List String) : Call Graph :=
  (e.graphRoots moduleNames).foldlM (fun out name => e.buildGraph (e.knownNames.length + 1) name out) ∅

/-- `a` depends on `b`, as `buildGraph` resolves `a`. -/
def DependsOn (a b : String) : Prop := ∃ deps, e.resolve a = some deps ∧ b ∈ deps

/-- `n` is reachable from one of `roots` through `DependsOn`. -/
def Reachable (roots : List String) (n : String) : Prop :=
  ∃ r ∈ roots, Relation.ReflTransGen e.DependsOn r n

variable {e}

theorem reachable_of_mem {roots : List String} {r : String} (h : r ∈ roots) : e.Reachable roots r :=
  ⟨r, h, .refl⟩

theorem Reachable.mono {roots roots' : List String} {n : String} (h : e.Reachable roots n)
    (hsub : roots ⊆ roots') : e.Reachable roots' n :=
  let ⟨r, hr, hrn⟩ := h
  ⟨r, hsub hr, hrn⟩

/-- Reachable from a module's dependencies is reachable from the module. -/
theorem Reachable.of_resolve {name : String} {deps : List String} {n : String}
    (hres : e.resolve name = some deps) (h : e.Reachable deps n) : e.Reachable [name] n :=
  let ⟨_, hr, hrn⟩ := h
  ⟨name, List.mem_singleton_self _, .head ⟨deps, hres, hr⟩ hrn⟩

/-! ## What one call explores -/

/-- What `buildGraph` returning `out'` from `out`, on each of `roots` in
turn, has done: it kept `out` and entered every root, and every entry it
added maps a module reachable from the roots to what that module resolves
to, and names only modules it entered too. -/
structure Explored (roots : List String) (out out' : Graph) : Prop where
  keeps : ∀ {k v}, out.lookup k = some v → out'.lookup k = some v
  visits : ∀ r ∈ roots, r ∈ out'
  sound : ∀ {k v}, out'.lookup k = some v → out.lookup k = none →
    e.resolve k = some v ∧ e.Reachable roots k
  closed : ∀ {k v d}, out'.lookup k = some v → out.lookup k = none → d ∈ v → d ∈ out'

theorem mem_of_lookup {V : Type} {m : GoMap V} {k : String} {v : V} (h : m.lookup k = some v) :
    k ∈ m :=
  AList.lookup_isSome.1 (by simp [h])

theorem Explored.mem {roots : List String} {out out' : Graph} (h : e.Explored roots out out')
    {k : String} (hk : k ∈ out) : k ∈ out' := by
  obtain ⟨v, hv⟩ := Option.isSome_iff_exists.1 (AList.lookup_isSome.2 hk)
  exact mem_of_lookup (h.keeps hv)

theorem Explored.nil (out : Graph) : e.Explored [] out out where
  keeps h := h
  visits _ h := absurd h (List.not_mem_nil _)
  sound h h' := by simp [h] at h'
  closed h h' := by simp [h] at h'

/-- A call on a module already entered returns `out` as it is. -/
theorem Explored.of_mem {name : String} {out : Graph} (h : name ∈ out) : e.Explored [name] out out where
  keeps h := h
  visits _ hr := List.mem_singleton.1 hr ▸ h
  sound h h' := by simp [h] at h'
  closed h h' := by simp [h] at h'

/-- Visiting one root, then the rest, explores them all. -/
theorem Explored.cons {d : String} {ds : List String} {o o₁ o₂ : Graph}
    (h₁ : e.Explored [d] o o₁) (h₂ : e.Explored ds o₁ o₂) : e.Explored (d :: ds) o o₂ where
  keeps h := h₂.keeps (h₁.keeps h)
  visits r hr := by
    rcases List.mem_cons.1 hr with rfl | hr
    · exact h₂.mem (h₁.visits r (List.mem_singleton_self _))
    · exact h₂.visits r hr
  sound {k v} hk hko := by
    cases hk₁ : o₁.lookup k with
    | none =>
      obtain ⟨hres, hreach⟩ := h₂.sound hk hk₁
      exact ⟨hres, hreach.mono (List.subset_cons_self _ _)⟩
    | some v₁ =>
      obtain ⟨hres, hreach⟩ := h₁.sound hk₁ hko
      have : v₁ = v := Option.some.inj ((h₂.keeps hk₁).symm.trans hk)
      exact ⟨this ▸ hres, hreach.mono (List.cons_subset.2 ⟨List.mem_cons_self _ _, List.nil_subset _⟩)⟩
  closed {k v d'} hk hko hd := by
    cases hk₁ : o₁.lookup k with
    | none => exact h₂.closed hk hk₁ hd
    | some v₁ =>
      have : v₁ = v := Option.some.inj ((h₂.keeps hk₁).symm.trans hk)
      exact h₂.mem (h₁.closed hk₁ hko (this ▸ hd))

/-- Entering a module, then visiting its dependencies, explores it. -/
theorem Explored.enter {name : String} {deps : List String} {out out' : Graph}
    (hnot : name ∉ out) (hres : e.resolve name = some deps)
    (h : e.Explored deps (out.insert name deps) out') : e.Explored [name] out out' := by
  have hins : (out.insert name deps).lookup name = some deps := AList.lookup_insert _
  have hnone : out.lookup name = none := AList.lookup_eq_none.2 hnot
  refine ⟨fun {k v} hk => h.keeps ?_, fun r hr => ?_, fun {k v} hk hko => ?_, fun {k v d} hk hko hd => ?_⟩
  · rwa [AList.lookup_insert_ne (by rintro rfl; simp [hnone] at hk)]
  · rw [List.mem_singleton.1 hr]
    exact mem_of_lookup (h.keeps hins)
  · by_cases hkn : k = name
    · subst hkn
      have : deps = v := Option.some.inj ((h.keeps hins).symm.trans hk)
      exact ⟨this ▸ hres, reachable_of_mem (List.mem_singleton_self _)⟩
    · have hk' : (out.insert name deps).lookup k = none := by
        rwa [AList.lookup_insert_ne hkn]
      obtain ⟨hres', hreach⟩ := h.sound hk hk'
      exact ⟨hres', hreach.of_resolve hres⟩
  · by_cases hkn : k = name
    · subst hkn
      have : deps = v := Option.some.inj ((h.keeps hins).symm.trans hk)
      exact h.visits d (this ▸ hd)
    · exact h.closed hk (by rwa [AList.lookup_insert_ne hkn]) hd

/-- A loop that calls an exploring body on each root explores them all. -/
theorem explored_foldlM {f : Graph → String → Call Graph}
    (hf : ∀ {d o o'}, (f o d).run = some (.ok o') → e.Explored [d] o o') :
    ∀ {ds : List String} {o o' : Graph}, (ds.foldlM f o).run = some (.ok o') → e.Explored ds o o'
  | [], o, o', h => by
    simp only [List.foldlM_nil, ExceptT.run_pure, Option.pure_def, Option.some.injEq,
      Except.ok.injEq] at h
    exact h ▸ Explored.nil o
  | _ :: _, _, _, h => by
    obtain ⟨o₁, h₁, h₂⟩ := Call.foldlM_cons_ok.1 h
    exact (hf h₁).cons (explored_foldlM hf h₂)

/-- **What `buildGraph` adds when it returns.** -/
theorem buildGraph_explored {fuel : Nat} {name : String} {out out' : Graph}
    (h : (e.buildGraph fuel name out).run = some (.ok out')) : e.Explored [name] out out' := by
  induction fuel generalizing name out out' with
  | zero => simp [buildGraph, Call.diverge] at h
  | succ fuel ih =>
    rw [buildGraph] at h
    split_ifs at h with hmem
    · simp only [ExceptT.run_pure, Option.pure_def, Option.some.injEq, Except.ok.injEq] at h
      exact h ▸ Explored.of_mem hmem
    · split at h
      · simp at h
      · rename_i deps hres
        exact Explored.enter hmem hres (explored_foldlM ih h)

/-! ## Errors -/

/-- `err` names a module reachable from `roots` that resolves in neither map. -/
def Unresolved (roots : List String) (err : Error) : Prop :=
  ∃ n, e.Reachable roots n ∧ e.resolve n = none ∧ err = notFound n

theorem Unresolved.mono {roots roots' : List String} {err : Error} (h : e.Unresolved roots err)
    (hsub : roots ⊆ roots') : e.Unresolved roots' err :=
  let ⟨n, hn, hres, herr⟩ := h
  ⟨n, hn.mono hsub, hres, herr⟩

theorem unresolved_foldlM {f : Graph → String → Call Graph}
    (hf : ∀ {d o err}, (f o d).run = some (.error err) → e.Unresolved [d] err) :
    ∀ {ds : List String} {o : Graph} {err : Error},
      (ds.foldlM f o).run = some (.error err) → e.Unresolved ds err
  | [], _, _, h => by simp at h
  | _ :: _, _, _, h => by
    rcases Call.foldlM_cons_error.1 h with h | ⟨_, _, h⟩
    · exact (hf h).mono (List.cons_subset.2 ⟨List.mem_cons_self _ _, List.nil_subset _⟩)
    · exact (unresolved_foldlM hf h).mono (List.subset_cons_self _ _)

/-- **An error of `buildGraph` names an unresolved module reachable from
the one it was called on.** -/
theorem buildGraph_error {fuel : Nat} {name : String} {out : Graph} {err : Error}
    (h : (e.buildGraph fuel name out).run = some (.error err)) : e.Unresolved [name] err := by
  induction fuel generalizing name out err with
  | zero => simp [buildGraph, Call.diverge] at h
  | succ fuel ih =>
    rw [buildGraph] at h
    split_ifs at h with hmem
    · simp at h
    · split at h
      · rename_i hres
        simp only [ExceptT.run_throw, Option.pure_def, Option.some.injEq, Except.error.injEq] at h
        exact ⟨name, reachable_of_mem (List.mem_singleton_self _), hres, h.symm⟩
      · rename_i deps hres
        obtain ⟨n, hn, hnres, rfl⟩ := unresolved_foldlM ih h
        exact ⟨n, hn.of_resolve hres, hnres, rfl⟩

/-! ## Termination -/

/-- The known names not yet entered in `out`, counted with repetition. -/
def unexplored (out : Graph) : Nat := e.knownNames.countP fun k => k ∉ out

theorem mem_knownNames {name : String} {deps : List String} (h : e.resolve name = some deps) :
    name ∈ e.knownNames := by
  simp only [resolve] at h
  simp only [knownNames, List.mem_append, ← AList.mem_keys]
  split at h
  · rename_i hmeta
    exact .inl (mem_of_lookup hmeta)
  · obtain ⟨sch, hsch, -⟩ := Option.map_eq_some'.1 h
    exact .inr (AList.lookup_isSome.1 (by simp [hsch]))

theorem unexplored_le {out out' : Graph} (h : ∀ k ∈ out, k ∈ out') :
    e.unexplored out' ≤ e.unexplored out :=
  List.countP_mono_left fun k _ hk => by
    simp only [decide_eq_true_eq] at hk ⊢
    exact fun hk' => hk (h k hk')

private theorem countP_lt_of_mem {l : List String} {p q : String → Bool}
    (h : ∀ x ∈ l, p x → q x) {a : String} (ha : a ∈ l) (hp : p a = false) (hq : q a) :
    l.countP p < l.countP q := by
  induction l with
  | nil => cases ha
  | cons b l ih =>
    have hl : ∀ x ∈ l, p x → q x := fun x hx => h x (List.mem_cons_of_mem _ hx)
    have hle := List.countP_mono_left hl
    rw [List.countP_cons, List.countP_cons]
    rcases List.mem_cons.1 ha with rfl | ha
    · simp [hp, hq]
      omega
    · have := ih hl ha
      have := h b (List.mem_cons_self _ _)
      split_ifs <;> simp_all
      omega

theorem unexplored_insert_lt {out : Graph} {name : String} (deps : List String)
    (hnot : name ∉ out) (hk : name ∈ e.knownNames) :
    e.unexplored (out.insert name deps) < e.unexplored out :=
  countP_lt_of_mem (fun x _ hx => by simp_all) hk (by simp) (by simpa using hnot)

/-- **`buildGraph` returns** when its fuel exceeds the number of known
names it has not entered: each nested call has entered one more. -/
theorem buildGraph_ne_none {fuel : Nat} {name : String} {out : Graph}
    (h : e.unexplored out < fuel) : (e.buildGraph fuel name out).run ≠ none := by
  induction fuel generalizing name out with
  | zero => omega
  | succ fuel ih =>
    rw [buildGraph]
    split_ifs with hmem
    · simp
    · split
      · simp
      · rename_i deps hres
        have hlt := e.unexplored_insert_lt deps hmem (e.mem_knownNames hres)
        refine Call.foldlM_ne_none (P := fun o => e.unexplored o < fuel) ih
          (fun hb h' => ?_) (by omega)
        exact lt_of_le_of_lt (e.unexplored_le fun _ => (buildGraph_explored h').mem) hb

theorem graph_ne_none (moduleNames : List String) : (e.graph moduleNames).run ≠ none :=
  Call.foldlM_ne_none (P := fun o => e.unexplored o < e.knownNames.length + 1)
    (fun hb => e.buildGraph_ne_none hb)
    (fun hb h => lt_of_le_of_lt (e.unexplored_le fun _ => (buildGraph_explored h).mem) hb)
    (Nat.lt_succ_of_le (List.countP_le_length _))

/-- One more unit of fuel changes nothing once `buildGraph` returns. -/
theorem buildGraph_succ {fuel : Nat} {name : String} {out : Graph} {r : Except Error Graph}
    (h : (e.buildGraph fuel name out).run = some r) :
    (e.buildGraph (fuel + 1) name out).run = some r := by
  induction fuel generalizing name out r with
  | zero => simp [buildGraph, Call.diverge] at h
  | succ fuel ih =>
    rw [buildGraph] at h ⊢
    split_ifs at h ⊢ with hmem
    · exact h
    · cases hres : e.resolve name with
      | none => simpa [hres] using h
      | some deps =>
        simp only [hres] at h ⊢
        exact Call.foldlM_mono ih h

theorem buildGraph_mono {fuel fuel' : Nat} {name : String} {out : Graph} {r : Except Error Graph}
    (h : (e.buildGraph fuel name out).run = some r) (hle : fuel ≤ fuel') :
    (e.buildGraph fuel' name out).run = some r := by
  induction hle with
  | refl => exact h
  | step _ ih => exact buildGraph_succ ih

/-- **`buildGraph` terminates**, for every pair of maps, whatever their
dependencies (cycles and self-dependencies included), and from every map
it is handed: it has one result, the same for every fuel above the number
of known names. It fails only on a reachable module that resolves in
neither map, never on a cycle, which is left to `TopologicalSort`. -/
theorem buildGraph_terminates (name : String) (out : Graph) :
    ∃ r, (∀ fuel, e.knownNames.length < fuel → (e.buildGraph fuel name out).run = some r) ∧
      ∀ err, r = .error err → e.Unresolved [name] err := by
  have hne : (e.buildGraph (e.knownNames.length + 1) name out).run ≠ none :=
    buildGraph_ne_none (Nat.lt_succ_of_le (List.countP_le_length _))
  obtain ⟨r, hr⟩ := Option.ne_none_iff_exists'.1 hne
  exact ⟨r, fun _ hfuel => buildGraph_mono hr hfuel, fun _ herr => buildGraph_error (herr ▸ hr)⟩

/-- A module that depends on itself: the search enters it once and returns. -/
example : ((ofModules [⟨"a", ["a"]⟩] []).buildGraph 2 "a" ∅).run.isSome := by decide

/-! ## What `Graph` returns -/

theorem graph_explored {moduleNames : List String} {out : Graph}
    (h : (e.graph moduleNames).run = some (.ok out)) : e.Explored (e.graphRoots moduleNames) ∅ out :=
  explored_foldlM buildGraph_explored h

theorem graph_error {moduleNames : List String} {err : Error}
    (h : (e.graph moduleNames).run = some (.error err)) : e.Unresolved (e.graphRoots moduleNames) err :=
  unresolved_foldlM buildGraph_error h

/-- Explored from the empty map, the result holds everything reachable. -/
theorem Explored.mem_of_reachable {roots : List String} {out : Graph}
    (h : e.Explored roots ∅ out) {n : String} (hn : e.Reachable roots n) : n ∈ out := by
  obtain ⟨r, hr, hrn⟩ := hn
  induction hrn with
  | refl => exact h.visits r hr
  | tail _ hstep ih =>
    obtain ⟨deps, hres, hd⟩ := hstep
    obtain ⟨v, hv⟩ := Option.isSome_iff_exists.1 (AList.lookup_isSome.2 ih)
    have hvd : v = deps := Option.some.inj (((h.sound hv (by simp)).1).symm.trans hres)
    exact h.closed hv (by simp) (hvd ▸ hd)

theorem Explored.resolve_of_mem {roots : List String} {out : Graph}
    (h : e.Explored roots ∅ out) {n : String} (hn : n ∈ out) :
    out.lookup n = e.resolve n ∧ e.Reachable roots n := by
  obtain ⟨v, hv⟩ := Option.isSome_iff_exists.1 (AList.lookup_isSome.2 hn)
  obtain ⟨hres, hreach⟩ := h.sound hv (by simp)
  exact ⟨hv.trans hres.symm, hreach⟩

/-- When `Graph` returns a map, its keys are the modules reachable from its
roots, each mapped to what it resolves to. -/
theorem graph_ok {moduleNames : List String} {out : Graph}
    (h : (e.graph moduleNames).run = some (.ok out)) :
    (∀ n, n ∈ out ↔ e.Reachable (e.graphRoots moduleNames) n) ∧
      ∀ n ∈ out, out.lookup n = e.resolve n :=
  have hx := e.graph_explored h
  ⟨fun _ => ⟨fun h => (hx.resolve_of_mem h).2, hx.mem_of_reachable⟩,
    fun _ hn => (hx.resolve_of_mem hn).1⟩

/-- **What `Graph` computes**, for every pair of maps (cycles, diamonds
and names both maps know included) and every list of names: it returns;
it fails exactly when some module reachable from its roots resolves in
neither map; and otherwise its keys are exactly the modules reachable
from the roots, each mapped to what it resolves to. The roots are the
names given, or every local module when none is. -/
theorem graph_spec (moduleNames : List String) :
    ∃ r, (e.graph moduleNames).run = some r ∧
      ((∃ err, r = .error err) ↔
        ∃ n, e.Reachable (e.graphRoots moduleNames) n ∧ e.resolve n = none) ∧
      ∀ out, r = .ok out →
        (∀ n, n ∈ out ↔ e.Reachable (e.graphRoots moduleNames) n) ∧
          ∀ n ∈ out, out.lookup n = e.resolve n := by
  obtain ⟨r, hr⟩ := Option.ne_none_iff_exists'.1 (e.graph_ne_none moduleNames)
  refine ⟨r, hr, ?_, ?_⟩
  · cases r with
    | error err =>
      obtain ⟨n, hn, hres, -⟩ := e.graph_error hr
      exact ⟨fun _ => ⟨n, hn, hres⟩, fun _ => ⟨err, rfl⟩⟩
    | ok out =>
      have hx := e.graph_explored hr
      refine ⟨(fun ⟨_, h⟩ => by cases h), fun ⟨n, hn, hres⟩ => ?_⟩
      have hmem := hx.mem_of_reachable hn
      exact absurd hmem (AList.lookup_eq_none.1 ((hx.resolve_of_mem hmem).1.trans hres))
  · rintro out rfl
    exact e.graph_ok hr

/-- With no name given, `Graph` returns every local module, although
nothing is reachable from the empty list of names. -/
theorem graph_nil_returns_local_modules :
    ∃ out, ((ofModules [⟨"a", []⟩] []).graph []).run = some (.ok out) ∧ "a" ∈ out ∧
      ¬ (ofModules [⟨"a", []⟩] []).Reachable [] "a" :=
  ⟨_, rfl, by decide, fun ⟨_, hr, _⟩ => by cases hr⟩

end Engine

end BuildEngine

end Ftl
