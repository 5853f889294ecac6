import Mathlib.Data.List.Perm.Basic
/-!
# Go — error values, calls that may not return, and `errgroup`

The three pieces of the Go runtime the engine's contracts are stated in.
An `Error` is the tree `fmt.Errorf("…: %w")` and `errors.Join` build, and
`Error.Is` is `errors.Is` over it. A `Call` returns a value or an error, or
never returns: the engine's recursions run on fuel, and running out of it
stands for a call that does not come back. `firstError` is what
`errgroup.Group.Wait` returns, and `firstError_perm_iff` says which errors
it can return once the goroutines may finish in any order.
-/


namespace Ftl

/-- A Go `error`, as the code of this repository builds them. -/
inductive Error where
  /-- A leaf: a sentinel of `errors.New`, or `fmt.Errorf` without `%w`. -/
  | new (text : String)
  /-- `fmt.Errorf("<text>: %w", inner)`. -/
  | wrap (text : String) (inner : Error)
  /-- `errors.Join(errs...)`. -/
  | join (errs : List Error)
  /-- A `*pgconn.PgError` from the driver: its SQLSTATE, constraint, table and message. -/
  | pg (code constraintName tableName message : String)
deriving Repr, Inhabited

namespace Error

/-- `errors.Is(err, target)`: `target` is `err`, or sits in the tree of
errors it wraps and joins. -/
inductive Is : Error → Error → Prop
  | refl (e : Error) : Is e e
  | wrap {text : String} {inner target : Error} : Is inner target → Is (.wrap text inner) target
  | join {errs : List Error} {e target : Error} : e ∈ errs → Is e target → Is (.join errs) target

/-- A joined error wraps each of its parts. -/
theorem Is.of_mem_join {errs : List Error} {e : Error} (h : e ∈ errs) : Is (.join errs) e :=
  .join h (.refl e)

/-- A leaf wraps nothing but itself. -/
theorem Is.eq_of_new {text : String} {target : Error} (h : Is (.new text) target) :
    target = .new text := by
  cases h
  rfl

theorem Is.cases_wrap {text : String} {inner target : Error} (h : Is (.wrap text inner) target) :
    target = .wrap text inner ∨ Is inner target := by
  cases h with
  | refl => exact .inl rfl
  | wrap h => exact .inr h

@[simp] theorem Is.new_iff {text : String} {target : Error} : Is (.new text) target ↔ target = .new text :=
  ⟨Is.eq_of_new, fun h => h ▸ .refl _⟩

@[simp] theorem Is.wrap_iff {text : String} {inner target : Error} :
    Is (.wrap text inner) target ↔ target = .wrap text inner ∨ Is inner target :=
  ⟨Is.cases_wrap, fun h => h.elim (fun h => h ▸ .refl _) .wrap⟩

theorem Is.cases_join {errs : List Error} {target : Error} (h : Is (.join errs) target) :
    target = .join errs ∨ ∃ e ∈ errs, Is e target := by
  cases h with
  | refl => exact .inl rfl
  | join he h => exact .inr ⟨_, he, h⟩

/-- Whether the sentinel `errors.New(text)` is in the tree of an error:
`errors.Is` against a sentinel, computed. -/
def hasLeaf (text : String) : Error → Bool
  | .new t => t == text
  | .wrap _ inner => inner.hasLeaf text
  | .join errs => anyHasLeaf text errs
  | .pg .. => false
where
  /-- Some part of a join has the sentinel. -/
  anyHasLeaf (text : String) : List Error → Bool
    | [] => false
    | e :: es => e.hasLeaf text || anyHasLeaf text es

mutual

theorem hasLeaf_iff (text : String) : (err : Error) → (err.hasLeaf text = true ↔ Is err (.new text))
  | .new t => by
    simp only [hasLeaf, beq_iff_eq]
    exact ⟨fun h => h ▸ .refl _, fun h => (Error.new.inj h.eq_of_new).symm⟩
  | .wrap t inner => by
    rw [hasLeaf, hasLeaf_iff text inner]
    exact ⟨.wrap, fun h => h.cases_wrap.resolve_left Error.noConfusion⟩
  | .join errs => by
    rw [hasLeaf, anyHasLeaf_iff text errs]
    exact ⟨fun ⟨e, he, h⟩ => .join he h, fun h => h.cases_join.resolve_left Error.noConfusion⟩
  | .pg .. => by
    simp only [hasLeaf, Bool.false_eq_true, false_iff]
    intro h
    cases h

theorem anyHasLeaf_iff (text : String) : (errs : List Error) →
    (hasLeaf.anyHasLeaf text errs = true ↔ ∃ e ∈ errs, Is e (.new text))
  | [] => by simp [hasLeaf.anyHasLeaf]
  | e :: es => by
    rw [hasLeaf.anyHasLeaf, Bool.or_eq_true, hasLeaf_iff text e, anyHasLeaf_iff text es]
    simp

end

/-- `errors.Is` against a sentinel decides. -/
instance (err : Error) (text : String) : Decidable (Is err (.new text)) :=
  decidable_of_iff _ (hasLeaf_iff text err)

example : Is (.wrap "x" (.join [.new "a", .new "b"])) (.new "b") := by decide

end Error

/-- `fmt.Errorf("module %q not found", name)`, the engine's error for a
name it cannot resolve. -/
def notFound (name : String) : Error :=
  .new ("module " ++ name.quote ++ " not found")

/-! ## Functions that return an error

A function that returns a value or an error, a Go function's `(T, error)`
or a Kotlin function that throws, is a function into `Except`; these lemmas
take its `do` blocks apart. -/

/-- The first step succeeds, then the rest does. -/
theorem except_bind_eq_ok {ε β γ : Type} {x : Except ε β} {f : β → Except ε γ} {c : γ} :
    x >>= f = .ok c ↔ ∃ b, x = .ok b ∧ f b = .ok c := by
  cases x <;> simp [bind, Except.bind]

theorem except_map_eq_ok {ε β γ : Type} {x : Except ε β} {f : β → γ} {c : γ} :
    f <$> x = .ok c ↔ ∃ b, x = .ok b ∧ f b = c := by
  cases x <;> simp [Functor.map, Except.map]

theorem except_bind_eq_error {ε β γ : Type} {x : Except ε β} {f : β → Except ε γ} {e : ε} :
    x >>= f = .error e ↔ x = .error e ∨ ∃ b, x = .ok b ∧ f b = .error e := by
  cases x <;> simp [bind, Except.bind]

@[simp] theorem except_pure_eq_ok {ε β : Type} {b b' : β} :
    (pure b : Except ε β) = .ok b' ↔ b = b' := by
  simp [pure, Except.pure]

/-- What a loop over a list that succeeds returns: a result of each element. -/
theorem mem_of_mapM_eq_ok {ε β γ : Type} {f : β → Except ε γ} :
    ∀ {l : List β} {r : List γ}, l.mapM f = .ok r → ∀ c ∈ r, ∃ b ∈ l, f b = .ok c
  | [], r, h, c, hc => by cases h; cases hc
  | b :: l, r, h, c, hc => by
    simp only [List.mapM_cons, except_bind_eq_ok, except_pure_eq_ok] at h
    obtain ⟨c', hb, r', hl, rfl⟩ := h
    rcases List.mem_cons.1 hc with rfl | hc
    · exact ⟨b, List.mem_cons_self _ _, hb⟩
    · obtain ⟨b', hb', hf⟩ := mem_of_mapM_eq_ok hl c hc
      exact ⟨b', List.mem_cons_of_mem _ hb', hf⟩

/-- A loop over a list that succeeds has a result for each element. -/
theorem exists_of_mapM_eq_ok {ε β γ : Type} {f : β → Except ε γ} :
    ∀ {l : List β} {r : List γ}, l.mapM f = .ok r → ∀ b ∈ l, ∃ c ∈ r, f b = .ok c
  | [], _, _, b, hb => by cases hb
  | b :: l, r, h, b', hb' => by
    simp only [List.mapM_cons, except_bind_eq_ok, except_pure_eq_ok] at h
    obtain ⟨c, hb, r', hl, rfl⟩ := h
    rcases List.mem_cons.1 hb' with rfl | hb'
    · exact ⟨c, List.mem_cons_self _ _, hb⟩
    · obtain ⟨c', hc', hf⟩ := exists_of_mapM_eq_ok hl b' hb'
      exact ⟨c', List.mem_cons_of_mem _ hc', hf⟩

/-- A loop over a list that succeeds keeps what each step keeps. -/
theorem map_of_mapM_eq_ok {ε β γ δ : Type} {f : β → Except ε γ} {g : γ → δ} {g' : β → δ}
    (hf : ∀ b c, f b = .ok c → g c = g' b) :
    ∀ {l : List β} {r : List γ}, l.mapM f = .ok r → r.map g = l.map g'
  | [], r, h => by cases h; rfl
  | b :: l, r, h => by
    simp only [List.mapM_cons, except_bind_eq_ok, except_pure_eq_ok] at h
    obtain ⟨c, hb, r', hl, rfl⟩ := h
    rw [List.map_cons, List.map_cons, hf b c hb, map_of_mapM_eq_ok hf hl]

theorem mem_of_filterMapM_loop_eq_ok {ε β γ : Type} {f : β → Except ε (Option γ)} :
    ∀ {l : List β} {acc r : List γ}, List.filterMapM.loop f l acc = .ok r →
      ∀ c ∈ r, c ∈ acc ∨ ∃ b ∈ l, f b = .ok (some c)
  | [], acc, r, h, c, hc => by
    simp only [List.filterMapM.loop, except_pure_eq_ok] at h
    subst h
    exact .inl (List.mem_reverse.1 hc)
  | b :: l, acc, r, h, c, hc => by
    simp only [List.filterMapM.loop, except_bind_eq_ok] at h
    obtain ⟨o, hb, h⟩ := h
    have hl : ∀ acc', List.filterMapM.loop f l acc' = .ok r →
        c ∈ acc' ∨ ∃ b' ∈ b :: l, f b' = .ok (some c) := fun _ h' =>
      (mem_of_filterMapM_loop_eq_ok h' c hc).imp_right
        fun ⟨b', hb', hf⟩ => ⟨b', List.mem_cons_of_mem _ hb', hf⟩
    cases o with
    | none => exact hl acc h
    | some c' =>
      rcases hl _ h with hacc | hf
      · rcases List.mem_cons.1 hacc with rfl | hacc
        · exact .inr ⟨b, List.mem_cons_self _ _, hb⟩
        · exact .inl hacc
      · exact .inr hf

/-- What a filtering loop over a list that succeeds returns: the kept
results of its elements. -/
theorem mem_of_filterMapM_eq_ok {ε β γ : Type} {f : β → Except ε (Option γ)} {l : List β}
    {r : List γ} (h : l.filterMapM f = .ok r) : ∀ c ∈ r, ∃ b ∈ l, f b = .ok (some c) :=
  fun c hc => (mem_of_filterMapM_loop_eq_ok h c hc).resolve_left (List.not_mem_nil c)

/-! ## Calls that may not return -/

/-- A call that returns a value or an error (`some`), or never returns (`none`). -/
abbrev Call (α : Type) := ExceptT Error Option α

/-- A call that never returns. -/
def Call.diverge {α : Type} : Call α := ExceptT.lift none

variable {α β : Type}

theorem Call.bind_ok {x : Call α} {f : α → Call β} {b : β} :
    (x >>= f).run = some (.ok b) ↔ ∃ a, x.run = some (.ok a) ∧ (f a).run = some (.ok b) := by
  simp only [ExceptT.run_bind]
  rcases h : x.run with _ | (e | a) <;> simp [h]

theorem Call.bind_error {x : Call α} {f : α → Call β} {e : Error} :
    (x >>= f).run = some (.error e) ↔
      x.run = some (.error e) ∨ ∃ a, x.run = some (.ok a) ∧ (f a).run = some (.error e) := by
  simp only [ExceptT.run_bind]
  rcases h : x.run with _ | (e | a) <;> simp [h]

theorem Call.bind_ne_none {x : Call α} {f : α → Call β} (hx : x.run ≠ none)
    (hf : ∀ a, x.run = some (.ok a) → (f a).run ≠ none) : (x >>= f).run ≠ none := by
  simp only [ExceptT.run_bind]
  rcases h : x.run with _ | (e | a)
  · exact absurd h hx
  · simp
  · simpa using hf a h

/-- A `for` loop returns when its body returns on every state an
invariant allows, and keeps that invariant. -/
theorem Call.foldlM_ne_none {f : β → α → Call β} {P : β → Prop}
    (hf : ∀ {b a}, P b → (f b a).run ≠ none)
    (hP : ∀ {b a b'}, P b → (f b a).run = some (.ok b') → P b') :
    ∀ {xs : List α} {b : β}, P b → (xs.foldlM f b).run ≠ none
  | [], _, _ => by simp
  | _ :: _, _, hb => by
    rw [List.foldlM_cons]
    exact Call.bind_ne_none (hf hb) fun _ h => Call.foldlM_ne_none hf hP (hP hb h)

/-- One step of a `for` loop whose body is a call, when the body returns. -/
theorem Call.foldlM_cons_ok {f : β → α → Call β} {x : α} {xs : List α} {b b' : β} :
    ((x :: xs).foldlM f b).run = some (.ok b') ↔
      ∃ b₁, (f b x).run = some (.ok b₁) ∧ (xs.foldlM f b₁).run = some (.ok b') := by
  rw [List.foldlM_cons, Call.bind_ok]

/-- And when the loop stops at an error. -/
theorem Call.foldlM_cons_error {f : β → α → Call β} {x : α} {xs : List α} {b : β} {e : Error} :
    ((x :: xs).foldlM f b).run = some (.error e) ↔
      (f b x).run = some (.error e) ∨
        ∃ b₁, (f b x).run = some (.ok b₁) ∧ (xs.foldlM f b₁).run = some (.error e) := by
  rw [List.foldlM_cons, Call.bind_error]

/-- A loop returns what it returned when its body is replaced by one that
returns whatever the old body returned: more fuel for a body on fuel. -/
theorem Call.foldlM_mono {f g : β → α → Call β}
    (h : ∀ {b a r}, (f b a).run = some r → (g b a).run = some r) :
    ∀ {xs : List α} {b : β} {r : Except Error β}, (xs.foldlM f b).run = some r →
      (xs.foldlM g b).run = some r
  | [], _, _, h' => h'
  | x :: xs, b, r, h' => by
    rw [List.foldlM_cons, ExceptT.run_bind] at h' ⊢
    rcases hx : (f b x).run with _ | (e | b₁)
    · simp [hx] at h'
    · simpa [h hx, hx] using h'
    · simp only [hx, h hx] at h' ⊢
      exact Call.foldlM_mono h h'

/-! ## `errgroup` -/

/-- `errgroup.Group.Wait`: waits for every goroutine of the group and
returns the error of the first, in the order they finished, that
returned one. -/
def firstError : List (Except Error Unit) → Option Error
  | [] => none
  | .error e :: _ => some e
  | .ok () :: rs => firstError rs

theorem firstError_eq_none {rs : List (Except Error Unit)} :
    firstError rs = none ↔ ∀ r ∈ rs, r = .ok () := by
  induction rs with
  | nil => simp [firstError]
  | cons r rs ih => rcases r with e | ⟨⟩ <;> simp [firstError, ih]

theorem error_mem_of_firstError {rs : List (Except Error Unit)} {e : Error}
    (h : firstError rs = some e) : .error e ∈ rs := by
  induction rs with
  | nil => simp [firstError] at h
  | cons r rs ih =>
    rcases r with e' | ⟨⟩
    · simp only [firstError, Option.some.injEq] at h
      simp [h]
    · exact List.mem_cons_of_mem _ (ih h)

/-- **What `Wait` can return.** Over every order in which the goroutines
may finish, `Wait` returns nil exactly when none failed, and otherwise
the error of any one of those that did. -/
theorem firstError_perm_iff {rs : List (Except Error Unit)} {r : Option Error} :
    (∃ order, order.Perm rs ∧ firstError order = r) ↔
      (r = none ∧ ∀ x ∈ rs, x = .ok ()) ∨ ∃ e, r = some e ∧ .error e ∈ rs := by
  constructor
  · rintro ⟨order, hp, rfl⟩
    cases h : firstError order with
    | none => exact .inl ⟨rfl, fun x hx => firstError_eq_none.1 h x (hp.symm.subset hx)⟩
    | some e => exact .inr ⟨e, rfl, hp.subset (error_mem_of_firstError h)⟩
  · rintro (⟨rfl, hok⟩ | ⟨e, rfl, he⟩)
    · exact ⟨rs, .refl rs, firstError_eq_none.2 hok⟩
    · obtain ⟨s, t, rfl⟩ := List.append_of_mem he
      exact ⟨.error e :: (s ++ t), List.perm_middle.symm, rfl⟩

end Ftl
