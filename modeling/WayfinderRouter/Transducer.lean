import Mathlib.Data.List.Basic

/-!
# Transducers

A transducer reads its input item by item, changes its state and emits outputs, or fails. Its
input arrives in fragments. A fragment is itself an item of a transducer, the one that feeds
the items of the fragment one by one.

## Main definitions

- `Step` — what a transducer does with an item
- `feed` — a transducer on a list of items
- `feed_flatten` — the fragments do not matter
- `feed_invariant` — what every step keeps holds throughout
- `each` — steps without outputs, until one of them fails
- `Unfolds` — the outputs of a generator
-/

namespace Transducer

variable {S I E O : Type*}

/-- The next state, and the outputs or the failure. -/
def Step (S I E O : Type*) := I → S → S × Except E (List O)

/-- Feed the items until one of them fails. -/
def feed (step : Step S I E O) : Step S (List I) E O
  | [], s => (s, .ok [])
  | i :: is, s =>
    match step i s with
    | (s', .error e) => (s', .error e)
    | (s', .ok os) =>
      match feed step is s' with
      | (s'', .error e) => (s'', .error e)
      | (s'', .ok os') => (s'', .ok (os ++ os'))

variable {step : Step S I E O} {i : I} {is js : List I} {s s' : S} {os : List O} {e : E}

@[simp] theorem feed_nil : feed step [] s = (s, .ok []) := rfl

theorem feed_cons_error (h : step i s = (s', .error e)) :
    feed step (i :: is) s = (s', .error e) := by
  rw [feed, h]

theorem feed_cons_ok (h : step i s = (s', .ok os)) :
    feed step (i :: is) s =
      ((feed step is s').1, (feed step is s').2.map fun os' => os ++ os') := by
  rw [feed, h]
  simp only
  rcases feed step is s' with ⟨s'', e | os'⟩
  · rfl
  · rfl

theorem feed_singleton : feed step [i] s = step i s := by
  rcases hi : step i s with ⟨s₁, e | os₁⟩
  · exact feed_cons_error hi
  · rw [feed_cons_ok hi]
    exact congrArg (fun l => (s₁, Except.ok l)) (List.append_nil os₁)

/-- **Inversion rule**: the first item and the rest succeed. -/
theorem feed_cons_eq_ok (h : feed step (i :: is) s = (s', .ok os)) :
    ∃ s₁ os₁ os₂, step i s = (s₁, .ok os₁) ∧ feed step is s₁ = (s', .ok os₂) ∧
      os = os₁ ++ os₂ := by
  rcases hi : step i s with ⟨s₁, e | os₁⟩
  · rw [feed_cons_error hi] at h
    simp at h
  · rw [feed_cons_ok hi] at h
    rcases his : feed step is s₁ with ⟨s₂, e | os₂⟩
    · rw [his] at h
      simp [Except.map] at h
    · rw [his] at h
      simp only [Except.map, Prod.mk.injEq, Except.ok.injEq] at h
      obtain ⟨rfl, rfl⟩ := h
      exact ⟨s₁, os₁, os₂, rfl, his, rfl⟩

theorem feed_append_error (h : feed step is s = (s', .error e)) :
    feed step (is ++ js) s = (s', .error e) := by
  induction is generalizing s with
  | nil => simp at h
  | cons i is ih =>
    rcases hi : step i s with ⟨s₁, e₁ | os₁⟩
    · rw [feed_cons_error hi] at h
      rw [List.cons_append, feed_cons_error hi, h]
    · rw [feed_cons_ok hi] at h
      rcases hrest : feed step is s₁ with ⟨s₂, e₂ | os₂⟩
      · rw [hrest] at h
        rw [List.cons_append, feed_cons_ok hi]
        obtain ⟨rfl, he⟩ := Prod.mk.inj h
        cases he
        rw [ih hrest]
        rfl
      · rw [hrest] at h
        simp [Except.map] at h

theorem feed_append_ok (h : feed step is s = (s', .ok os)) :
    feed step (is ++ js) s =
      ((feed step js s').1, (feed step js s').2.map fun os' => os ++ os') := by
  induction is generalizing s os with
  | nil =>
    simp only [feed_nil, Prod.mk.injEq, Except.ok.injEq] at h
    obtain ⟨rfl, rfl⟩ := h
    rcases hjs : feed step js s with ⟨s₁, e₁ | os₁⟩
    · simp [hjs, Except.map]
    · simp [hjs, Except.map]
  | cons i is ih =>
    rcases hi : step i s with ⟨s₁, e₁ | os₁⟩
    · rw [feed_cons_error hi] at h
      simp at h
    · rw [feed_cons_ok hi] at h
      rcases hrest : feed step is s₁ with ⟨s₂, e₂ | os₂⟩
      · rw [hrest] at h
        simp [Except.map] at h
      · rw [hrest] at h
        simp only [Except.map, Prod.mk.injEq, Except.ok.injEq] at h
        obtain ⟨rfl, rfl⟩ := h
        rw [List.cons_append, feed_cons_ok hi, ih hrest]
        rcases feed step js s₂ with ⟨s₃, e₃ | os₃⟩
        · rfl
        · simp [Except.map]

theorem feed_append_eq_ok (h : feed step (is ++ js) s = (s', .ok os)) :
    ∃ s₁ os₁ os₂, feed step is s = (s₁, .ok os₁) ∧ feed step js s₁ = (s', .ok os₂) ∧
      os = os₁ ++ os₂ := by
  rcases his : feed step is s with ⟨s₁, e | os₁⟩
  · rw [feed_append_error his] at h
    simp at h
  · rw [feed_append_ok his] at h
    rcases hjs : feed step js s₁ with ⟨s₂, e | os₂⟩
    · rw [hjs] at h
      simp [Except.map] at h
    · rw [hjs] at h
      simp only [Except.map, Prod.mk.injEq, Except.ok.injEq] at h
      obtain ⟨rfl, rfl⟩ := h
      exact ⟨s₁, os₁, os₂, rfl, hjs, rfl⟩

/-- **Fragment rule**: feeding fragments is feeding their items. -/
theorem feed_flatten (step : Step S I E O) (fragments : List (List I)) (s : S) :
    feed (feed step) fragments s = feed step fragments.flatten s := by
  induction fragments generalizing s with
  | nil => rfl
  | cons is fragments ih =>
    rw [List.flatten_cons]
    rcases his : feed step is s with ⟨s₁, e₁ | os₁⟩
    · rw [feed_cons_error his, feed_append_error his]
    · rw [feed_cons_ok his, feed_append_ok his, ih]

/-- **Invariant rule**: what every step keeps holds after every input. -/
theorem feed_invariant {p : S → Prop} (hstep : ∀ i s, p s → p (step i s).1) (is : List I)
    (hs : p s) : p (feed step is s).1 := by
  induction is generalizing s with
  | nil => exact hs
  | cons i is ih =>
    have hnext := hstep i s hs
    rcases hi : step i s with ⟨s₁, e₁ | os₁⟩
    · rw [feed_cons_error hi]
      rw [hi] at hnext
      exact hnext
    · rw [feed_cons_ok hi]
      rw [hi] at hnext
      exact ih hnext

/-! ## Steps without outputs -/

/-- Take a step for each item, until one of them fails. -/
def each (step : I → S → S × Option E) : List I → S → S × Option E
  | [], s => (s, none)
  | i :: is, s =>
    match step i s with
    | (s', some e) => (s', some e)
    | (s', none) => each step is s'

/-- **Loop rule**: what the steps keep for the items that are done, and what a failure leaves. -/
theorem each_spec {step : I → S → S × Option E} {p : List I → S → Prop} {q : S → Prop}
    (hok : ∀ {i done s s'}, p done s → step i s = (s', none) → p (done ++ [i]) s')
    (herror : ∀ {i done s s' e}, p done s → step i s = (s', some e) → q s')
    (h : p [] s) (is : List I) :
    (∃ s', each step is s = (s', none) ∧ p is s') ∨
      ∃ s' e, each step is s = (s', some e) ∧ q s' := by
  have hrest : ∀ (is done : List I) (s : S), p done s →
      (∃ s', each step is s = (s', none) ∧ p (done ++ is) s') ∨
        ∃ s' e, each step is s = (s', some e) ∧ q s' := by
    intro is
    induction is with
    | nil =>
      intro done s h
      rw [List.append_nil]
      exact .inl ⟨s, rfl, h⟩
    | cons i is ih =>
      intro done s h
      rcases hstep : step i s with ⟨s₁, _ | e⟩
      · rw [List.append_cons, each, hstep]
        exact ih (done ++ [i]) s₁ (hok h hstep)
      · rw [each, hstep]
        exact .inr ⟨s₁, e, rfl, herror h hstep⟩
  exact hrest is [] s h

/-! ## Generators -/

/-- The outputs of a generator, until it stops. -/
inductive Unfolds (next : S → Option (O × S)) : S → List O → Prop
  | stop {s : S} (h : next s = none) : Unfolds next s []
  | emit {s s' : S} {o : O} {os : List O} (h : next s = some (o, s')) (hrest : Unfolds next s' os) :
      Unfolds next s (o :: os)

/-- A generator has at most one sequence of outputs. -/
theorem Unfolds.unique {next : S → Option (O × S)} {os os' : List O} (h : Unfolds next s os)
    (h' : Unfolds next s os') : os = os' := by
  induction h generalizing os' with
  | stop hstop =>
    cases h' with
    | stop => rfl
    | emit hemit => cases hstop.symm.trans hemit
  | emit hemit hrest ih =>
    cases h' with
    | stop hstop => cases hstop.symm.trans hemit
    | emit hemit' hrest' =>
      cases hemit.symm.trans hemit'
      rw [ih hrest']

end Transducer
