import WayfinderRouter.Fallible

/-!
# Rules for fallible computations

A reader is a sequence of fallible steps. What its results meet, and which result it has on a given
input, follow from what each of its steps ensures and yields.

## Main definitions

- `Ensures` — every result of a computation meets a condition
- `Yields` — a computation has one result if a condition holds, and none otherwise
-/

namespace WayfinderRouter

variable {ε α β : Type} {x : Except ε α} {f : α → Except ε β} {a : α} {b : β}

/-! ## Lists and options -/

/-- The results of the steps of a list are those of its elements. -/
theorem mem_of_mapM_eq_ok {l : List α} {l' : List β} (h : l.mapM f = .ok l') (b : β) :
    b ∈ l' ↔ ∃ a ∈ l, f a = .ok b := by
  rw [mapM_eq_ok] at h
  induction h with
  | nil => simp
  | cons hab _ ih =>
    rw [List.mem_cons, ih, List.exists_mem_cons_iff, hab, Except.ok.injEq, eq_comm]

/-- What a step keeps, the list keeps. -/
theorem map_of_mapM_eq_ok {γ : Type} {l : List α} {l' : List β} {g : α → γ} {g' : β → γ}
    (h : l.mapM f = .ok l') (hf : ∀ a b, f a = .ok b → g' b = g a) : l'.map g' = l.map g := by
  rw [mapM_eq_ok] at h
  induction h with
  | nil => rfl
  | cons hab _ ih => rw [List.map_cons, List.map_cons, ih, hf _ _ hab]

/-- A list is mapped when there is a result for each element. -/
theorem exists_mapM_eq_ok {l : List α} :
    (∃ l', l.mapM f = .ok l') ↔ ∀ a ∈ l, ∃ b, f a = .ok b := by
  simp only [mapM_eq_ok]
  induction l with
  | nil => exact iff_of_true ⟨[], .nil⟩ (List.forall_mem_nil _)
  | cons a l ih =>
    rw [List.forall_mem_cons, ← ih]
    constructor
    · rintro ⟨l', h⟩
      cases h with
      | cons hab hl => exact ⟨⟨_, hab⟩, _, hl⟩
    · rintro ⟨⟨b, hab⟩, l', hl⟩
      exact ⟨b :: l', .cons hab hl⟩

/-- An error that may be there is not. -/
theorem elim_error_eq_ok {e : Option ε} {a' : α} :
    e.elim (.ok a) Except.error = .ok a' ↔ e = none ∧ a = a' := by
  cases e with
  | none => rw [Option.elim_none, Except.ok.injEq, and_iff_right rfl]
  | some e => exact iff_of_false (fun h => by cases h) fun h => by cases h.1

theorem mapError_eq_ok {ε' : Type} {g : ε → ε'} : x.mapError g = .ok a ↔ x = .ok a := by
  cases x with
  | error e => exact iff_of_false (fun h => by cases h) fun h => by cases h
  | ok b => rw [Except.mapError, Except.ok.injEq, Except.ok.injEq]

/-! ## Conditions on results -/

/-- Every result of the computation meets the condition. -/
def Ensures (x : Except ε α) (p : α → Prop) : Prop := ∀ a, x = .ok a → p a

namespace Ensures

variable {p p' : α → Prop} {q : β → Prop}

theorem ok (ha : p a) : Ensures (.ok a : Except ε α) p := by
  intro a' h
  cases h
  exact ha

theorem trivial : Ensures x fun _ => True := fun _ _ => True.intro

theorem error (e : ε) : Ensures (.error e) p := by
  intro a h
  cases h

theorem mono (hx : Ensures x p) (hp : ∀ a, p a → p' a) : Ensures x p' :=
  fun a h => hp a (hx a h)

theorem bind (hx : Ensures x p) (hf : ∀ a, p a → Ensures (f a) q) : Ensures (x >>= f) q := by
  intro b h
  obtain ⟨a, ha, hb⟩ := bind_eq_ok.mp h
  exact hf a (hx a ha) b hb

theorem map {g : α → β} (hx : Ensures x fun a => q (g a)) : Ensures (g <$> x) q := by
  intro b h
  obtain ⟨a, ha, rfl⟩ := map_eq_ok.mp h
  exact hx a ha

/-- The results of the steps of a list. -/
theorem mapM {l : List α} (hf : ∀ a ∈ l, Ensures (f a) q) :
    Ensures (l.mapM f) fun l' => ∀ b ∈ l', q b := by
  intro l' h
  rw [mapM_eq_ok] at h
  induction h with
  | nil => exact fun b hb => absurd hb List.not_mem_nil
  | cons hab _ ih =>
    have htail := ih fun a ha => hf a (List.mem_cons_of_mem _ ha)
    exact List.forall_mem_cons.mpr ⟨hf _ List.mem_cons_self _ hab, htail⟩

theorem forM {f : α → Except ε Unit} {l : List α} (hf : ∀ a ∈ l, Ensures (f a) fun _ => p a) :
    Ensures (l.forM f) fun _ => ∀ a ∈ l, p a :=
  fun _ h a ha => hf a ha () (forM_eq_ok.mp h a ha)

end Ensures

/-- The computation has one result if the condition holds, and none otherwise. -/
def Yields (x : Except ε α) (a : α) (p : Prop) : Prop := ∀ a', x = .ok a' ↔ a' = a ∧ p

namespace Yields

variable {p q : Prop}

theorem ok (a : α) : Yields (.ok a : Except ε α) a True := by
  intro a'
  rw [Except.ok.injEq, and_true]
  exact eq_comm

theorem eq_ok (hx : Yields x a p) (hp : p) : x = .ok a := (hx a).mpr ⟨rfl, hp⟩

theorem ensures (hx : Yields x a p) : Ensures x fun a' => a' = a ∧ p := fun a' h => (hx a').mp h

theorem iff (hx : Yields x a p) (hpq : p ↔ q) : Yields x a q := fun a' => by rw [hx a', hpq]

theorem of_eq (hx : Yields x a p) {a' : α} (ha : a = a') : Yields x a' p := ha ▸ hx

theorem bind (hx : Yields x a p) (hf : Yields (f a) b q) : Yields (x >>= f) b (p ∧ q) := by
  intro b'
  rw [bind_eq_ok]
  constructor
  · rintro ⟨a', ha', hb'⟩
    obtain ⟨rfl, hp⟩ := (hx a').mp ha'
    obtain ⟨rfl, hq⟩ := (hf b').mp hb'
    exact ⟨rfl, hp, hq⟩
  · rintro ⟨rfl, hp, hq⟩
    exact ⟨a, hx.eq_ok hp, hf.eq_ok hq⟩

/-- A step whose condition the whole computation needs. -/
theorem step (hx : Yields x a p) (hqp : q → p) (hf : p → Yields (f a) b q) :
    Yields (x >>= f) b q := by
  intro b'
  rw [bind_eq_ok]
  constructor
  · rintro ⟨a', ha', hb'⟩
    obtain ⟨rfl, hp⟩ := (hx a').mp ha'
    exact (hf hp b').mp hb'
  · rintro ⟨rfl, hq⟩
    exact ⟨a, hx.eq_ok (hqp hq), (hf (hqp hq)).eq_ok hq⟩

/-- The last step, once every condition holds. -/
theorem done (hq : q) : Yields (.ok a : Except ε α) a q :=
  (Yields.ok a).iff (iff_of_true trivial hq)

theorem map (hx : Yields x a p) (g : α → β) : Yields (g <$> x) (g a) p := by
  intro b
  rw [map_eq_ok]
  constructor
  · rintro ⟨a', ha', rfl⟩
    obtain ⟨rfl, hp⟩ := (hx a').mp ha'
    exact ⟨rfl, hp⟩
  · rintro ⟨rfl, hp⟩
    exact ⟨a, hx.eq_ok hp, rfl⟩

/-- The steps of a list that was written value by value. -/
theorem mapM_map {γ : Type} {g : γ → α} {r : γ → β} {c : β → Prop}
    (hf : ∀ e, Yields (f (g e)) (r e) (c (r e))) (l : List γ) :
    Yields ((l.map g).mapM f) (l.map r) (∀ b ∈ l.map r, c b) :=
  fun _ => mapM_map_eq_ok hf

theorem forM {f : α → Except ε Unit} {c : α → Prop} (l : List α)
    (hf : ∀ a ∈ l, Yields (f a) () (c a)) : Yields (l.forM f) () (∀ a ∈ l, c a) := by
  intro u
  rw [forM_eq_ok]
  constructor
  · exact fun h => ⟨rfl, fun a ha => ((hf a ha ()).mp (h a ha)).2⟩
  · exact fun h a ha => (hf a ha).eq_ok (h.2 a ha)

end Yields

end WayfinderRouter
