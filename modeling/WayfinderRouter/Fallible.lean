import Mathlib.Data.List.Forall2

/-!
# Fallible computations

When a sequence of fallible computations succeeds, every step has succeeded.
-/

namespace WayfinderRouter

variable {ε α β γ : Type}

theorem bind_eq_ok {x : Except ε α} {f : α → Except ε β} {b : β} :
    (x >>= f) = .ok b ↔ ∃ a, x = .ok a ∧ f a = .ok b := by
  cases x with
  | error e =>
    constructor
    · intro h
      cases h
    · rintro ⟨a, h, -⟩
      cases h
  | ok a =>
    constructor
    · exact fun h => ⟨a, rfl, h⟩
    · rintro ⟨a', h, hf⟩
      cases h
      exact hf

theorem map_eq_ok {x : Except ε α} {f : α → β} {b : β} :
    f <$> x = .ok b ↔ ∃ a, x = .ok a ∧ f a = b := by
  cases x with
  | error e =>
    constructor
    · intro h
      cases h
    · rintro ⟨a, h, -⟩
      cases h
  | ok a =>
    constructor
    · intro h
      cases h
      exact ⟨a, rfl, rfl⟩
    · rintro ⟨a', h, rfl⟩
      cases h
      rfl

theorem ite_eq_ok {p : Prop} [Decidable p] {a b : α} {e : ε} :
    (if p then Except.ok a else .error e) = .ok b ↔ b = a ∧ p := by
  by_cases hp : p
  · rw [if_pos hp, Except.ok.injEq]
    exact ⟨fun h => ⟨h.symm, hp⟩, fun h => h.1.symm⟩
  · rw [if_neg hp]
    constructor
    · intro h
      cases h
    · exact fun h => absurd h.2 hp

/-- A list is mapped when each element is. -/
theorem mapM_eq_ok {f : α → Except ε β} {l : List α} {l' : List β} :
    l.mapM f = .ok l' ↔ List.Forall₂ (fun a b => f a = .ok b) l l' := by
  induction l generalizing l' with
  | nil =>
    rw [List.mapM_nil, List.forall₂_nil_left_iff]
    exact ⟨fun h => (Except.ok.inj h).symm, fun h => h ▸ rfl⟩
  | cons a l ih =>
    rw [List.mapM_cons, bind_eq_ok, List.forall₂_cons_left_iff]
    constructor
    · rintro ⟨b, hb, hrest⟩
      obtain ⟨bs, hbs, hl'⟩ := bind_eq_ok.mp hrest
      cases hl'
      exact ⟨b, bs, hb, ih.mp hbs, rfl⟩
    · rintro ⟨b, bs, hb, hbs, rfl⟩
      exact ⟨b, hb, bind_eq_ok.mpr ⟨bs, ih.mpr hbs, rfl⟩⟩

/-- A list of written values is read back when each value is. -/
theorem mapM_map_eq_ok {f : β → Except ε γ} {g : α → β} {h : α → γ} {p : γ → Prop}
    (hf : ∀ a c, f (g a) = .ok c ↔ c = h a ∧ p (h a)) {l : List α} {l' : List γ} :
    (l.map g).mapM f = .ok l' ↔ l' = l.map h ∧ ∀ c ∈ l.map h, p c := by
  rw [mapM_eq_ok, List.forall₂_map_left_iff]
  induction l generalizing l' with
  | nil => simp
  | cons a l ih =>
    rw [List.forall₂_cons_left_iff]
    constructor
    · rintro ⟨c, cs, hc, hcs, rfl⟩
      obtain ⟨rfl, hp⟩ := (hf a c).mp hc
      obtain ⟨rfl, hps⟩ := ih.mp hcs
      exact ⟨rfl, List.forall_mem_cons.mpr ⟨hp, hps⟩⟩
    · rintro ⟨rfl, hps⟩
      obtain ⟨hp, hps⟩ := List.forall_mem_cons.mp hps
      exact ⟨h a, l.map h, (hf a _).mpr ⟨rfl, hp⟩, ih.mpr ⟨rfl, hps⟩, rfl⟩

/-- What each read value meets, all of them meet. -/
theorem forall_of_mapM {f : α → Except ε β} {p : β → Prop} {l : List α} {l' : List β}
    (h : l.mapM f = .ok l') (hf : ∀ a b, f a = .ok b → p b) : ∀ b ∈ l', p b := by
  rw [mapM_eq_ok] at h
  induction h with
  | nil => exact fun b hb => absurd hb List.not_mem_nil
  | cons hab _ ih => exact List.forall_mem_cons.mpr ⟨hf _ _ hab, ih⟩

theorem length_of_mapM {f : α → Except ε β} {l : List α} {l' : List β}
    (h : l.mapM f = .ok l') : l'.length = l.length :=
  (mapM_eq_ok.mp h).length_eq.symm

/-- All checks of a list succeed when each does. -/
theorem forM_eq_ok {f : α → Except ε Unit} {l : List α} {u : Unit} :
    l.forM f = .ok u ↔ ∀ a ∈ l, f a = .ok () := by
  induction l with
  | nil => exact ⟨fun _ a ha => absurd ha List.not_mem_nil, fun _ => rfl⟩
  | cons a l ih =>
    show (f a >>= fun _ => l.forM f) = .ok u ↔ _
    rw [bind_eq_ok, List.forall_mem_cons]
    constructor
    · rintro ⟨_, ha, hl⟩
      exact ⟨ha, ih.mp hl⟩
    · rintro ⟨ha, hl⟩
      exact ⟨(), ha, ih.mpr hl⟩

end WayfinderRouter
