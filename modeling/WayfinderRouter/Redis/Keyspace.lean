import Mathlib.Data.List.Nodup
import Mathlib.Logic.Function.Basic

/-!
# Loops over keys

A script that works through a list of keys, in order, changing the state behind one key
per round. A key may occur several times; the later rounds see what the earlier ones left.

## Main definitions

- `updateAll` — one update per element of a list, each at the key of the element
-/

namespace Redis

variable {ι K α : Type*} [DecidableEq K]

/-- For each element `i` of the list, in order, apply `f i` to the state behind `key i`. -/
def updateAll (key : ι → K) (f : ι → α → α) : List ι → (K → α) → K → α
  | [], s => s
  | i :: l, s => updateAll key f l (Function.update s (key i) (f i (s (key i))))

variable {key : ι → K} {f : ι → α → α} {k : K}

theorem updateAll_of_not_mem {l : List ι} {s : K → α} (hk : k ∉ l.map key) :
    updateAll key f l s k = s k := by
  induction l generalizing s with
  | nil => rfl
  | cons i l ih =>
    rw [List.map_cons, List.mem_cons, not_or] at hk
    rw [updateAll, ih hk.2, Function.update_of_ne hk.1]

/-- When no key occurs twice every element is applied once. -/
theorem updateAll_of_nodup {l : List ι} {s : K → α} (hnodup : (l.map key).Nodup) {i : ι}
    (hi : i ∈ l) : updateAll key f l s (key i) = f i (s (key i)) := by
  induction l generalizing s with
  | nil => simp at hi
  | cons j l ih =>
    obtain ⟨hj, hl⟩ := List.nodup_cons.mp hnodup
    rw [updateAll]
    rcases List.mem_cons.mp hi with rfl | hi
    · rw [updateAll_of_not_mem hj, Function.update_self]
    · have hne : key i ≠ key j := by
        intro heq
        exact hj (heq ▸ List.mem_map_of_mem hi)
      rw [ih hl hi, Function.update_of_ne hne]

/-- **Loop rule**: what every round at the key keeps holds at the end. -/
theorem updateAll_keeps {Q : α → Prop} {l : List ι} {s : K → α} (start : Q (s k))
    (round : ∀ i ∈ l, key i = k → ∀ a, Q a → Q (f i a)) : Q (updateAll key f l s k) := by
  induction l generalizing s with
  | nil => exact start
  | cons i l ih =>
    refine ih ?_ fun j hj => round j (List.mem_cons_of_mem _ hj)
    by_cases hi : key i = k
    · subst hi
      rw [Function.update_self]
      exact round i List.mem_cons_self rfl _ start
    · rwa [Function.update_of_ne (Ne.symm hi)]

/-- **First-round rule**: the first round at the key brings about what the others keep. -/
theorem updateAll_reaches {P Q : α → Prop} {l : List ι} {s : K → α} (hk : k ∈ l.map key)
    (start : P (s k)) (first : ∀ i ∈ l, key i = k → ∀ a, P a → Q (f i a))
    (round : ∀ i ∈ l, key i = k → ∀ a, Q a → Q (f i a)) : Q (updateAll key f l s k) := by
  induction l generalizing s with
  | nil => simp at hk
  | cons i l ih =>
    rw [updateAll]
    by_cases hi : key i = k
    · refine updateAll_keeps ?_ fun j hj => round j (List.mem_cons_of_mem _ hj)
      subst hi
      rw [Function.update_self]
      exact first i List.mem_cons_self rfl _ start
    · have hk' : k ∈ l.map key := (List.mem_cons.mp hk).resolve_left (Ne.symm hi)
      refine ih hk' ?_ (fun j hj => first j (List.mem_cons_of_mem _ hj))
        fun j hj => round j (List.mem_cons_of_mem _ hj)
      rwa [Function.update_of_ne (Ne.symm hi)]

end Redis
