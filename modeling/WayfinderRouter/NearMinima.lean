import Mathlib.Algebra.Order.Field.Basic
import Mathlib.Data.List.Basic
import Mathlib.Data.List.Induction
import Mathlib.Tactic.Linarith

/-!
# Scans for a minimum up to a tolerance

A scan keeps the least value it has seen and the elements of about that value. A smaller value only
replaces the least one when the two differ by more than a tolerance, so the scan can keep a value
above the minimum, though by no more than the tolerance.

## Main definitions

- `Scan.offer`, `nearMinima` — one element, and a list of elements
- `Separated` — values that differ do so by more than twice the tolerance

## Main results

- `NearMinimal.run` — what the scan keeps of a list
- `NearMinimal.cuts_eq` — separated values: the scan keeps the minimal elements
-/

namespace NearMinima

variable {α K : Type*} [Field K] [LinearOrder K]

/-- The least value so far, and the elements of about that value. -/
structure Scan (α K : Type*) where
  least : Option K
  cuts : List α

/-- One element. -/
def Scan.offer (ε : K) (value : α → K) (scan : Scan α K) (a : α) : Scan α K :=
  match scan.least with
  | none => ⟨some (value a), [a]⟩
  | some least =>
    if value a < least - ε then ⟨some (value a), [a]⟩
    else if |value a - least| ≤ ε then ⟨some least, scan.cuts ++ [a]⟩
    else scan

/-- The scan of a list. -/
def nearMinima (ε : K) (value : α → K) (l : List α) : Scan α K :=
  l.foldl (Scan.offer ε value) ⟨none, []⟩

/-- Values that differ do so by more than twice the tolerance. -/
def Separated (ε : K) (value : α → K) (l : List α) : Prop :=
  ∀ a ∈ l, ∀ b ∈ l, value a = value b ∨ 2 * ε < |value a - value b|

/-- The least value is that of an element, and no element is below it by more than the tolerance.
The elements kept have about that value, and if values are separated they are all that have it. -/
structure NearMinimal (ε : K) (value : α → K) (l : List α) (scan : Scan α K) (least : K) :
    Prop where
  known : scan.least = some least
  attained : ∃ a ∈ l, value a = least
  below : ∀ a ∈ l, least - ε ≤ value a
  cuts : scan.cuts ≠ []
  near : ∀ a ∈ scan.cuts, a ∈ l ∧ |value a - least| ≤ ε
  separated : Separated ε value l → scan.cuts = l.filter fun a => value a = least

variable {ε least : K} {value : α → K} {l : List α} {scan : Scan α K}

theorem Separated.left {l' : List α} (h : Separated ε value (l ++ l')) : Separated ε value l :=
  fun a ha b hb => h a (List.mem_append_left _ ha) b (List.mem_append_left _ hb)

variable [IsStrictOrderedRing K]

/-- A value within the tolerance of another one is equal to it. -/
theorem Separated.eq_of_near (h : Separated ε value l) (hε : 0 ≤ ε) {a b : α} (ha : a ∈ l)
    (hb : b ∈ l) (hnear : |value a - value b| ≤ ε) : value a = value b := by
  rcases h a ha b hb with heq | hfar
  · exact heq
  · linarith

/-- **Step rule**: one more element. -/
theorem NearMinimal.offer (h : NearMinimal ε value l scan least) (hε : 0 ≤ ε) (a : α) :
    ∃ least', NearMinimal ε value (l ++ [a]) (scan.offer ε value a) least' := by
  have hlast : a ∈ l ++ [a] := List.mem_append_right _ (List.mem_singleton_self a)
  unfold Scan.offer
  rw [h.known]
  dsimp only
  split_ifs with hless hnear
  · -- a new least value: all others are above it
    refine ⟨value a, rfl, ⟨a, hlast, rfl⟩, ?_, List.cons_ne_nil _ _, ?_, fun _ => ?_⟩
    · refine List.forall_mem_append.mpr ⟨fun b hb => ?_, fun b hb => ?_⟩
      · linarith [h.below b hb]
      · rw [List.mem_singleton.mp hb]
        linarith
    · intro b hb
      rw [List.mem_singleton.mp hb, sub_self, abs_zero]
      exact ⟨hlast, hε⟩
    · have hnone : l.filter (fun b => value b = value a) = [] := by
        rw [List.filter_eq_nil_iff]
        intro b hb heq
        have hequal : value b = value a := of_decide_eq_true heq
        linarith [h.below b hb]
      rw [List.filter_append, hnone, List.filter_cons_of_pos (by simp), List.filter_nil,
        List.nil_append]
  · refine ⟨least, rfl, ?_, ?_, ?_, ?_, fun hseparated => ?_⟩
    · obtain ⟨b, hb, hvalue⟩ := h.attained
      exact ⟨b, List.mem_append_left _ hb, hvalue⟩
    · exact List.forall_mem_append.mpr
        ⟨h.below, fun b hb => List.mem_singleton.mp hb ▸ not_lt.mp hless⟩
    · exact List.append_ne_nil_of_left_ne_nil h.cuts _
    · refine List.forall_mem_append.mpr ⟨fun b hb => ?_, fun b hb => ?_⟩
      · exact ⟨List.mem_append_left _ (h.near b hb).1, (h.near b hb).2⟩
      · rw [List.mem_singleton.mp hb]
        exact ⟨hlast, hnear⟩
    · obtain ⟨b, hb, hvalue⟩ := h.attained
      have hequal : value a = least := hvalue ▸
        hseparated.eq_of_near hε hlast (List.mem_append_left _ hb) (hvalue ▸ hnear)
      rw [h.separated hseparated.left, List.filter_append,
        List.filter_cons_of_pos (by simpa using hequal), List.filter_nil]
  · refine ⟨least, h.known, ?_, ?_, h.cuts, ?_, fun hseparated => ?_⟩
    · obtain ⟨b, hb, hvalue⟩ := h.attained
      exact ⟨b, List.mem_append_left _ hb, hvalue⟩
    · exact List.forall_mem_append.mpr
        ⟨h.below, fun b hb => List.mem_singleton.mp hb ▸ not_lt.mp hless⟩
    · exact fun b hb => ⟨List.mem_append_left _ (h.near b hb).1, (h.near b hb).2⟩
    · have hdiffer : value a ≠ least := by
        intro heq
        rw [heq, sub_self, abs_zero] at hnear
        exact hnear hε
      rw [h.separated hseparated.left, List.filter_append,
        List.filter_cons_of_neg (by simpa using hdiffer), List.filter_nil, List.append_nil]

/-- **Run rule**: a list that is not empty. -/
theorem NearMinimal.run (hε : 0 ≤ ε) (value : α → K) (hl : l ≠ []) :
    ∃ least, NearMinimal ε value l (nearMinima ε value l) least := by
  induction l using List.reverseRecOn with
  | nil => exact absurd rfl hl
  | append_singleton l a ih =>
    rw [nearMinima, List.foldl_concat]
    by_cases hfirst : l = []
    · subst hfirst
      refine ⟨value a, rfl, ⟨a, List.mem_singleton_self a, rfl⟩, ?_, List.cons_ne_nil _ _, ?_, ?_⟩
      · intro b hb
        rw [List.nil_append, List.mem_singleton] at hb
        rw [hb]
        linarith
      · intro b hb
        rw [List.mem_singleton.mp hb, sub_self, abs_zero]
        exact ⟨List.mem_singleton_self a, hε⟩
      · exact fun _ => (List.filter_eq_self.mpr fun b hb =>
          decide_eq_true (congrArg value (List.mem_singleton.mp hb))).symm
    · obtain ⟨least, h⟩ := ih hfirst
      exact h.offer hε a

/-- An element that is kept is above any other by at most twice the tolerance. -/
theorem NearMinimal.le_add (h : NearMinimal ε value l scan least) {a b : α} (ha : a ∈ scan.cuts)
    (hb : b ∈ l) : value a ≤ value b + 2 * ε := by
  have hnear := abs_le.mp (h.near a ha).2
  linarith [h.below b hb]

/-- Separated values: the elements kept are the minimal ones. -/
theorem NearMinimal.cuts_eq (h : NearMinimal ε value l scan least) (hε : 0 ≤ ε)
    (hseparated : Separated ε value l) :
    scan.cuts = l.filter fun a => ∀ b ∈ l, value a ≤ value b := by
  obtain ⟨c, hc, hvalue⟩ := h.attained
  have hleast : ∀ b ∈ l, least ≤ value b := by
    intro b hb
    by_contra hlt
    have hnear : |value b - value c| ≤ ε := by
      rw [hvalue, abs_le]
      constructor <;> linarith [h.below b hb, not_le.mp hlt]
    exact hlt (hvalue ▸ hseparated.eq_of_near hε hb hc hnear).ge
  rw [h.separated hseparated]
  apply List.filter_congr
  intro a ha
  rw [decide_eq_decide]
  constructor
  · exact fun heq b hb => heq.trans_le (hleast b hb)
  · exact fun hall => le_antisymm (hvalue ▸ hall c hc) (hleast a ha)

end NearMinima
