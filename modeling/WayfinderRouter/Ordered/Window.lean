import Mathlib.Data.List.Basic

/-!
# Windows on a log

A log grows by new elements, and its newest element with a property may be changed later. A window
keeps a number of the newest elements and is changed in the same way. It never shows anything else
than the log does: the window of the changed log is the changed window.

## Main definitions

- `amend` — the change of the first element with a property
- `Edit` — a new element, or a change
- `log`, `window` — all edits on a log, and on a window

## Main results

- `window_eq_take_log` — a window is what the log starts with
- `map_log` — what no edit changes
-/

namespace Ordered

variable {α β : Type*} {p : α → Bool} {f : α → α}

/-- Change the first element with a property. -/
def amend (p : α → Bool) (f : α → α) : List α → List α
  | [] => []
  | x :: l => if p x then f x :: l else x :: amend p f l

theorem take_amend (n : ℕ) (l : List α) : (amend p f l).take n = amend p f (l.take n) := by
  induction l generalizing n with
  | nil => rw [amend, List.take_nil, amend]
  | cons x l ih =>
    cases n with
    | zero => rw [List.take_zero, List.take_zero, amend]
    | succ n =>
      rw [amend, List.take_succ_cons, amend]
      split_ifs
      · rw [List.take_succ_cons]
      · rw [List.take_succ_cons, ih]

theorem map_amend {g : α → β} (h : ∀ x, g (f x) = g x) (l : List α) :
    (amend p f l).map g = l.map g := by
  induction l with
  | nil => rfl
  | cons x l ih =>
    rw [amend]
    split_ifs
    · rw [List.map_cons, h, List.map_cons]
    · rw [List.map_cons, ih, List.map_cons]

theorem length_amend (l : List α) : (amend p f l).length = l.length := by
  induction l with
  | nil => rfl
  | cons x l ih =>
    rw [amend]
    split_ifs
    · rfl
    · rw [List.length_cons, ih, List.length_cons]

/-- Only what the change makes of the first element counts. -/
theorem amend_congr {f' : α → α} {l : List α} (h : ∀ x ∈ l.find? p, f x = f' x) :
    amend p f l = amend p f' l := by
  induction l with
  | nil => rfl
  | cons x l ih =>
    rw [amend, amend]
    split_ifs with hx
    · rw [h x (by rw [List.find?_cons_of_pos hx]; rfl)]
    · rw [List.find?_cons_of_neg hx] at h
      rw [ih h]

/-- A change that there is nothing to make of. -/
theorem amend_eq_self {l : List α} (h : ∀ x ∈ l.find? p, f x = x) : amend p f l = l := by
  induction l with
  | nil => rfl
  | cons x l ih =>
    rw [amend]
    split_ifs with hx
    · rw [h x (by rw [List.find?_cons_of_pos hx]; rfl)]
    · rw [List.find?_cons_of_neg hx] at h
      rw [ih h]

/-! ## Edits -/

/-- A new element, or a change of the newest element with a property. -/
inductive Edit (α : Type*) where
  | push (x : α)
  | amend (p : α → Bool) (f : α → α)

/-- The log after an edit, newest first. -/
def Edit.apply : Edit α → List α → List α
  | .push x, l => x :: l
  | .amend p f, l => Ordered.amend p f l

/-- The log after a history of edits, which starts with the newest. -/
def log : List (Edit α) → List α
  | [] => []
  | edit :: edits => edit.apply (log edits)

/-- The window after a history of edits. -/
def window (n : ℕ) : List (Edit α) → List α
  | [] => []
  | edit :: edits => (edit.apply (window n edits)).take n

/-- The elements of a history, newest first. -/
def pushed : List (Edit α) → List α
  | [] => []
  | .push x :: edits => x :: pushed edits
  | .amend _ _ :: edits => pushed edits

/-- A window shows what the log starts with. -/
theorem window_eq_take_log (n : ℕ) (edits : List (Edit α)) :
    window n edits = (log edits).take n := by
  induction edits with
  | nil => rw [window, log, List.take_nil]
  | cons edit edits ih =>
    rw [window, log, ih]
    cases edit with
    | push x =>
      rw [Edit.apply, Edit.apply]
      cases n with
      | zero => rw [List.take_zero, List.take_zero]
      | succ n =>
        rw [List.take_succ_cons, List.take_succ_cons, List.take_take,
          Nat.min_eq_left (Nat.le_succ n)]
    | amend p f => rw [Edit.apply, Edit.apply, take_amend, take_amend, List.take_take, Nat.min_self]

/-- What no change touches is as it was when the elements were new. -/
theorem map_log {g : α → β} {edits : List (Edit α)}
    (h : ∀ p f, Edit.amend p f ∈ edits → ∀ x, g (f x) = g x) :
    (log edits).map g = (pushed edits).map g := by
  induction edits with
  | nil => rfl
  | cons edit edits ih =>
    have hlog := ih fun p f hmem => h p f (List.mem_cons_of_mem edit hmem)
    cases edit with
    | push x => rw [log, Edit.apply, pushed, List.map_cons, List.map_cons, hlog]
    | amend p f => rw [log, Edit.apply, pushed, map_amend (h p f List.mem_cons_self), hlog]

end Ordered
