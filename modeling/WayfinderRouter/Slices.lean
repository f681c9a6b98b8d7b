import Mathlib.Algebra.GroupWithZero.Nat
import Mathlib.Data.List.Basic
import Mathlib.Tactic.Common

/-!
# Slices of a text

Positions in a text are byte offsets in its UTF-8 encoding. A slice between two offsets exists
when both are boundaries of characters.

## Main definitions

- `size` — the number of bytes of a text
- `slice` — the part of a text between two offsets
- `find` — the offset of the first occurrence of a character

## Main results

- `slice_append` — the slice between the sizes of two prefixes
- `find_append`, `find_eq_none` — the first occurrence
-/

namespace Slices

/-- The bytes of a text (`str::len`). -/
def size (text : List Char) : ℕ := (text.map Char.utf8Size).sum

@[simp] theorem size_nil : size [] = 0 := rfl

@[simp] theorem size_cons (c : Char) (text : List Char) :
    size (c :: text) = c.utf8Size + size text :=
  List.sum_cons

@[simp] theorem size_append (text text' : List Char) :
    size (text ++ text') = size text + size text' := by
  rw [size, List.map_append, List.sum_append]
  rfl

theorem size_pos {text : List Char} (h : text ≠ []) : 0 < size text := by
  cases text with
  | nil => exact absurd rfl h
  | cons c text =>
    have hc := c.utf8Size_pos
    rw [size_cons]
    omega

/-- The text from an offset on. -/
def dropBytes : ℕ → List Char → Option (List Char)
  | 0, text => some text
  | _ + 1, [] => none
  | n + 1, c :: text => if c.utf8Size ≤ n + 1 then dropBytes (n + 1 - c.utf8Size) text else none

/-- The text up to an offset. -/
def takeBytes : ℕ → List Char → Option (List Char)
  | 0, _ => some []
  | _ + 1, [] => none
  | n + 1, c :: text =>
    if c.utf8Size ≤ n + 1 then (takeBytes (n + 1 - c.utf8Size) text).map (c :: ·) else none

/-- The part of a text between two offsets (`str::get`). -/
def slice (text : List Char) (first last : ℕ) : Option (List Char) :=
  if first ≤ last then (dropBytes first text).bind (takeBytes (last - first)) else none

theorem dropBytes_append (text rest : List Char) :
    dropBytes (size text) (text ++ rest) = some rest := by
  induction text with
  | nil => cases rest <;> rfl
  | cons c text ih =>
    have hc := c.utf8Size_pos
    obtain ⟨n, hn⟩ : ∃ n, c.utf8Size + size text = n + 1 :=
      ⟨c.utf8Size + size text - 1, by omega⟩
    rw [size_cons, hn, List.cons_append, dropBytes, if_pos (by omega), ← hn,
      Nat.add_sub_cancel_left, ih]

theorem takeBytes_append (text rest : List Char) :
    takeBytes (size text) (text ++ rest) = some text := by
  induction text with
  | nil => cases rest <;> rfl
  | cons c text ih =>
    have hc := c.utf8Size_pos
    obtain ⟨n, hn⟩ : ∃ n, c.utf8Size + size text = n + 1 :=
      ⟨c.utf8Size + size text - 1, by omega⟩
    rw [size_cons, hn, List.cons_append, takeBytes, if_pos (by omega), ← hn,
      Nat.add_sub_cancel_left, ih]
    rfl

/-- The slice between the ends of two prefixes is what the longer one adds. -/
theorem slice_append (before part rest : List Char) :
    slice (before ++ part ++ rest) (size before) (size (before ++ part)) = some part := by
  rw [slice, if_pos (by rw [size_append]; omega), List.append_assoc, dropBytes_append,
    Option.bind_some, size_append, Nat.add_sub_cancel_left, takeBytes_append]

/-- The slice from the end of a prefix on. -/
theorem slice_suffix (before rest : List Char) :
    slice (before ++ rest) (size before) (size (before ++ rest)) = some rest := by
  have h := slice_append before rest []
  rwa [List.append_nil] at h

/-- The offset of the first occurrence of a character (`str::find`). -/
def find (c : Char) : List Char → Option ℕ
  | [] => none
  | d :: text => if d = c then some 0 else (find c text).map (d.utf8Size + ·)

theorem find_append {c : Char} {text : List Char} (h : c ∉ text) (rest : List Char) :
    find c (text ++ c :: rest) = some (size text) := by
  induction text with
  | nil => exact if_pos rfl
  | cons d text ih =>
    rw [List.mem_cons, not_or] at h
    rw [List.cons_append, find, if_neg (Ne.symm h.1), ih h.2]
    rfl

theorem find_eq_none {c : Char} {text : List Char} (h : c ∉ text) : find c text = none := by
  induction text with
  | nil => rfl
  | cons d text ih =>
    rw [List.mem_cons, not_or] at h
    rw [find, if_neg (Ne.symm h.1), ih h.2]
    rfl

end Slices
