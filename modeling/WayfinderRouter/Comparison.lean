import Mathlib.Data.List.Sort

/-!
# Comparison sorts

A sort that learns about its elements by comparing them is the script of the comparisons it makes.
The answers may come from a state that changes between them, so the same script can be run with a
comparator that is not one order. What a sort promises holds only for an order: then it sorts, and
keeps the order of equal elements. With other answers it may return any permutation, or panic.

## Main definitions

- `Script` — the comparisons of a sort, and its result
- `Script.run`, `Script.runState` — the result, for a comparator and for one that reads a state
- `Sorts` — what a stable sort promises
- `insertionSort` — insertion from the right

## Main results

- `Script.Over.runState_spec` — answers that agree with a comparator give its result
-/

namespace Comparison

variable {α σ : Type*}

/-- The comparisons of a sort. -/
inductive Script (α : Type*) where
  | done (result : List α)
  | panic
  | compare (left right : α) (next : Ordering → Script α)

namespace Script

/-- The result for a comparator, unless the sort panics. -/
def run (cmp : α → α → Ordering) : Script α → Option (List α)
  | done result => some result
  | panic => none
  | compare left right next => (next (cmp left right)).run cmp

/-- The result for a comparator that reads a state, and the state afterwards. -/
def runState (cmp : α → α → σ → Ordering × σ) : Script α → σ → Option (List α) × σ
  | done result, s => (some result, s)
  | panic, s => (none, s)
  | compare left right next, s =>
    let answer := cmp left right s
    (next answer.1).runState cmp answer.2

/-- The sort compares elements of the list, and returns a permutation of it if at all. -/
inductive Over (l : List α) : Script α → Prop where
  | done {result : List α} (h : result.Perm l) : Over l (done result)
  | panic : Over l panic
  | compare {left right : α} {next : Ordering → Script α} (hleft : left ∈ l) (hright : right ∈ l)
      (h : ∀ answer, Over l (next answer)) : Over l (compare left right next)

variable {l : List α} {script : Script α}

/-- Answers that agree with a comparator, while the state keeps an invariant, give its result. -/
theorem Over.runState_spec {cmp : α → α → Ordering} {reads : α → α → σ → Ordering × σ}
    (hover : script.Over l) (Inv : σ → Prop)
    (h : ∀ left ∈ l, ∀ right ∈ l, ∀ s, Inv s →
      (reads left right s).1 = cmp left right ∧ Inv (reads left right s).2)
    {s : σ} (hs : Inv s) :
    (script.runState reads s).1 = script.run cmp ∧ Inv (script.runState reads s).2 := by
  induction hover generalizing s with
  | done _ => exact ⟨rfl, hs⟩
  | panic => exact ⟨rfl, hs⟩
  | @compare left right next hleft hright _ ih =>
    obtain ⟨hanswer, hinv⟩ := h left hleft right hright s hs
    rw [runState, run, ← hanswer]
    exact ih _ hinv

/-- Whatever the answers are, the result is a permutation. -/
theorem Over.perm_of_runState {reads : α → α → σ → Ordering × σ} (hover : script.Over l) {s : σ}
    {result : List α} (h : (script.runState reads s).1 = some result) : result.Perm l := by
  induction hover generalizing s with
  | done hperm =>
    cases h
    exact hperm
  | panic => cases h
  | compare _ _ _ ih => exact ih _ h

end Script

/-- A stable sort. -/
structure Sorts (sort : List α → Script α) : Prop where
  isOver : ∀ l, (sort l).Over l
  /-- With an order the result is sorted, and equal elements keep their order. -/
  sorted : ∀ l (cmp : α → α → Ordering) [Std.TransCmp cmp],
    (sort l).run cmp = some (l.mergeSort fun a b => (cmp a b).isLE)

/-- A sort depends only on how the elements compare. -/
theorem mergeSort_congr {le le' : α → α → Bool} {l : List α}
    (h : ∀ a ∈ l, ∀ b ∈ l, le a b = le' a b) : l.mergeSort le = l.mergeSort le' := by
  have hmap := @List.map_mergeSort α α le le' id l h
  simpa using hmap

/-! ## Orders from other orders -/

theorem transCmp_on {β : Type*} (f : β → α) (cmp : α → α → Ordering) [Std.TransCmp cmp] :
    Std.TransCmp fun a b => cmp (f a) (f b) where
  eq_swap := Std.OrientedCmp.eq_swap
  isLE_trans := Std.TransCmp.isLE_trans

theorem transCmp_then (cmp cmp' : α → α → Ordering) [Std.TransCmp cmp] [Std.TransCmp cmp'] :
    Std.TransCmp fun a b => (cmp a b).then (cmp' a b) :=
  inferInstanceAs (Std.TransCmp (compareLex cmp cmp'))

/-! ## Insertion sort -/

/-- Insert an element before the first that is not below it, and go on with the list. -/
def insert (a : α) : List α → (List α → Script α) → Script α
  | [], next => next [a]
  | b :: l, next => .compare b a fun answer =>
    if answer = .lt then insert a l fun rest => next (b :: rest) else next (a :: b :: l)

/-- Sort a list by insertion, and go on with the list. -/
def insertAll : List α → (List α → Script α) → Script α
  | [], next => next []
  | a :: l, next => insertAll l fun sorted => insert a sorted next

/-- Insertion from the right. -/
def insertionSort (l : List α) : Script α := insertAll l .done

theorem over_insert {l : List α} {a : α} {sorted : List α} {next : List α → Script α}
    (hmem : ∀ b ∈ a :: sorted, b ∈ l)
    (h : ∀ result : List α, result.Perm (a :: sorted) → (next result).Over l) :
    (insert a sorted next).Over l := by
  induction sorted generalizing next with
  | nil => exact h [a] (List.Perm.refl _)
  | cons b sorted ih =>
    refine .compare (hmem b (by simp)) (hmem a (by simp)) ?_
    intro answer
    split
    · apply ih
      · intro c hc
        rcases List.mem_cons.mp hc with rfl | hc
        · exact hmem c (by simp)
        · exact hmem c (by simp [hc])
      · intro result hresult
        apply h
        exact (hresult.cons b).trans (List.Perm.swap a b sorted)
    · exact h _ (List.Perm.refl _)

theorem over_insertAll {l part : List α} {next : List α → Script α}
    (hmem : ∀ b ∈ part, b ∈ l)
    (h : ∀ result : List α, result.Perm part → (next result).Over l) :
    (insertAll part next).Over l := by
  induction part generalizing next with
  | nil => exact h [] (List.Perm.refl _)
  | cons a part ih =>
    apply ih
    · intro b hb
      exact hmem b (List.mem_cons_of_mem a hb)
    · intro sorted hsorted
      apply over_insert
      · intro b hb
        exact hmem b ((hsorted.cons a).mem_iff.mp hb)
      · intro result hresult
        exact h result (hresult.trans (hsorted.cons a))

section Run

variable (cmp : α → α → Ordering) [Std.TransCmp cmp]

theorem run_insert (a : α) (sorted : List α) (next : List α → Script α) :
    (insert a sorted next).run cmp =
      (next (sorted.orderedInsert (fun a b => (cmp a b).isLE) a)).run cmp := by
  induction sorted generalizing next with
  | nil => rfl
  | cons b sorted ih =>
    rw [insert, Script.run, List.orderedInsert_cons]
    have hswap : (cmp a b).isLE ↔ ¬ cmp b a = .lt := by
      rw [@Std.OrientedCmp.eq_swap _ cmp _ a b]
      cases cmp b a <;> simp
    by_cases hlt : cmp b a = .lt
    · rw [if_pos hlt, ih, if_neg (by simpa [hswap] using hlt)]
    · rw [if_neg hlt, if_pos (hswap.mpr hlt)]

theorem run_insertAll (part : List α) (next : List α → Script α) :
    (insertAll part next).run cmp =
      (next (part.insertionSort fun a b => (cmp a b).isLE)).run cmp := by
  induction part generalizing next with
  | nil => rfl
  | cons a part ih => rw [insertAll, ih, run_insert, List.insertionSort_cons]

end Run

/-- An element is inserted after those it is not below, before those it is below. -/
theorem orderedInsert_append {r : α → α → Prop} [DecidableRel r] {a : α} {front back : List α}
    (hfront : ∀ b ∈ front, ¬ r a b) (hback : ∀ b ∈ back, r a b) :
    (front ++ back).orderedInsert r a = front ++ a :: back := by
  induction front with
  | nil =>
    cases back with
    | nil => rfl
    | cons c back => exact if_pos (hback c List.mem_cons_self)
  | cons b front ih =>
    rw [List.cons_append, List.orderedInsert_cons, if_neg (hfront b List.mem_cons_self),
      ih fun c hc => hfront c (List.mem_cons_of_mem b hc), List.cons_append]

/-- Both sorts are stable, so they agree. -/
theorem insertionSort_eq_mergeSort {le : α → α → Bool} (htrans : ∀ a b c, le a b → le b c → le a c)
    (htotal : ∀ a b, le a b || le b a) (l : List α) :
    l.insertionSort (fun a b => le a b = true) = l.mergeSort le := by
  induction l with
  | nil => simp
  | cons a l ih =>
    obtain ⟨front, back, hcons, hrest, hfront⟩ := List.mergeSort_cons htrans htotal a l
    have hsorted := List.pairwise_mergeSort htrans htotal (a :: l)
    rw [hcons, List.pairwise_append, List.pairwise_cons] at hsorted
    rw [List.insertionSort_cons, ih, hrest, hcons]
    apply orderedInsert_append
    · intro b hb
      simpa using hfront b hb
    · exact hsorted.2.1.1

theorem sorts_insertionSort : Sorts (insertionSort (α := α)) where
  isOver l := over_insertAll (fun _ h => h) fun _ h => .done h
  sorted l cmp _ := by
    rw [insertionSort, run_insertAll, Script.run]
    congr 1
    apply insertionSort_eq_mergeSort
    · intro a b c
      exact Std.TransCmp.isLE_trans
    · intro a b
      rw [@Std.OrientedCmp.eq_swap _ cmp _ b a]
      cases cmp a b <;> rfl

end Comparison
