import Mathlib.Data.List.Nodup
import Mathlib.Data.List.Sublists

/-!
# Fair semaphores

A semaphore hands out permits. Whoever asks for a permit when none is free waits in a line; a
permit that comes back goes to the first in the line, who then takes it at a time of its own.
Whoever gives up leaves the line, or gives back the permit that it was granted and has not taken.

Who holds the permits that were taken is not known to the semaphore.

## Main definitions

- `Semaphore` — the free permits, the line, and those who were granted a permit
- `tryAcquire`, `acquire`, `take`, `leave`, `release` — the operations

## Main results

- `WellFormed.enqueue` and so on — while somebody waits no permit is free
- `total_release` and so on — what an operation does to the permits that are not held
- `line_release` and so on — what an operation does to the line
- `WellFormed.not_mem_granted` — permits are granted in the order of the line
-/

namespace Concurrency

/-- The state of a semaphore. Both lists start with those who have waited for longest. -/
structure Semaphore (ι : Type*) where
  free : ℕ
  waiting : List ι
  granted : List ι
deriving DecidableEq

namespace Semaphore

variable {ι : Type*}

/-- A semaphore with all its permits. -/
def new (permits : ℕ) : Semaphore ι := ⟨permits, [], []⟩

/-- A permit, if one is free. -/
def tryAcquire (s : Semaphore ι) : Option (Semaphore ι) :=
  if 0 < s.free then some { s with free := s.free - 1 } else none

/-- Somebody joins the line. -/
def enqueue (i : ι) (s : Semaphore ι) : Semaphore ι := { s with waiting := s.waiting ++ [i] }

/-- A permit is acquired if one is free, and else waited for. -/
def acquire (i : ι) (s : Semaphore ι) : Bool × Semaphore ι :=
  match s.tryAcquire with
  | some s' => (true, s')
  | none => (false, s.enqueue i)

/-- A permit comes back. -/
def release (s : Semaphore ι) : Semaphore ι :=
  match s.waiting with
  | [] => { s with free := s.free + 1 }
  | i :: rest => { s with waiting := rest, granted := s.granted ++ [i] }

/-- The granted permit is taken. -/
def take [DecidableEq ι] (i : ι) (s : Semaphore ι) : Semaphore ι :=
  { s with granted := s.granted.erase i }

/-- Somebody gives up. -/
def leave [DecidableEq ι] (i : ι) (s : Semaphore ι) : Semaphore ι :=
  if i ∈ s.granted then (s.take i).release else { s with waiting := s.waiting.erase i }

/-- Those who have asked and have not yet got a permit, in the order in which they asked. -/
def line (s : Semaphore ι) : List ι := s.granted ++ s.waiting

/-- The permits that nobody holds. -/
def total (s : Semaphore ι) : ℕ := s.free + s.granted.length

/-- No permit is free while somebody waits, and nobody is in line twice. -/
structure WellFormed (s : Semaphore ι) : Prop where
  busy : s.waiting ≠ [] → s.free = 0
  nodup : s.line.Nodup

/-! ## What an operation can do -/

variable {s s' : Semaphore ι} {i : ι}

theorem tryAcquire_eq_some (h : s.tryAcquire = some s') :
    0 < s.free ∧ s' = { s with free := s.free - 1 } := by
  unfold tryAcquire at h
  split_ifs at h with hfree
  exact ⟨hfree, (Option.some.inj h).symm⟩

theorem tryAcquire_eq_none : s.tryAcquire = none ↔ s.free = 0 := by
  unfold tryAcquire
  split_ifs with hfree
  · exact ⟨fun h => (by cases h), fun h => by omega⟩
  · exact ⟨fun _ => by omega, fun _ => rfl⟩

theorem acquire_cases (i : ι) (s : Semaphore ι) :
    (∃ s', s.tryAcquire = some s' ∧ s.acquire i = (true, s')) ∨
      (s.free = 0 ∧ s.acquire i = (false, s.enqueue i)) := by
  unfold acquire
  cases h : s.tryAcquire with
  | none => exact .inr ⟨tryAcquire_eq_none.mp h, rfl⟩
  | some s' => exact .inl ⟨s', rfl, rfl⟩

theorem release_cases (s : Semaphore ι) :
    (s.waiting = [] ∧ s.release = { s with free := s.free + 1 }) ∨
      ∃ i rest, s.waiting = i :: rest ∧
        s.release = { s with waiting := rest, granted := s.granted ++ [i] } := by
  unfold release
  split
  · next h => exact .inl ⟨h, rfl⟩
  · next i rest h => exact .inr ⟨i, rest, h, rfl⟩

/-! ## The line -/

theorem line_tryAcquire (hs : s.tryAcquire = some s') : s'.line = s.line := by
  obtain ⟨-, rfl⟩ := tryAcquire_eq_some hs
  rfl

theorem line_enqueue (i : ι) (s : Semaphore ι) : (s.enqueue i).line = s.line ++ [i] :=
  (List.append_assoc ..).symm

theorem line_release (s : Semaphore ι) : s.release.line = s.line := by
  obtain ⟨-, heq⟩ | ⟨i, rest, hwaiting, heq⟩ := release_cases s <;> rw [heq]
  · rfl
  · rw [line, line, hwaiting, List.append_assoc]
    rfl

theorem line_take [DecidableEq ι] (hi : i ∈ s.granted) : (s.take i).line = s.line.erase i := by
  rw [line, line, List.erase_append_left _ hi]
  rfl

theorem line_leave [DecidableEq ι] (i : ι) (s : Semaphore ι) :
    (s.leave i).line = s.line.erase i := by
  unfold leave
  split_ifs with hi
  · rw [line_release, line_take hi]
  · rw [line, line, List.erase_append_right _ hi]

/-! ## Permits -/

theorem total_tryAcquire (hs : s.tryAcquire = some s') : s'.total + 1 = s.total := by
  obtain ⟨hfree, rfl⟩ := tryAcquire_eq_some hs
  unfold total
  dsimp only
  omega

theorem total_release (s : Semaphore ι) : s.release.total = s.total + 1 := by
  obtain ⟨-, heq⟩ | ⟨i, rest, -, heq⟩ := release_cases s <;> rw [heq] <;> unfold total <;>
    dsimp only
  · omega
  · rw [List.length_append, List.length_singleton]
    omega

theorem total_take [DecidableEq ι] (hi : i ∈ s.granted) : (s.take i).total + 1 = s.total := by
  have hlength := List.length_erase_of_mem hi
  have hpos := List.length_pos_of_mem hi
  unfold total take
  dsimp only
  omega

/-- Giving up keeps the permits. -/
theorem total_leave [DecidableEq ι] (i : ι) (s : Semaphore ι) : (s.leave i).total = s.total := by
  unfold leave
  split_ifs with hi
  · rw [total_release, total_take hi]
  · rfl

/-! ## The invariant -/

theorem wellFormed_new (permits : ℕ) : WellFormed (new permits : Semaphore ι) :=
  ⟨fun h => absurd rfl h, List.nodup_nil⟩

theorem WellFormed.tryAcquire (h : WellFormed s) (hs : s.tryAcquire = some s') :
    WellFormed s' := by
  obtain ⟨hfree, rfl⟩ := tryAcquire_eq_some hs
  exact ⟨fun hwaiting => absurd (h.busy hwaiting) (by omega), h.nodup⟩

theorem WellFormed.enqueue (h : WellFormed s) (hfree : s.free = 0) (hi : i ∉ s.line) :
    WellFormed (s.enqueue i) := by
  refine ⟨fun _ => hfree, ?_⟩
  rw [line_enqueue]
  exact h.nodup.append (List.nodup_singleton i) (by simpa using hi)

theorem WellFormed.release (h : WellFormed s) : WellFormed s.release := by
  refine ⟨?_, by rw [line_release]; exact h.nodup⟩
  obtain ⟨hwaiting, heq⟩ | ⟨i, rest, hwaiting, heq⟩ := release_cases s <;> rw [heq]
  · exact fun hne => absurd hwaiting hne
  · exact fun _ => h.busy (by rw [hwaiting]; exact List.cons_ne_nil i rest)

theorem WellFormed.take [DecidableEq ι] (h : WellFormed s) (hi : i ∈ s.granted) :
    WellFormed (s.take i) :=
  ⟨h.busy, by rw [line_take hi]; exact h.nodup.erase i⟩

theorem WellFormed.leave [DecidableEq ι] (h : WellFormed s) (i : ι) : WellFormed (s.leave i) := by
  refine ⟨?_, by rw [line_leave]; exact h.nodup.erase i⟩
  unfold Semaphore.leave
  split_ifs with hi
  · exact (h.take hi).release.busy
  · exact fun hne => h.busy fun hnil => hne (by simp only [hnil, List.erase_nil])

/-! ## Order -/

theorem waiting_tryAcquire (hs : s.tryAcquire = some s') : s'.waiting = s.waiting := by
  obtain ⟨-, rfl⟩ := tryAcquire_eq_some hs
  rfl

theorem waiting_release_subset (s : Semaphore ι) : s.release.waiting ⊆ s.waiting := by
  obtain ⟨hwaiting, heq⟩ | ⟨i, rest, hwaiting, heq⟩ := release_cases s <;> rw [heq]
  · exact List.Subset.refl _
  · rw [hwaiting]
    exact List.subset_cons_self i rest

theorem waiting_leave_subset [DecidableEq ι] (i : ι) (s : Semaphore ι) :
    (s.leave i).waiting ⊆ s.waiting := by
  unfold leave
  split_ifs
  · exact waiting_release_subset (s.take i)
  · exact List.erase_subset

/-- While somebody waits nobody can take a free permit. -/
theorem WellFormed.not_mem_waiting (h : WellFormed s) (hs : s.tryAcquire = some s') :
    i ∉ s.waiting := by
  intro hi
  have hfree := h.busy (List.ne_nil_of_mem hi)
  rw [tryAcquire_eq_none.mpr hfree] at hs
  cases hs

/-- Permits are granted in the order of the line: while the first of two waits, the second has not
been granted one. -/
theorem WellFormed.not_mem_granted {j : ι} (h : WellFormed s) (hi : i ∈ s.waiting)
    (hbehind : j ∈ s.line → [i, j].Sublist s.line) : j ∉ s.granted := by
  intro hj
  obtain ⟨-, -, hdisjoint⟩ := List.nodup_append'.mp h.nodup
  obtain ⟨first, second, hsplit, hgranted, hwaiting⟩ :=
    List.sublist_append_iff.mp (hbehind (List.mem_append_left _ hj))
  cases first with
  | nil =>
    -- the second waits as well
    rw [List.nil_append] at hsplit
    have hmem : j ∈ second := hsplit ▸ List.mem_cons_of_mem i (List.mem_singleton_self j)
    exact hdisjoint hj (hwaiting.subset hmem)
  | cons k first =>
    -- the first was granted one
    obtain ⟨rfl, -⟩ := List.cons.inj hsplit
    exact hdisjoint (hgranted.subset List.mem_cons_self) hi

end Semaphore

end Concurrency
