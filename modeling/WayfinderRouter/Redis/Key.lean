import Mathlib.Algebra.Ring.Nat
import Mathlib.Data.Option.Basic
import Mathlib.Data.Nat.Basic
import Mathlib.Data.Int.Basic
import Mathlib.Tactic.Common

/-!
# Volatile keys

One key of a server that expires keys: absent, or holding a value together with
the deadline the last `PEXPIRE` gave it. A key whose deadline has come is absent
for every command, which is what `Key.live` says.

Times and deadlines are server milliseconds.

## Main definitions

- `Key` — an optional value with an optional deadline
- `Key.live` — the key as a command at a given time finds it
- `Key.write`, `Key.shrink` — the two ways a command changes the value
- `Key.pexpire`, `Key.pttl` — the expiry commands
-/

namespace Redis

/-- A stored value and the deadline of its key, if it has one. -/
structure Stored (α : Type*) where
  value : α
  deadline : Option ℕ
deriving DecidableEq, Repr

/-- One key: absent, or holding a value. -/
abbrev Key (α : Type*) := Option (Stored α)

namespace Key

variable {α : Type*} {now : ℕ}

/-- The stored value. -/
def value? (k : Key α) : Option α := k.map Stored.value

/-- The deadline of the key, when it exists and has one. -/
def deadline? (k : Key α) : Option ℕ := k.bind Stored.deadline

/-- The deadline of the key has come. -/
def Lapsed (now : ℕ) (k : Key α) : Prop := ∃ d ∈ k.deadline?, d ≤ now

instance (k : Key α) : Decidable (Lapsed now k) :=
  match h : k.deadline? with
  | none => isFalse fun ⟨_, hd, _⟩ => by simp [h] at hd
  | some d => decidable_of_iff (d ≤ now) (by simp [Lapsed, h])

/-- The key as a command at time `now` finds it: a key is deleted at its deadline. -/
def live (now : ℕ) (k : Key α) : Key α := if k.Lapsed now then none else k

/-- A command that creates the key when it is absent. A new key has no deadline and
a write leaves the deadline as it is. -/
def write [Inhabited α] (f : α → α) (k : Key α) : Key α :=
  some ⟨f (k.value?.getD default), k.deadline?⟩

/-- A command that removes elements. The server deletes a collection that becomes empty. -/
def shrink (f : α → α) (empty : α → Bool) (k : Key α) : Key α :=
  match k with
  | none => none
  | some s => if empty (f s.value) then none else some { s with value := f s.value }

/-- `PEXPIRE`: the deadline becomes `now + ttl`. -/
def pexpire (now ttl : ℕ) (k : Key α) : Key α :=
  k.map fun s => { s with deadline := some (now + ttl) }

/-- `PEXPIRE` fails when the new deadline does not fit a signed 64-bit integer. -/
def Expirable (now ttl : ℕ) : Prop := now + ttl < 2 ^ 63

theorem Expirable.of_le {now now' ttl : ℕ} (hle : now ≤ now') (h : Expirable now' ttl) :
    Expirable now ttl :=
  lt_of_le_of_lt (Nat.add_le_add_right hle ttl) h

instance (now ttl : ℕ) : Decidable (Expirable now ttl) :=
  inferInstanceAs (Decidable (now + ttl < 2 ^ 63))

/-- `PTTL`: -2 for an absent key, -1 for a key without a deadline. -/
def pttl (now : ℕ) (k : Key α) : ℤ :=
  match k with
  | none => -2
  | some s => match s.deadline with
    | none => -1
    | some d => (d : ℤ) - now

@[simp] theorem value?_none : Key.value? (none : Key α) = none := rfl

@[simp] theorem value?_some (s : Stored α) : Key.value? (some s) = some s.value := rfl

@[simp] theorem deadline?_none : Key.deadline? (none : Key α) = none := rfl

@[simp] theorem deadline?_some (s : Stored α) : Key.deadline? (some s) = s.deadline := rfl

@[simp] theorem live_none : live now (none : Key α) = none := by simp [live]

theorem live_of_lapsed {k : Key α} (h : k.Lapsed now) : k.live now = none := if_pos h

theorem live_of_not_lapsed {k : Key α} (h : ¬k.Lapsed now) : k.live now = k := if_neg h

theorem not_lapsed_of_deadline?_eq_none {k : Key α} (h : k.deadline? = none) :
    ¬k.Lapsed now := by
  rintro ⟨d, hd, _⟩
  simp [h] at hd

@[simp] theorem lapsed_none : ¬Key.Lapsed now (none : Key α) :=
  not_lapsed_of_deadline?_eq_none rfl

/-- A key is alive as long as its deadline lies ahead. -/
theorem not_lapsed_of_lt {k : Key α} {d : ℕ} (h : k.deadline? = some d) (hlt : now < d) :
    ¬k.Lapsed now := by
  rintro ⟨d', hd, hle⟩
  rw [h, Option.mem_some_iff] at hd
  omega

theorem lapsed_iff {k : Key α} {d : ℕ} (h : k.deadline? = some d) :
    k.Lapsed now ↔ d ≤ now := by
  simp [Lapsed, h]

theorem not_lapsed_live (k : Key α) : ¬(k.live now).Lapsed now := by
  by_cases h : k.Lapsed now
  · simp [live_of_lapsed h]
  · rwa [live_of_not_lapsed h]

@[simp] theorem live_live (k : Key α) : (k.live now).live now = k.live now :=
  live_of_not_lapsed (not_lapsed_live k)

section Write

variable [Inhabited α] (f : α → α) (k : Key α)

@[simp] theorem value?_write : (k.write f).value? = some (f (k.value?.getD default)) := rfl

@[simp] theorem deadline?_write : (k.write f).deadline? = k.deadline? := rfl

end Write

section Shrink

variable (f : α → α) (empty : α → Bool)

@[simp] theorem shrink_none : shrink f empty (none : Key α) = none := rfl

theorem deadline?_shrink {k : Key α} {d : ℕ} (h : (k.shrink f empty).deadline? = some d) :
    k.deadline? = some d := by
  cases k with
  | none => simp at h
  | some s => cases he : empty (f s.value) <;> simp_all [shrink]

/-- A key that survives the removal keeps its deadline. -/
theorem deadline?_shrink_of_value? {k : Key α} (h : (k.shrink f empty).value? ≠ none) :
    (k.shrink f empty).deadline? = k.deadline? := by
  cases k with
  | none => rfl
  | some s => cases he : empty (f s.value) <;> simp_all [shrink]

end Shrink

@[simp] theorem value?_pexpire (ttl : ℕ) (k : Key α) :
    (k.pexpire now ttl).value? = k.value? := by
  cases k <;> rfl

theorem deadline?_pexpire {ttl : ℕ} {k : Key α} (h : k.value? ≠ none) :
    (k.pexpire now ttl).deadline? = some (now + ttl) := by
  cases k with
  | none => exact absurd rfl h
  | some s => rfl

theorem pttl_neg_iff {k : Key α} (h : ¬k.Lapsed now) :
    k.pttl now < 0 ↔ k.deadline? = none := by
  rcases k with _ | ⟨a, _ | d⟩
  · simp [pttl]
  · simp [pttl]
  · rw [lapsed_iff (d := d) rfl] at h
    simp only [pttl, deadline?_some, reduceCtorEq, iff_false]
    omega

end Key

end Redis
