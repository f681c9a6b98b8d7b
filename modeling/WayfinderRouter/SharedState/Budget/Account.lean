import WayfinderRouter.SharedState.Budget.Model

/-!
# The commands on one account

What taking a reservation out and entering one do to the three keys of a ledger, stated on
what a reader sees: the amount and the deadline of a request, the reserved total, and the
expiry of the keys.

## Main definitions

- `Account.pending` — the amounts that the account has stored
- `Account.Fresh` — neither the ledger nor the amounts have lapsed
-/

namespace WayfinderRouter.Budget.Account

open Redis

/-- The sum of the stored amounts. -/
def pending (a : Account) : ℤ := a.amounts.hash.sumBy id

/-- The ledger and the amounts have not lapsed. -/
def Fresh (now : ℕ) (a : Account) : Prop := ¬a.ledger.Lapsed now ∧ ¬a.amounts.Lapsed now

variable {a : Account} {now : ℕ} {requestId other : String}

/-- The amount that taking the reservation out gives back. -/
def refund (requestId : String) (a : Account) : ℤ := (a.amounts.hget requestId).getD 0

theorem drop_of_pos (hpos : 0 < a.refund requestId) :
    a.drop requestId = ⟨(a.addReserved (-a.refund requestId)).ledger,
      a.reservations.zrem requestId, a.amounts.hdel requestId⟩ := by
  simp only [drop]
  rw [if_pos (show 0 < (a.amounts.hget requestId).getD 0 from hpos)]
  rfl

theorem drop_of_nonpos (hnonpos : ¬0 < a.refund requestId) :
    a.drop requestId = ⟨a.ledger, a.reservations.zrem requestId, a.amounts⟩ := by
  simp only [drop]
  rw [if_neg (show ¬0 < (a.amounts.hget requestId).getD 0 from hnonpos)]

theorem reservations_drop : (a.drop requestId).reservations = a.reservations.zrem requestId := by
  by_cases hpos : 0 < a.refund requestId
  · rw [drop_of_pos hpos]
  · rw [drop_of_nonpos hpos]

theorem zscore_drop : (a.drop requestId).reservations.zscore other =
    if other = requestId then none else a.reservations.zscore other := by
  rw [reservations_drop]
  exact Key.hget_hdel requestId other a.reservations

theorem hget_drop_of_ne (hne : other ≠ requestId) :
    (a.drop requestId).amounts.hget other = a.amounts.hget other := by
  by_cases hpos : 0 < a.refund requestId
  · rw [drop_of_pos hpos, Key.hget_hdel, if_neg hne]
  · rw [drop_of_nonpos hpos]

/-- Only an amount that is not positive stays behind. -/
theorem hget_drop_self {amount : ℤ}
    (hamount : (a.drop requestId).amounts.hget requestId = some amount) : amount ≤ 0 := by
  by_cases hpos : 0 < a.refund requestId
  · rw [drop_of_pos hpos, Key.hget_hdel, if_pos rfl] at hamount
    simp at hamount
  · rw [drop_of_nonpos hpos] at hamount
    rw [refund, show a.amounts.hget requestId = some amount from hamount] at hpos
    exact not_lt.mp hpos

theorem counters_addReserved (delta : ℤ) : (a.addReserved delta).counters =
    { a.counters with reservedMicros := a.counters.reservedMicros + delta } := rfl

/-- The reserved total and the stored amounts change together. -/
theorem reserved_drop : (a.drop requestId).counters.reservedMicros - (a.drop requestId).pending =
    a.counters.reservedMicros - a.pending := by
  by_cases hpos : 0 < a.refund requestId
  · rw [drop_of_pos hpos]
    have hsum : (a.amounts.hdel requestId).hash.sumBy id = a.pending - a.refund requestId := by
      rw [Key.hash_hdel, Hash.sumBy_del, pending, refund, Key.hget]
      cases a.amounts.hash.get requestId <;> rfl
    have hledger : (a.addReserved (-a.refund requestId)).counters.reservedMicros =
        a.counters.reservedMicros + -a.refund requestId := rfl
    change (a.addReserved (-a.refund requestId)).counters.reservedMicros -
      (a.amounts.hdel requestId).hash.sumBy id = _
    rw [hsum, hledger]
    ring
  · rw [drop_of_nonpos hpos]
    rfl

theorem realized_drop :
    (a.drop requestId).counters.realizedMicros = a.counters.realizedMicros := by
  by_cases hpos : 0 < a.refund requestId
  · rw [drop_of_pos hpos]
    rfl
  · rw [drop_of_nonpos hpos]
    rfl

theorem deadline?_ledger_drop : (a.drop requestId).ledger.deadline? = a.ledger.deadline? := by
  by_cases hpos : 0 < a.refund requestId
  · rw [drop_of_pos hpos]
    rfl
  · rw [drop_of_nonpos hpos]

theorem deadline?_reservations_drop (h : (a.drop requestId).reservations.zscore other ≠ none) :
    (a.drop requestId).reservations.deadline? = a.reservations.deadline? := by
  rw [reservations_drop] at h ⊢
  exact Key.deadline?_hdel_of_hget h

theorem deadline?_amounts_drop (h : (a.drop requestId).amounts.hget other ≠ none) :
    (a.drop requestId).amounts.deadline? = a.amounts.deadline? := by
  by_cases hpos : 0 < a.refund requestId
  · rw [drop_of_pos hpos] at h ⊢
    exact Key.deadline?_hdel_of_hget h
  · rw [drop_of_nonpos hpos]

theorem Fresh.drop (fresh : a.Fresh now) (requestId : String) : (a.drop requestId).Fresh now := by
  refine ⟨?_, ?_⟩
  · rintro ⟨d, hd, hle⟩
    rw [deadline?_ledger_drop] at hd
    exact fresh.1 ⟨d, hd, hle⟩
  · by_cases hpos : 0 < a.refund requestId
    · rw [drop_of_pos hpos]
      rintro ⟨d, hd, hle⟩
      exact fresh.2 ⟨d, Key.deadline?_shrink _ _ hd, hle⟩
    · rw [drop_of_nonpos hpos]
      exact fresh.2

theorem fresh_live (a : Account) : (a.live now).Fresh now :=
  ⟨Key.not_lapsed_live _, Key.not_lapsed_live _⟩

/-- What every single removal keeps, the purge keeps. -/
theorem purge_keeps {Q : Account → Prop} (start : Q a)
    (round : ∀ requestId score, a.reservations.zscore requestId = some score → score ≤ now →
      ∀ b, Q b → Q (b.drop requestId)) : Q (a.purge now) := by
  have hloop : ∀ ids : List String,
      (∀ id ∈ ids, ∃ score ≤ now, a.reservations.zscore id = some score) →
      ∀ b, Q b → Q (ids.foldl (fun b id => b.drop id) b) := by
    intro ids
    induction ids with
    | nil => exact fun _ _ hb => hb
    | cons id ids ih =>
      intro hids b hb
      obtain ⟨score, hle, hscore⟩ := hids id List.mem_cons_self
      exact ih (fun j hj => hids j (List.mem_cons_of_mem _ hj)) _ (round id score hscore hle b hb)
  exact hloop _ (fun id hid => Key.mem_zrangebyscore.mp hid) a start

/-- The reservations that the purge leaves are those whose deadline lies ahead. -/
theorem zscore_purge : (a.purge now).reservations.zscore other =
    (a.reservations.zscore other).filter fun score => decide (now < score) := by
  have hloop : ∀ (ids : List String) (b : Account),
      (ids.foldl (fun b id => b.drop id) b).reservations.zscore other =
        if other ∈ ids then none else b.reservations.zscore other := by
    intro ids
    induction ids with
    | nil => exact fun b => by simp
    | cons id ids ih =>
      intro b
      rw [List.foldl_cons, ih, zscore_drop]
      by_cases hid : other = id <;> by_cases hids : other ∈ ids <;> simp [hid, hids]
  rw [purge, hloop]
  simp only [Key.mem_zrangebyscore]
  cases hscore : a.reservations.zscore other with
  | none => simp
  | some score =>
    by_cases hle : score ≤ now
    · simp [hle, Option.filter, not_lt.mpr hle]
    · simp [hle, Option.filter, not_le.mp hle]

section Charge

variable {amount : ℤ} {ledgerTtlMs ttlMs : ℕ}

theorem zscore_charge :
    (a.charge requestId amount ledgerTtlMs ttlMs now).reservations.zscore other =
      if other = requestId then some (now + ttlMs) else a.reservations.zscore other := by
  rw [Key.zscore, charge, Key.hget_pexpire]
  exact Key.hget_hset requestId other (now + ttlMs) a.reservations

theorem hget_charge :
    (a.charge requestId amount ledgerTtlMs ttlMs now).amounts.hget other =
      if other = requestId then some amount else a.amounts.hget other := by
  rw [charge, Key.hget_pexpire]
  exact Key.hget_hset requestId other amount a.amounts

theorem counters_charge : (a.charge requestId amount ledgerTtlMs ttlMs now).counters =
    (a.addReserved amount).counters := by
  rw [counters, charge]
  dsimp only
  split
  · rw [Key.value?_pexpire]
    rfl
  · rfl

theorem pending_charge (hnew : a.amounts.hget requestId = none) :
    (a.charge requestId amount ledgerTtlMs ttlMs now).pending = a.pending + amount := by
  rw [pending, charge]
  dsimp only
  rw [Key.hash_pexpire, Key.hash_hset, Hash.sumBy_set,
    show a.amounts.hash.get requestId = none from hnew, Option.elim_none, sub_zero]
  rfl

theorem deadline?_reservations_charge :
    (a.charge requestId amount ledgerTtlMs ttlMs now).reservations.deadline? = some (now + ttlMs) :=
  Key.deadline?_hset_pexpire now ttlMs requestId (now + ttlMs) a.reservations

theorem deadline?_amounts_charge :
    (a.charge requestId amount ledgerTtlMs ttlMs now).amounts.deadline? = some (now + ttlMs) :=
  Key.deadline?_hset_pexpire now ttlMs requestId amount a.amounts

theorem not_lapsed_ledger_charge (hledger : ¬a.ledger.Lapsed now) :
    ¬(a.charge requestId amount ledgerTtlMs ttlMs now).ledger.Lapsed now := by
  rw [charge]
  dsimp only
  split
  · next hexpire =>
    rw [Key.lapsed_iff (Key.deadline?_pexpire (by simp [addReserved]))]
    omega
  · exact hledger

end Charge

section Record

variable {args : RecordArgs} {retention : Option ℕ}

theorem counters_record :
    (a.record args retention now).counters = (a.live now).counters.record args := by
  cases retention with
  | none => rfl
  | some seconds =>
    simp only [counters, record, Key.value?_pexpire]
    rfl

theorem deadline?_ledger_record : (a.record args retention now).ledger.deadline? =
    match retention with
    | none => (a.live now).ledger.deadline?
    | some seconds => some (now + seconds * 1000) := by
  cases retention with
  | none => rfl
  | some seconds =>
    simp only [record]
    exact Key.deadline?_pexpire (by rw [Key.value?_write]; simp)

theorem fresh_record (hretention : ∀ seconds ∈ retention, 0 < seconds) :
    (a.record args retention now).Fresh now := by
  refine ⟨?_, Key.not_lapsed_live _⟩
  rintro ⟨d, hd, hle⟩
  rw [deadline?_ledger_record] at hd
  cases retention with
  | none => exact Key.not_lapsed_live a.ledger ⟨d, hd, hle⟩
  | some seconds =>
    have := hretention seconds rfl
    have := Option.some.inj hd
    omega

end Record

end WayfinderRouter.Budget.Account
