import WayfinderRouter.SharedState.Budget.Calls

/-!
# The reserved total of a ledger

`outstanding` is the fleet's own view of a ledger, read off the calls and their replies:
which reservations were granted there, with which amount and when, and not released since.
At the end of a reserve the reserved total of each of its ledgers should be the sum of the
outstanding amounts whose deadline lies ahead.

The total and the reservations live in keys with different expiries, so the two can lose
touch. `Orderly` leaves out the calls at which they do: one that touches a ledger with
stored amounts when only one of its keys has lapsed, one that charges a ledger twice, and
one that takes the leftover of a reservation of 0 for the reservation itself.

## Main definitions

- `outstanding`, `liveReserved` — the reservations of a ledger, from the history
- `Orderly` — the calls that keep the three keys together
- `Tracks` — the account against the outstanding reservations
-/

namespace WayfinderRouter.Budget

open Redis Timed

/-- A granted reservation: its amount and the time of the grant. -/
structure Grant where
  amount : ℤ
  time : ℕ

/-- The reservation has not reached its deadline. -/
def Grant.alive (now : ℕ) (g : Grant) : Bool := decide (now < g.time + reservationTtlMs)

theorem Grant.alive_iff {now : ℕ} {g : Grant} : g.alive now ↔ now < g.time + reservationTtlMs :=
  decide_eq_true_iff

/-- What one call makes of the reservations of a ledger: a grant enters one, unless the same
reservation is still alive, and a release takes it out. -/
def observe (ledger : LedgerId) (e : Event ℕ Call Reply) (o : Hash String Grant) :
    Hash String Grant :=
  match e.call with
  | .recordCost _ => o
  | .reserve r =>
    match reserveArgs r with
    | .error _ => o
    | .ok args =>
      if e.reply = .reserved (.ok true) ∧ ledger ∈ args.ledgers ∧
          ¬(o.get args.requestId).any (Grant.alive e.time) then
        o.set args.requestId ⟨args.amount, e.time⟩
      else o
  | .release r =>
    match releaseLedgers r with
    | .error _ => o
    | .ok ledgers => if ledger ∈ ledgers then o.del r.requestId else o

/-- The reservations of a ledger that were granted and not released. -/
def outstanding (ledger : LedgerId) : List (Event ℕ Call Reply) → Hash String Grant
  | [] => ∅
  | e :: h => observe ledger e (outstanding ledger h)

/-- The sum of the outstanding reservations of a ledger that have not reached their deadline. -/
def liveReserved (ledger : LedgerId) (now : ℕ) (h : List (Event ℕ Call Reply)) : ℤ :=
  ((outstanding ledger h).filter (Grant.alive now)).sumBy Grant.amount

/-- With stored amounts, the ledger and the amounts have both lapsed or neither has. -/
def InStep (now : ℕ) (a : Account) : Prop :=
  0 < a.pending → (a.ledger.Lapsed now ↔ a.amounts.Lapsed now)

instance (now : ℕ) (a : Account) : Decidable (InStep now a) :=
  inferInstanceAs (Decidable (0 < a.pending → (a.ledger.Lapsed now ↔ a.amounts.Lapsed now)))

/-- The calls that keep the keys of a ledger together. -/
def Orderly (_ : List (Event ℕ Call Reply)) (s : State) (now : ℕ) : Call → Prop
  | .recordCost o => ∀ args, recordArgs o = .ok args →
    ∀ ledger ∈ args.ledgers.map Prod.fst, InStep now (s.accounts ledger)
  | .release r => ∀ ledgers, releaseLedgers r = .ok ledgers →
    ∀ ledger ∈ ledgers, InStep now (s.accounts ledger)
  | .reserve r => ∀ args, reserveArgs r = .ok args →
    (∀ ledger ∈ args.ledgers, InStep now (s.accounts ledger)) ∧
    (verdict args (purgeAll now args.ledgers s.accounts) = .charged → args.ledgers.Nodup) ∧
    (verdict args (purgeAll now args.ledgers s.accounts) = .repeated →
      ∀ ledger ∈ args.ledgers, (purgeAll now args.ledgers s.accounts ledger).reservations.zscore
        args.requestId ≠ none)

/-- The account against the outstanding reservations `o`, up to time `clock`: every stored
deadline belongs to an outstanding reservation whose amount is stored, every positive amount
has a deadline, and the reserved total is the sum of the stored amounts. -/
structure Tracks (clock : ℕ) (o : Hash String Grant) (a : Account) : Prop where
  scored : ∀ id score, a.reservations.zscore id = some score →
    ∃ g, o.get id = some g ∧ score = g.time + reservationTtlMs ∧ g.time ≤ clock ∧
      a.amounts.hget id = some g.amount
  positive : ∀ id amount, a.amounts.hget id = some amount → 0 < amount →
    a.reservations.zscore id ≠ none
  nonneg : ∀ id amount, a.amounts.hget id = some amount → 0 ≤ amount
  stored : ∀ id g, o.get id = some g →
    a.reservations.zscore id = some (g.time + reservationTtlMs) ∨ ¬g.alive clock
  deadline : ∀ id score, a.reservations.zscore id = some score →
    ∃ d, a.reservations.deadline? = some d ∧ a.amounts.deadline? = some d ∧ score ≤ d
  balance : a.counters.reservedMicros = a.pending

section Account

variable {clock now : ℕ} {o : Hash String Grant} {a : Account}

theorem tracks_empty (clock : ℕ) : Tracks clock ∅ {} := by
  refine ⟨?_, ?_, ?_, ?_, ?_, rfl⟩
  · simp [Key.zscore]
  · simp
  · simp
  · simp
  · simp [Key.zscore]

theorem Tracks.mono (tr : Tracks clock o a) (hle : clock ≤ now) : Tracks now o a := by
  refine ⟨fun id score hscore => ?_, tr.positive, tr.nonneg, fun id g hg => ?_, tr.deadline,
    tr.balance⟩
  · obtain ⟨g, hg, hscore', htime, hamount⟩ := tr.scored id score hscore
    exact ⟨g, hg, hscore', htime.trans hle, hamount⟩
  · refine (tr.stored id g hg).imp_right fun hdead => ?_
    rw [Grant.alive_iff] at hdead ⊢
    omega

theorem Tracks.pending_nonneg (tr : Tracks clock o a) : 0 ≤ a.pending := by
  refine Hash.sumBy_nonneg_of_get fun id => ?_
  cases hamount : a.amounts.hash.get id with
  | none => exact le_rfl
  | some amount => exact tr.nonneg id amount hamount

/-- Reservations and amounts lapse together. -/
theorem Tracks.lapsed_iff (tr : Tracks clock o a) {id : String} {score : ℕ}
    (hscore : a.reservations.zscore id = some score) :
    a.reservations.Lapsed now ↔ a.amounts.Lapsed now := by
  obtain ⟨d, hd, hd', _⟩ := tr.deadline id score hscore
  rw [Key.lapsed_iff hd, Key.lapsed_iff hd']

theorem Tracks.balance_live (tr : Tracks clock o a) (inStep : InStep now a) :
    (a.live now).counters.reservedMicros = (a.live now).pending := by
  have hledger : (a.live now).counters.reservedMicros =
      if a.ledger.Lapsed now then 0 else a.counters.reservedMicros := by
    simp only [Account.counters, Account.live, Key.live]
    split <;> rfl
  have hamounts : (a.live now).pending = if a.amounts.Lapsed now then 0 else a.pending := by
    simp only [Account.pending, Account.live, Key.live]
    split <;> rfl
  rw [hledger, hamounts, tr.balance]
  rcases tr.pending_nonneg.eq_or_lt with hzero | hpos
  · rw [← hzero]
    split <;> split <;> rfl
  · simp only [inStep hpos]

/-- Dropping lapsed keys keeps an account that is in step. -/
theorem Tracks.live (tr : Tracks clock o a) (hle : clock ≤ now) (inStep : InStep now a) :
    Tracks now o (a.live now) := by
  have tr' := tr.mono hle
  have hscored : ∀ id score, (a.live now).reservations.zscore id = some score →
      a.reservations.zscore id = some score ∧ (a.live now).reservations = a.reservations ∧
        (a.live now).amounts = a.amounts := by
    intro id score hscore
    obtain ⟨hscore, hl⟩ := Key.zscore_of_live hscore
    exact ⟨hscore, Key.live_of_not_lapsed hl,
      Key.live_of_not_lapsed fun hl' => hl ((tr.lapsed_iff hscore).mpr hl')⟩
  have hstored : ∀ id amount, (a.live now).amounts.hget id = some amount →
      a.amounts.hget id = some amount ∧ ¬a.amounts.Lapsed now := by
    intro id amount hamount
    by_cases hl : a.amounts.Lapsed now
    · rw [Account.live, Key.live_of_lapsed hl] at hamount
      simp at hamount
    · rw [Account.live, Key.live_of_not_lapsed hl] at hamount
      exact ⟨hamount, hl⟩
  refine ⟨?_, ?_, ?_, ?_, ?_, tr.balance_live inStep⟩
  · intro id score hscore
    obtain ⟨hscore, _, hamounts⟩ := hscored id score hscore
    rw [hamounts]
    exact tr'.scored id score hscore
  · intro id amount hamount hpos
    obtain ⟨hamount, hl⟩ := hstored id amount hamount
    obtain ⟨score, hscore⟩ := Option.ne_none_iff_exists'.mp (tr.positive id amount hamount hpos)
    have hl' : ¬a.reservations.Lapsed now := fun hl' => hl ((tr.lapsed_iff hscore).mp hl')
    rw [Account.live, Key.live_of_not_lapsed hl', hscore]
    simp
  · intro id amount hamount
    exact tr.nonneg id amount (hstored id amount hamount).1
  · intro id g hg
    rcases tr'.stored id g hg with hscore | hdead
    · by_cases hl : a.reservations.Lapsed now
      · obtain ⟨d, hd, _, hle⟩ := tr.deadline id _ hscore
        refine .inr ?_
        have := (Key.lapsed_iff hd).mp hl
        rw [Grant.alive_iff]
        omega
      · rw [Account.live, Key.live_of_not_lapsed hl]
        exact .inl hscore
    · exact .inr hdead
  · intro id score hscore
    obtain ⟨hscore, hreservations, hamounts⟩ := hscored id score hscore
    rw [hreservations, hamounts]
    exact tr.deadline id score hscore

/-- Taking out a reservation that is released or has reached its deadline. -/
theorem Tracks.drop (tr : Tracks clock o a) {o' : Hash String Grant} {requestId : String}
    (hother : ∀ id, id ≠ requestId → o'.get id = o.get id)
    (hself : ∀ g, o'.get requestId = some g → ¬g.alive clock) :
    Tracks clock o' (a.drop requestId) := by
  have hscored : ∀ id score, (a.drop requestId).reservations.zscore id = some score →
      id ≠ requestId ∧ a.reservations.zscore id = some score := by
    intro id score hscore
    rw [Account.zscore_drop] at hscore
    split at hscore
    · simp at hscore
    · next hne => exact ⟨hne, hscore⟩
  refine ⟨?_, ?_, ?_, ?_, ?_, ?_⟩
  · intro id score hscore
    obtain ⟨hne, hscore⟩ := hscored id score hscore
    rw [hother id hne, Account.hget_drop_of_ne hne]
    exact tr.scored id score hscore
  · intro id amount hamount hpos
    have hne : id ≠ requestId := by
      rintro rfl
      exact absurd (Account.hget_drop_self hamount) (not_le.mpr hpos)
    rw [Account.hget_drop_of_ne hne] at hamount
    rw [Account.zscore_drop, if_neg hne]
    exact tr.positive id amount hamount hpos
  · intro id amount hamount
    by_cases hid : id = requestId
    · subst hid
      by_cases hpos : 0 < a.refund id
      · rw [Account.drop_of_pos hpos, Key.hget_hdel, if_pos rfl] at hamount
        simp at hamount
      · rw [Account.drop_of_nonpos hpos] at hamount
        exact tr.nonneg id amount hamount
    · rw [Account.hget_drop_of_ne hid] at hamount
      exact tr.nonneg id amount hamount
  · intro id g hg
    by_cases hid : id = requestId
    · subst hid
      exact .inr (hself g hg)
    · rw [hother id hid] at hg
      rw [Account.zscore_drop, if_neg hid]
      exact tr.stored id g hg
  · intro id score hscore
    obtain ⟨hne, hscore'⟩ := hscored id score hscore
    obtain ⟨g, _, _, _, hamount⟩ := tr.scored id score hscore'
    have hkept : (a.drop requestId).amounts.hget id ≠ none := by
      rw [Account.hget_drop_of_ne hne, hamount]
      simp
    rw [Account.deadline?_reservations_drop (by simp [hscore] :
      (a.drop requestId).reservations.zscore id ≠ none), Account.deadline?_amounts_drop hkept]
    exact tr.deadline id score hscore'
  · have := @Account.reserved_drop a requestId
    have := tr.balance
    omega

/-- The purge takes out what has reached its deadline. -/
theorem Tracks.purge (tr : Tracks now o a) : Tracks now o (a.purge now) := by
  refine Account.purge_keeps tr fun id score hscore hle b trb => ?_
  refine trb.drop (fun _ _ => rfl) fun g hg => ?_
  obtain ⟨g', hg', hscore', _⟩ := tr.scored id score hscore
  obtain rfl := Option.some.inj (hg.symm.trans hg')
  rw [Grant.alive_iff]
  omega

/-- Entering a reservation that the account does not have. -/
theorem Tracks.charge (tr : Tracks now o a) {requestId : String} {amount : ℤ}
    (hnew : a.amounts.hget requestId = none) (hamount : 0 ≤ amount) (ledgerTtlMs : ℕ) :
    Tracks now (o.set requestId ⟨amount, now⟩)
      (a.charge requestId amount ledgerTtlMs reservationTtlMs now) := by
  refine ⟨?_, ?_, ?_, ?_, ?_, ?_⟩
  · intro id score hscore
    rw [Account.zscore_charge] at hscore
    rw [Hash.get_set, Account.hget_charge]
    split at hscore
    · next hid =>
      rw [if_pos hid, if_pos hid]
      exact ⟨_, rfl, (Option.some.inj hscore).symm, le_rfl, rfl⟩
    · next hid =>
      rw [if_neg hid, if_neg hid]
      exact tr.scored id score hscore
  · intro id stored hstored hpos
    rw [Account.hget_charge] at hstored
    rw [Account.zscore_charge]
    split
    · simp
    · next hid =>
      rw [if_neg hid] at hstored
      exact tr.positive id stored hstored hpos
  · intro id stored hstored
    rw [Account.hget_charge] at hstored
    split at hstored
    · rwa [← Option.some.inj hstored]
    · exact tr.nonneg id stored hstored
  · intro id g hg
    rw [Hash.get_set] at hg
    rw [Account.zscore_charge]
    split at hg
    · next hid =>
      rw [if_pos hid, ← Option.some.inj hg]
      exact .inl rfl
    · next hid =>
      rw [if_neg hid]
      exact tr.stored id g hg
  · intro id score hscore
    refine ⟨now + reservationTtlMs, Account.deadline?_reservations_charge,
      Account.deadline?_amounts_charge, ?_⟩
    rw [Account.zscore_charge] at hscore
    split at hscore
    · exact (Option.some.inj hscore).ge
    · obtain ⟨g, _, hscore', htime, _⟩ := tr.scored id score hscore
      omega
  · rw [Account.counters_charge, Account.pending_charge hnew, ← tr.balance]
    rfl

end Account

section Calls

variable {now : ℕ} {o : Hash String Grant} {accounts : LedgerId → Account} {ledger : LedgerId}
  {h : List (Event ℕ Call Reply)} {s : State}

theorem Account.Fresh.inStep {a : Account} (fresh : a.Fresh now) : InStep now a :=
  fun _ => iff_of_false fresh.1 fresh.2

/-- The account tracks, has not lapsed, and holds no reservation past its deadline. -/
structure Settled (now : ℕ) (o : Hash String Grant) (a : Account) : Prop where
  tracks : Tracks now o a
  fresh : a.Fresh now
  alive : ∀ id score, a.reservations.zscore id = some score → now < score

theorem Settled.purge {a : Account} (tr : Tracks now o a) (inStep : InStep now a) :
    Settled now o ((a.live now).purge now) := by
  refine ⟨(tr.live le_rfl inStep).purge, ?_, fun id score hscore => ?_⟩
  · exact Account.purge_keeps (Account.fresh_live a) fun id _ _ _ _ fresh => fresh.drop id
  · rw [Account.zscore_purge, Option.filter_eq_some_iff] at hscore
    exact of_decide_eq_true hscore.2

theorem Settled.charge {a : Account} (settled : Settled now o a) {requestId : String} {amount : ℤ}
    (hnew : a.amounts.hget requestId = none) (hamount : 0 ≤ amount) (ledgerTtlMs : ℕ) :
    Settled now (o.set requestId ⟨amount, now⟩)
      (a.charge requestId amount ledgerTtlMs reservationTtlMs now) := by
  have httl : 0 < reservationTtlMs := by decide +kernel
  refine ⟨settled.tracks.charge hnew hamount ledgerTtlMs, ⟨?_, ?_⟩, fun id score hscore => ?_⟩
  · exact Account.not_lapsed_ledger_charge settled.fresh.1
  · rw [Key.lapsed_iff Account.deadline?_amounts_charge]
    omega
  · rw [Account.zscore_charge] at hscore
    split at hscore
    · have := Option.some.inj hscore
      omega
    · exact settled.alive id score hscore

/-- The purge loop settles every ledger it names. -/
theorem settled_purgeAll {ledgers : List LedgerId} (hmem : ledger ∈ ledgers)
    (tr : Tracks now o (accounts ledger)) (inStep : InStep now (accounts ledger)) :
    Settled now o (purgeAll now ledgers accounts ledger) := by
  refine updateAll_reaches (P := fun a => Tracks now o a ∧ InStep now a) (by simpa using hmem)
    ⟨tr, inStep⟩ (fun _ _ _ a ha => ?_) (fun _ _ _ a ha => ?_)
  · exact .purge ha.1 ha.2
  · exact .purge ha.tracks ha.fresh.inStep

/-- A grant enters a reservation that is not alive. -/
theorem observe_granted {r : SharedBudgetReservation} {args : ReserveArgs}
    (hargs : reserveArgs r = .ok args) (hmem : ledger ∈ args.ledgers)
    (hdead : ∀ g, o.get args.requestId = some g → ¬g.alive now) :
    observe ledger ⟨now, .reserve r, .reserved (.ok true)⟩ o =
      o.set args.requestId ⟨args.amount, now⟩ := by
  have hnone : ¬(o.get args.requestId).any (Grant.alive now) := by
    cases hg : o.get args.requestId with
    | none => simp
    | some g =>
      rw [Option.any_some]
      exact hdead g hg
  simp only [observe, hargs]
  rw [if_pos ⟨trivial, hmem, hnone⟩]

/-- A grant for a reservation that is alive enters nothing. -/
theorem observe_repeated {r : SharedBudgetReservation} {args : ReserveArgs} {g : Grant}
    {reply : Reply} (hargs : reserveArgs r = .ok args) (hg : o.get args.requestId = some g)
    (halive : g.alive now) : observe ledger ⟨now, .reserve r, reply⟩ o = o := by
  simp only [observe, hargs]
  rw [if_neg]
  rintro ⟨_, _, hnone⟩
  rw [hg, Option.any_some] at hnone
  exact hnone halive

theorem observe_not_granted {r : SharedBudgetReservation} {args : ReserveArgs} {reply : Reply}
    (hargs : reserveArgs r = .ok args)
    (hnot : reply ≠ .reserved (.ok true) ∨ ledger ∉ args.ledgers) :
    observe ledger ⟨now, .reserve r, reply⟩ o = o := by
  simp only [observe, hargs]
  rw [if_neg]
  rintro ⟨hreply, hmem, _⟩
  rcases hnot with hnot | hnot
  · exact hnot hreply
  · exact hnot hmem

/-- **A reserve** settles every ledger it names. -/
theorem settled_reserve {r : SharedBudgetReservation} {args : ReserveArgs}
    (hargs : reserveArgs r = .ok args) (hok : Orderly h s now (.reserve r))
    (tr : Tracks now (outstanding ledger h) (s.accounts ledger)) (hmem : ledger ∈ args.ledgers) :
    Settled now (outstanding ledger (Service.event serve now (.reserve r) s :: h))
      ((serve now (.reserve r) s).2.accounts ledger) := by
  obtain ⟨hinStep, honce, hscored⟩ := hok args hargs
  have settled := settled_purgeAll hmem tr (hinStep ledger hmem)
  rw [outstanding, Service.event, serve_reserve hargs]
  cases hverdict : verdict args (purgeAll now args.ledgers s.accounts) with
  | repeated =>
    -- the entry that answers for the request is an outstanding reservation, still alive
    obtain ⟨score, hscore⟩ := Option.ne_none_iff_exists'.mp (hscored hverdict ledger hmem)
    obtain ⟨g, hg, hscore', _⟩ := settled.tracks.scored _ _ hscore
    have halive : g.alive now := by
      rw [Grant.alive_iff, ← hscore']
      exact settled.alive _ _ hscore
    rw [observe_repeated hargs hg halive]
    exact settled
  | partialReservation =>
    rw [observe_not_granted hargs (.inl (by simp))]
    exact settled
  | denied =>
    rw [observe_not_granted hargs (.inl (by simp))]
    exact settled
  | charged =>
    have hnew := (verdict_charged hverdict).1 ledger hmem
    have hdead : ∀ g, (outstanding ledger h).get args.requestId = some g → ¬g.alive now := by
      intro g hg
      refine (settled.tracks.stored _ g hg).resolve_left fun hscore => ?_
      obtain ⟨_, _, _, _, hamount⟩ := settled.tracks.scored _ _ hscore
      simp [hnew] at hamount
    rw [observe_granted hargs hmem hdead]
    obtain ⟨scope, _, _, hcharge⟩ := @chargeAll_of_nodup now
      (purgeAll now args.ledgers s.accounts) ledger args (honce hverdict) hmem
    dsimp only
    rw [hcharge]
    exact settled.charge hnew (reserveArgs_ok hargs).1 scope.ledgerTtlMs

theorem Tracks.record {a : Account} (tr : Tracks now o a) (inStep : InStep now a)
    (args : RecordArgs) (retention : Option ℕ) : Tracks now o (a.record args retention now) := by
  have live := tr.live le_rfl inStep
  refine ⟨live.scored, live.positive, live.nonneg, live.stored, live.deadline, ?_⟩
  rw [Account.counters_record]
  exact live.balance

theorem tracks_recordCost {observation : SharedCostObservation}
    (tr : Tracks now o (s.accounts ledger)) (hok : Orderly h s now (.recordCost observation)) :
    Tracks now o ((serve now (.recordCost observation) s).2.accounts ledger) := by
  simp only [serve, recordCost]
  split
  · exact tr
  · next args hargs =>
    simp only [recordCostScript]
    split
    · exact tr
    · by_cases hmem : ledger ∈ args.ledgers.map Prod.fst
      · refine (updateAll_reaches (P := fun a => Tracks now o a ∧ InStep now a)
          (Q := fun a => Tracks now o a ∧ a.Fresh now) hmem ⟨tr, hok args hargs ledger hmem⟩
          (fun entry hentry _ a ha => ?_) (fun entry hentry _ a ha => ?_)).1
        · exact ⟨ha.1.record ha.2 args entry.2, Account.fresh_record (retention_pos hentry)⟩
        · exact ⟨ha.1.record ha.2.inStep args entry.2,
            Account.fresh_record (retention_pos hentry)⟩
      · dsimp only
        rw [updateAll_of_not_mem hmem]
        exact tr

theorem Tracks.release {a : Account} (tr : Tracks now o a) (requestId : String) :
    Tracks now (o.del requestId) (a.drop requestId) := by
  refine tr.drop (fun id hne => ?_) fun g hg => ?_
  · rw [Hash.get_del, if_neg hne]
  · rw [Hash.get_del, if_pos rfl] at hg
    simp at hg

theorem tracks_release {r : SharedBudgetReservation} {reply : Reply}
    (tr : Tracks now o (s.accounts ledger)) (hok : Orderly h s now (.release r)) :
    Tracks now (observe ledger ⟨now, .release r, reply⟩ o)
      ((serve now (.release r) s).2.accounts ledger) := by
  simp only [serve, releaseBudget, observe]
  cases hledgers : releaseLedgers r with
  | error e => exact tr
  | ok ledgers =>
    simp only [releaseBudgetScript]
    by_cases hmem : ledger ∈ ledgers
    · rw [if_pos hmem]
      refine (updateAll_reaches (P := fun a => Tracks now o a ∧ InStep now a)
        (Q := fun a => Tracks now (o.del r.requestId) a ∧ a.Fresh now) (by simpa using hmem)
        ⟨tr, hok ledgers hledgers ledger hmem⟩ (fun _ _ _ a ha => ?_) (fun _ _ _ a ha => ?_)).1
      · exact ⟨(ha.1.live le_rfl ha.2).release _, (Account.fresh_live a).drop _⟩
      · refine ⟨(ha.1.live le_rfl ha.2.inStep).drop (fun _ _ => rfl) fun g hg => ?_,
          (Account.fresh_live a).drop _⟩
        rw [Hash.get_del, if_pos rfl] at hg
        simp at hg
    · rw [if_neg hmem, updateAll_of_not_mem (by simpa using hmem)]
      exact tr

theorem tracks_reserve {r : SharedBudgetReservation}
    (tr : Tracks now (outstanding ledger h) (s.accounts ledger))
    (hok : Orderly h s now (.reserve r)) :
    Tracks now (outstanding ledger (Service.event serve now (.reserve r) s :: h))
      ((serve now (.reserve r) s).2.accounts ledger) := by
  cases hargs : reserveArgs r with
  | error e =>
    simp only [outstanding, observe, Service.event, hargs, serve, reserveBudget]
    exact tr
  | ok args =>
    by_cases hmem : ledger ∈ args.ledgers
    · exact (settled_reserve hargs hok tr hmem).tracks
    · rw [outstanding, Service.event, observe_not_granted hargs (.inr hmem),
        accounts_reserve_of_not_mem hargs hmem]
      exact tr

end Calls

theorem tracks_of_run {h : List (Event ℕ Call Reply)} {s : State}
    (run : Service.Run serve Orderly initial h s) (ledger : LedgerId) :
    Tracks (clock h) (outstanding ledger h) (s.accounts ledger) := by
  induction run with
  | nil => exact tracks_empty 0
  | cons now call _ hpast hok ih =>
    have tr := ih.mono (clock_le hpast)
    cases call with
    | recordCost observation => exact tracks_recordCost tr hok
    | release r => exact tracks_release tr hok
    | reserve r => exact tracks_reserve tr hok

/-- In a settled account the stored amounts are those of the living reservations. -/
theorem Settled.reserved_eq {now : ℕ} {o : Hash String Grant} {a : Account}
    (settled : Settled now o a) :
    a.counters.reservedMicros = (o.filter (Grant.alive now)).sumBy Grant.amount := by
  have tr := settled.tracks
  rw [tr.balance, Account.pending]
  refine Hash.sumBy_congr fun id => ?_
  rw [Hash.get_filter]
  cases hscore : a.reservations.zscore id with
  | some score =>
    -- a deadline belongs to a living reservation with the stored amount
    obtain ⟨g, hg, hscore', _, hamount⟩ := tr.scored id score hscore
    have halive : g.alive now := by
      rw [Grant.alive_iff, ← hscore']
      exact settled.alive id score hscore
    rw [show a.amounts.hash.get id = some g.amount from hamount, hg, Option.filter_some,
      if_pos halive]
    rfl
  | none =>
    -- without one there is no living reservation and at most an amount of 0
    have hdead : ((o.get id).filter (Grant.alive now)) = none := by
      cases hg : o.get id with
      | none => rfl
      | some g =>
        rw [Option.filter_some, if_neg]
        refine (tr.stored id g hg).resolve_left ?_
        simp [hscore]
    rw [hdead]
    cases hamount : a.amounts.hash.get id with
    | none => rfl
    | some amount =>
      have hnonneg := tr.nonneg id amount hamount
      have hpos : ¬0 < amount := fun hpos => tr.positive id amount hamount hpos hscore
      exact le_antisymm (not_lt.mp hpos) hnonneg

/-- **The reserved total.** At the end of every reserve of an orderly run the reserved total
of each of its ledgers is the sum of the reservations that were granted there and are neither
released nor past their deadline. -/
theorem reserved_balance {h : List (Event ℕ Call Reply)} {s : State}
    (run : Service.Run serve Orderly initial h s) {now : ℕ} (hpast : ∀ e ∈ h, e.time ≤ now)
    {r : SharedBudgetReservation} {args : ReserveArgs} (hargs : reserveArgs r = .ok args)
    (hok : Orderly h s now (.reserve r)) :
    ∀ ledger ∈ args.ledgers,
      ((serve now (.reserve r) s).2.accounts ledger).counters.reservedMicros =
        liveReserved ledger now (Service.event serve now (.reserve r) s :: h) := by
  intro ledger hmem
  have tr := (tracks_of_run run ledger).mono (clock_le hpast)
  exact (settled_reserve hargs hok tr hmem).reserved_eq

/-- Two reservations of five and one units, one millisecond apart: six are reserved. -/
theorem reserved_balance_two_requests :
    ((serve 1 (.reserve (reservation "req-2" 1 [globalDay]))
      (serve 0 (.reserve (reservation "req-1" 5 [globalDay])) initial).2).2.accounts
        globalLedger).counters.reservedMicros = 6000000 ∧
    liveReserved globalLedger 1
      [Service.event serve 1 (.reserve (reservation "req-2" 1 [globalDay]))
        (serve 0 (.reserve (reservation "req-1" 5 [globalDay])) initial).2,
      Service.event serve 0 (.reserve (reservation "req-1" 5 [globalDay])) initial] = 6000000 := by
  have hscope : reserveArgs (reservation "req-1" 5 [globalDay]) =
      .ok ⟨"req-1", 5000000, [⟨globalLedger, 10000000, true, 34560000000⟩]⟩ := by decide +kernel
  have hscope' : reserveArgs (reservation "req-2" 1 [globalDay]) =
      .ok ⟨"req-2", 1000000, [⟨globalLedger, 10000000, true, 34560000000⟩]⟩ := by decide +kernel
  have hfirst : Orderly [] initial 0 (.reserve (reservation "req-1" 5 [globalDay])) := by
    intro args hargs
    obtain rfl := Except.ok.inj (hscope.symm.trans hargs)
    decide +kernel
  have run : Service.Run serve Orderly initial
      [Service.event serve 0 (.reserve (reservation "req-1" 5 [globalDay])) initial]
      (serve 0 (.reserve (reservation "req-1" 5 [globalDay])) initial).2 :=
    .cons 0 (Call.reserve (reservation "req-1" 5 [globalDay])) .nil (by simp) hfirst
  have hsecond : Orderly
      [Service.event serve 0 (.reserve (reservation "req-1" 5 [globalDay])) initial]
      (serve 0 (.reserve (reservation "req-1" 5 [globalDay])) initial).2 1
      (.reserve (reservation "req-2" 1 [globalDay])) := by
    intro args hargs
    obtain rfl := Except.ok.inj (hscope'.symm.trans hargs)
    decide +kernel
  have hbalance := reserved_balance run (by simp [Service.event]) hscope' hsecond globalLedger
    (by simp [ReserveArgs.ledgers])
  have hreserved : ((serve 1 (.reserve (reservation "req-2" 1 [globalDay]))
      (serve 0 (.reserve (reservation "req-1" 5 [globalDay])) initial).2).2.accounts
        globalLedger).counters.reservedMicros = 6000000 := by decide +kernel
  exact ⟨hreserved, hbalance.symm.trans hreserved⟩

/-- A reservation is abandoned and its ledger goes idle. Its keys expire with it, and the next
reserve finds five units still reserved beside its own. -/
theorem phantom_reservation :
    ¬∀ h s, Service.Run serve Service.Any initial h s → ∀ now, (∀ e ∈ h, e.time ≤ now) →
      ∀ r args, reserveArgs r = .ok args → ∀ ledger ∈ args.ledgers,
        ((serve now (.reserve r) s).2.accounts ledger).counters.reservedMicros =
          liveReserved ledger now (Service.event serve now (.reserve r) s :: h) := by
  intro hall
  have hscope : reserveArgs (reservation "req-2" 1 [globalDay]) =
      .ok ⟨"req-2", 1000000, [⟨globalLedger, 10000000, true, 34560000000⟩]⟩ := by decide +kernel
  have run : Service.Run serve Service.Any initial
      [Service.event serve 0 (.reserve (reservation "req-1" 5 [globalDay])) initial]
      (serve 0 (.reserve (reservation "req-1" 5 [globalDay])) initial).2 :=
    .cons 0 (Call.reserve (reservation "req-1" 5 [globalDay])) .nil (by simp) trivial
  have hequal := hall _ _ run 21600001 (by simp [Service.event]) _ _ hscope globalLedger
    (by simp [ReserveArgs.ledgers])
  exact absurd hequal (by decide +kernel)

end WayfinderRouter.Budget
