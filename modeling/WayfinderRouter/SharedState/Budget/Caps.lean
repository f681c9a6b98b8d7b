import WayfinderRouter.SharedState.Budget.Calls

/-!
# Caps and retries

A reserve charges all of its ledgers or none, a blocking cap holds after every charge, and
a retry of a reservation that is still alive is granted without a second charge.

The caps are checked in one loop and the ledgers charged in another, so a ledger that one
call names twice passes its check with one amount and is charged two. `Once` leaves these
calls out.

## Main definitions

- `Once` — a reserve that charges names each of its ledgers once
- `Holds` — the account keeps a reservation until its deadline
-/

namespace WayfinderRouter.Budget

open Redis Timed

/-- A reserve that charges names each of its ledgers once. -/
def Once (_ : List (Event ℕ Call Reply)) (s : State) (now : ℕ) : Call → Prop
  | .reserve r => ∀ args, reserveArgs r = .ok args →
    verdict args (purgeAll now args.ledgers s.accounts) = .charged → args.ledgers.Nodup
  | _ => True

/-- No call before `since`, and no release of the request on one of the ledgers. -/
def Unreleased (requestId : String) (ledgers : List LedgerId) (since : ℕ)
    (_ : List (Event ℕ Call Reply)) (_ : State) (now : ℕ) (call : Call) : Prop :=
  since ≤ now ∧ ∀ r named, call = .release r → r.requestId = requestId →
    releaseLedgers r = .ok named → ∀ ledger ∈ named, ledger ∉ ledgers

/-- The reserve grants and finds no amount for its request in some ledger: it is new. -/
def Grants (args : ReserveArgs) (now : ℕ) (s : State) (reply : Reply) : Prop :=
  reply = .reserved (.ok true) ∧ ∃ ledger ∈ args.ledgers,
    (purgeAll now args.ledgers s.accounts ledger).amounts.hget args.requestId = none

/-- The account keeps the reservation, with the given deadline, until then. -/
structure Holds (requestId : String) (deadline : ℕ) (a : Account) : Prop where
  amount : a.amounts.hget requestId ≠ none
  score : a.reservations.zscore requestId = some deadline
  reservations : ∀ d ∈ a.reservations.deadline?, deadline ≤ d
  amounts : ∀ d ∈ a.amounts.deadline?, deadline ≤ d

section Account

variable {requestId other : String} {deadline now : ℕ} {a : Account}

theorem Holds.live (holds : Holds requestId deadline a) (hlt : now < deadline) :
    Holds requestId deadline (a.live now) := by
  have hreservations : a.reservations.live now = a.reservations := by
    refine Key.live_of_not_lapsed ?_
    rintro ⟨d, hd, hle⟩
    have := holds.reservations d hd
    omega
  have hamounts : a.amounts.live now = a.amounts := by
    refine Key.live_of_not_lapsed ?_
    rintro ⟨d, hd, hle⟩
    have := holds.amounts d hd
    omega
  refine ⟨?_, ?_, ?_, ?_⟩ <;> simp only [Account.live, hreservations, hamounts]
  · exact holds.amount
  · exact holds.score
  · exact holds.reservations
  · exact holds.amounts

theorem Holds.drop (holds : Holds requestId deadline a) (hne : requestId ≠ other) :
    Holds requestId deadline (a.drop other) := by
  have hamount : (a.drop other).amounts.hget requestId ≠ none := by
    rw [Account.hget_drop_of_ne hne]
    exact holds.amount
  have hscore : (a.drop other).reservations.zscore requestId = some deadline := by
    rw [Account.zscore_drop, if_neg hne]
    exact holds.score
  refine ⟨hamount, hscore, ?_, ?_⟩
  · rw [Account.deadline?_reservations_drop (by rw [hscore]; simp)]
    exact holds.reservations
  · rw [Account.deadline?_amounts_drop hamount]
    exact holds.amounts

/-- The purge takes out other reservations only. -/
theorem Holds.purge (holds : Holds requestId deadline a) (hlt : now < deadline) :
    Holds requestId deadline ((a.live now).purge now) := by
  have live := holds.live hlt
  refine Account.purge_keeps live fun id score hscore hle b hb => hb.drop ?_
  rintro rfl
  have := Option.some.inj (hscore.symm.trans live.score)
  omega

theorem Holds.charge (holds : Holds requestId deadline a) (hne : requestId ≠ other) {amount : ℤ}
    {ledgerTtlMs ttlMs : ℕ} (hle : deadline ≤ now + ttlMs) :
    Holds requestId deadline (a.charge other amount ledgerTtlMs ttlMs now) := by
  refine ⟨?_, ?_, ?_, ?_⟩
  · rw [Account.hget_charge, if_neg hne]
    exact holds.amount
  · rw [Account.zscore_charge, if_neg hne]
    exact holds.score
  · rw [Account.deadline?_reservations_charge]
    intro d hd
    rwa [← Option.some.inj hd]
  · rw [Account.deadline?_amounts_charge]
    intro d hd
    rwa [← Option.some.inj hd]

theorem holds_charge {amount : ℤ} {ledgerTtlMs ttlMs : ℕ} :
    Holds requestId (now + ttlMs) (a.charge requestId amount ledgerTtlMs ttlMs now) := by
  refine ⟨?_, ?_, ?_, ?_⟩
  · simp [Account.hget_charge]
  · simp [Account.zscore_charge]
  · rw [Account.deadline?_reservations_charge]
    intro d hd
    exact (Option.some.inj hd).le
  · rw [Account.deadline?_amounts_charge]
    intro d hd
    exact (Option.some.inj hd).le

end Account

section Retries

variable {requestId : String} {ledgers : List LedgerId} {since now : ℕ} {ledger : LedgerId}
  {s : State} {h : List (Event ℕ Call Reply)}

theorem Holds.purgeAll {deadline : ℕ} {accounts : LedgerId → Account}
    (holds : Holds requestId deadline (accounts ledger)) (hlt : now < deadline)
    (named : List LedgerId) : Holds requestId deadline (purgeAll now named accounts ledger) :=
  updateAll_keeps holds fun _ _ _ _ hb => hb.purge hlt

/-- Before its deadline a reservation is kept by every call but its release. -/
theorem Holds.serve (holds : Holds requestId (since + reservationTtlMs) (s.accounts ledger))
    (hledger : ledger ∈ ledgers) (hlt : now < since + reservationTtlMs) {call : Call}
    (hok : Unreleased requestId ledgers since h s now call) :
    Holds requestId (since + reservationTtlMs) ((serve now call s).2.accounts ledger) := by
  refine serve_keeps holds (fun a ha => ha.purge hlt) (fun r named hcall hnamed hmem a ha => ?_)
    (fun r args _ _ hverdict hmem a ledgerTtlMs ha => ?_) fun o args retention _ _ _ _ a ha => ?_
  · refine (ha.live hlt).drop ?_
    rintro rfl
    exact hok.2 r named hcall rfl hnamed ledger hmem hledger
  · -- a charge for the same request would have found its amount
    have hsince := hok.1
    refine ha.charge ?_ (by omega)
    rintro rfl
    exact (holds.purgeAll hlt args.ledgers).amount ((verdict_charged hverdict).1 ledger hmem)
  · have live := ha.live hlt
    exact ⟨live.amount, live.score, live.reservations, live.amounts⟩

theorem holds_of_run {s' : State} (hledger : ledger ∈ ledgers)
    (start : Holds requestId (since + reservationTtlMs) (s.accounts ledger))
    (run : Service.Run serve (Unreleased requestId ledgers since) s h s') :
    (∃ e ∈ h, since + reservationTtlMs ≤ e.time) ∨
      Holds requestId (since + reservationTtlMs) (s'.accounts ledger) := by
  refine run.until (I := fun (_ : List (Event ℕ Call Reply)) (s : State) =>
    Holds requestId (since + reservationTtlMs) (s.accounts ledger)) start ?_
  exact fun _ _ _ _ holds hlt hok => holds.serve hledger hlt hok

/-- A reserve whose ledgers all hold the request is a retry: granted, and nothing charged. -/
theorem serve_retry {deadline : ℕ} {r : SharedBudgetReservation} {args : ReserveArgs}
    (hargs : reserveArgs r = .ok args) (hlt : now < deadline)
    (holds : ∀ ledger ∈ args.ledgers, Holds args.requestId deadline (s.accounts ledger)) :
    serve now (.reserve r) s = (.reserved (.ok true),
      { s with accounts := purgeAll now args.ledgers s.accounts }) := by
  have hverdict : verdict args (purgeAll now args.ledgers s.accounts) = .repeated := by
    refine if_pos (List.countP_eq_length.mpr fun scope hscope => ?_)
    have hmem : scope.ledger ∈ args.ledgers := List.mem_map_of_mem hscope
    exact Option.isSome_iff_ne_none.mpr ((holds _ hmem).purgeAll hlt args.ledgers).amount
  rw [serve_reserve hargs, hverdict]

end Retries

section Reserve

variable {now : ℕ} {s : State} {r : SharedBudgetReservation} {args : ReserveArgs}

/-- A new grant comes from a charge. -/
theorem charged_of_grants (hargs : reserveArgs r = .ok args)
    (hgrants : Grants args now s (serve now (.reserve r) s).1) :
    verdict args (purgeAll now args.ledgers s.accounts) = .charged := by
  obtain ⟨hreply, ledger, hmem, hnone⟩ := hgrants
  rw [serve_reserve hargs] at hreply
  rcases verdict_cases args (purgeAll now args.ledgers s.accounts) with
    ⟨_, hall⟩ | hother | hother | ⟨hcharged, _⟩
  · exact absurd hnone (hall ledger hmem)
  · simp [hother] at hreply
  · simp [hother] at hreply
  · exact hcharged

/-- A reserve that charges, with its ledgers named once. -/
theorem accounts_charged (hargs : reserveArgs r = .ok args) {scope : ScopeArgs}
    (hverdict : verdict args (purgeAll now args.ledgers s.accounts) = .charged)
    (honce : args.ledgers.Nodup) (hscope : scope ∈ args.scopes) :
    (serve now (.reserve r) s).2.accounts scope.ledger =
      (purgeAll now args.ledgers s.accounts scope.ledger).charge args.requestId args.amount
        scope.ledgerTtlMs reservationTtlMs now := by
  rw [serve_reserve hargs, hverdict]
  exact updateAll_of_nodup honce hscope

end Reserve

/-- The account gains the amount and an entry for the request. -/
def Gains (args : ReserveArgs) (now : ℕ) (before after : Account) : Prop :=
  after.counters.reservedMicros = before.counters.reservedMicros + args.amount ∧
    after.amounts.hget args.requestId = some args.amount ∧
    after.reservations.zscore args.requestId = some (now + reservationTtlMs)

end WayfinderRouter.Budget
