import WayfinderRouter.SharedState.Budget.Account

/-!
# One call on the budget

What a call does to the account of one ledger: the verdicts of a reserve, the arguments that
reach the server, and the frame rule, by which a property of one account is kept by a call
when it is kept by the commands that the call can run on it.

## Main results

- `serve_reserve` — what a reserve that reaches the server does
- `serve_keeps` — the frame rule
-/

namespace WayfinderRouter.Budget

open Redis Timed

/-- The time of the latest call. -/
def clock : List (Event ℕ Call Reply) → ℕ
  | [] => 0
  | e :: _ => e.time

variable {now : ℕ} {accounts : LedgerId → Account} {ledger : LedgerId}
  {h : List (Event ℕ Call Reply)} {s : State}

theorem clock_le (hpast : ∀ e ∈ h, e.time ≤ now) : clock h ≤ now := by
  cases h with
  | nil => exact Nat.zero_le _
  | cons e h => exact hpast e List.mem_cons_self

/-- What the checks of a reserve have found. -/
theorem verdict_cases (args : ReserveArgs) (accounts : LedgerId → Account) :
    (verdict args accounts = .repeated ∧
      ∀ ledger ∈ args.ledgers, (accounts ledger).amounts.hget args.requestId ≠ none) ∨
    verdict args accounts = .partialReservation ∨ verdict args accounts = .denied ∨
    (verdict args accounts = .charged ∧
      (∀ ledger ∈ args.ledgers, (accounts ledger).amounts.hget args.requestId = none) ∧
      ∀ scope ∈ args.scopes, scope.Allows args.amount accounts) := by
  by_cases hall : existingCount args accounts = args.scopes.length
  · refine .inl ⟨if_pos hall, fun ledger hmem => ?_⟩
    obtain ⟨scope, hscope, rfl⟩ := List.mem_map.mp hmem
    exact Option.isSome_iff_ne_none.mp (List.countP_eq_length.mp hall scope hscope)
  · by_cases hsome : 0 < existingCount args accounts
    · exact .inr (.inl (by rw [verdict, if_neg hall, if_pos hsome]))
    · by_cases hallows : ∀ scope ∈ args.scopes, scope.Allows args.amount accounts
      · refine .inr (.inr (.inr ⟨?_, fun ledger hmem => ?_, hallows⟩))
        · rw [verdict, if_neg hall, if_neg hsome, if_pos hallows]
        · obtain ⟨scope, hscope, rfl⟩ := List.mem_map.mp hmem
          have := List.countP_eq_zero.mp (Nat.eq_zero_of_not_pos hsome) scope hscope
          simpa using this
      · exact .inr (.inr (.inl (by rw [verdict, if_neg hall, if_neg hsome, if_neg hallows])))

/-- A reserve that charges finds no amount for its request, and room under every cap. -/
theorem verdict_charged {args : ReserveArgs} (hverdict : verdict args accounts = .charged) :
    (∀ ledger ∈ args.ledgers, (accounts ledger).amounts.hget args.requestId = none) ∧
      ∀ scope ∈ args.scopes, scope.Allows args.amount accounts := by
  rcases verdict_cases args accounts with ⟨hother, _⟩ | hother | hother | ⟨_, hcharged⟩
  · simp [hverdict] at hother
  · simp [hverdict] at hother
  · simp [hverdict] at hother
  · exact hcharged

theorem purgeAll_of_not_mem {ledgers : List LedgerId} (hmem : ledger ∉ ledgers) :
    purgeAll now ledgers accounts ledger = accounts ledger :=
  updateAll_of_not_mem (by simpa using hmem)

theorem chargeAll_of_not_mem {args : ReserveArgs} (hmem : ledger ∉ args.ledgers) :
    chargeAll args now accounts ledger = accounts ledger :=
  updateAll_of_not_mem hmem

/-- A ledger that the charge loop names once is charged once. -/
theorem chargeAll_of_nodup {args : ReserveArgs} (hnodup : args.ledgers.Nodup)
    (hmem : ledger ∈ args.ledgers) : ∃ scope ∈ args.scopes, scope.ledger = ledger ∧
      chargeAll args now accounts ledger = (accounts ledger).charge args.requestId args.amount
        scope.ledgerTtlMs reservationTtlMs now := by
  obtain ⟨scope, hscope, rfl⟩ := List.mem_map.mp hmem
  exact ⟨scope, hscope, rfl, updateAll_of_nodup hnodup hscope⟩

theorem reserveArgs_ok {r : SharedBudgetReservation} {args : ReserveArgs}
    (hargs : reserveArgs r = .ok args) :
    0 ≤ args.amount ∧ ¬(args.amount < 0 ∨ args.scopes.length < 1) := by
  rw [reserveArgs] at hargs
  split at hargs
  · simp at hargs
  · next hvalid =>
    obtain ⟨amount, hamount, hargs⟩ := bind_eq_ok.mp hargs
    obtain ⟨date, _, hargs⟩ := bind_eq_ok.mp hargs
    obtain ⟨scopes, hscopes, hargs⟩ := bind_eq_ok.mp hargs
    obtain rfl := Except.ok.inj hargs
    have hnonneg := scaledCost_nonneg hamount
    have hlength := length_of_mapM hscopes
    have hpos : r.scopes.length ≠ 0 := by
      intro hzero
      exact hvalid (.inr (.inl (by simp [List.length_eq_zero_iff.mp hzero])))
    dsimp only
    omega

/-- What a reserve that reaches the server does. -/
theorem serve_reserve {r : SharedBudgetReservation} {args : ReserveArgs}
    (hargs : reserveArgs r = .ok args) :
    let purged := purgeAll now args.ledgers s.accounts
    serve now (.reserve r) s = match verdict args purged with
      | .repeated => (.reserved (.ok true), { s with accounts := purged })
      | .partialReservation => (.reserved (.error .unavailable), { s with accounts := purged })
      | .denied => (.reserved (.ok false), { s with accounts := purged })
      | .charged => (.reserved (.ok true), { s with accounts := chargeAll args now purged }) := by
  intro purged
  simp only [serve, reserveBudget, hargs, reserveBudgetScript, if_neg (reserveArgs_ok hargs).2]
  cases verdict args purged <;> rfl

/-- A reserve leaves the ledgers that it does not name. -/
theorem accounts_reserve_of_not_mem {r : SharedBudgetReservation} {args : ReserveArgs}
    (hargs : reserveArgs r = .ok args) (hmem : ledger ∉ args.ledgers) :
    (serve now (.reserve r) s).2.accounts ledger = s.accounts ledger := by
  have hpurge : purgeAll now args.ledgers s.accounts ledger = s.accounts ledger :=
    purgeAll_of_not_mem hmem
  rw [serve_reserve hargs]
  cases verdict args (purgeAll now args.ledgers s.accounts) with
  | repeated => exact hpurge
  | partialReservation => exact hpurge
  | denied => exact hpurge
  | charged => exact (chargeAll_of_not_mem hmem).trans hpurge

theorem recordScopes_nodup {scopes scopes' : List String}
    (hscopes : recordScopes scopes = .ok scopes') : scopes'.Nodup := by
  simp only [recordScopes] at hscopes
  split at hscopes
  · simp at hscopes
  · split at hscopes
    · simp at hscopes
    · obtain rfl := Except.ok.inj hscopes
      exact (List.perm_insertionSort _ _).nodup_iff.mpr scopes.nodup_dedup

/-- A record names each of its scopes once. -/
theorem recordArgs_nodup {o : SharedCostObservation} {args : RecordArgs}
    (hargs : recordArgs o = .ok args) : args.scopes.Nodup := by
  obtain ⟨date, _, hargs⟩ := bind_eq_ok.mp hargs
  by_cases hid : InvalidId o.requestId
  · rw [if_pos hid] at hargs
    obtain ⟨_, hthrow, _⟩ := bind_eq_ok.mp hargs
    cases hthrow
  · rw [if_neg hid] at hargs
    obtain ⟨scopes, hscopes, hargs⟩ := bind_eq_ok.mp hargs
    obtain ⟨realized, _, hargs⟩ := bind_eq_ok.mp hargs
    obtain ⟨baseline, _, hargs⟩ := bind_eq_ok.mp hargs
    obtain ⟨savings, _, hargs⟩ := bind_eq_ok.mp hargs
    obtain ⟨prompt, _, hargs⟩ := bind_eq_ok.mp hargs
    obtain ⟨completion, _, hargs⟩ := bind_eq_ok.mp hargs
    obtain rfl := Except.ok.inj hargs
    exact recordScopes_nodup hscopes

/-- A record names each of its ledgers once. -/
theorem ledgers_nodup {args : RecordArgs} (hscopes : args.scopes.Nodup) :
    (args.ledgers.map Prod.fst).Nodup := by
  rw [RecordArgs.ledgers, List.map_flatMap, List.nodup_flatMap]
  refine ⟨fun scope _ => by simp [scopeLedgers], hscopes.imp fun hne => ?_⟩
  simp [Function.onFun, scopeLedgers, List.Disjoint, hne]

theorem retention_pos {args : RecordArgs} {entry : LedgerId × Option ℕ}
    (hentry : entry ∈ args.ledgers) : ∀ seconds ∈ entry.2, 0 < seconds := by
  obtain ⟨scope, _, hentry⟩ := List.mem_flatMap.mp hentry
  simp only [scopeLedgers, List.mem_cons, List.not_mem_nil, or_false] at hentry
  rcases hentry with rfl | rfl | rfl <;> intro seconds hseconds
  · obtain rfl := Option.some.inj hseconds
    decide +kernel
  · obtain rfl := Option.some.inj hseconds
    decide +kernel
  · simp at hseconds

/-- **Frame rule**: what holds of an account and is kept by the commands that a call can run on
it holds after the call. -/
theorem serve_keeps {Q : Account → Prop} {call : Call} (start : Q (s.accounts ledger))
    (purge : ∀ a, Q a → Q ((a.live now).purge now))
    (drop : ∀ r named, call = .release r → releaseLedgers r = .ok named → ledger ∈ named →
      ∀ a, Q a → Q ((a.live now).drop r.requestId))
    (charge : ∀ r args, call = .reserve r → reserveArgs r = .ok args →
      verdict args (purgeAll now args.ledgers s.accounts) = .charged → ledger ∈ args.ledgers →
      ∀ a ledgerTtlMs, Q a →
        Q (a.charge args.requestId args.amount ledgerTtlMs reservationTtlMs now))
    (record : ∀ o args retention, call = .recordCost o → recordArgs o = .ok args →
      args.requestId ∉ (s.seen.live now).value?.getD ∅ → (ledger, retention) ∈ args.ledgers →
      ∀ a, Q a → Q (a.record args retention now)) :
    Q ((serve now call s).2.accounts ledger) := by
  cases call with
  | recordCost o =>
    simp only [serve, recordCost]
    split
    · exact start
    · next args hargs =>
      simp only [recordCostScript]
      split
      · exact start
      · next hnew =>
        refine updateAll_keeps start fun entry hentry hledger a ha => ?_
        exact record o args entry.2 rfl hargs hnew (hledger ▸ hentry) a ha
  | release r =>
    simp only [serve, releaseBudget]
    split
    · exact start
    · next named hnamed =>
      refine updateAll_keeps start fun other hother hledger a ha => ?_
      exact drop r named rfl hnamed (hledger ▸ hother) a ha
  | reserve r =>
    cases hargs : reserveArgs r with
    | error e =>
      simp only [serve, reserveBudget, hargs]
      exact start
    | ok args =>
      have purged : Q (purgeAll now args.ledgers s.accounts ledger) :=
        updateAll_keeps start fun _ _ _ a ha => purge a ha
      rw [serve_reserve hargs]
      cases hverdict : verdict args (purgeAll now args.ledgers s.accounts) with
      | repeated => exact purged
      | partialReservation => exact purged
      | denied => exact purged
      | charged =>
        refine updateAll_keeps purged fun scope hscope hledger a ha => ?_
        exact charge r args rfl hargs hverdict (hledger ▸ List.mem_map_of_mem hscope) a _ ha

end WayfinderRouter.Budget
