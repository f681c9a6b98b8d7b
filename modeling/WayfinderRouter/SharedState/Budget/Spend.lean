import WayfinderRouter.SharedState.Budget.Calls

/-!
# Recorded spend

`spent` is the fleet's own view of a ledger: the cost of every request recorded there, each
request counted once, by its first record. The realized total of the ledger should be that
sum, for the lifetime ledger at any later time and for a day or a month as long as records
keep coming within its retention.

The record script gives the lifetime ledger no expiry, but the reserve script gives an expiry
to every ledger that has none. `Lasting` leaves out the reserves that charge a lifetime
ledger.

## Main definitions

- `firstRecord`, `spent` — when a request was first recorded, and the spend of a ledger
- `lastRecord`, `Retained` — the records of a ledger never left its retention
- `Lasting` — the calls that give no lifetime ledger an expiry
-/

namespace WayfinderRouter.Budget

open Redis Timed

/-- When a request was recorded for the first time. -/
def firstRecord (requestId : String) : List (Event ℕ Call Reply) → Option ℕ
  | [] => none
  | e :: h =>
    match firstRecord requestId h with
    | some time => some time
    | none =>
      match e.call with
      | .recordCost o =>
        match recordArgs o with
        | .ok args => if args.requestId = requestId then some e.time else none
        | .error _ => none
      | _ => none

/-- What a call records after the history: a first record of its request. -/
def counted (h : List (Event ℕ Call Reply)) (call : Call) : Option RecordArgs :=
  match call with
  | .recordCost o =>
    match recordArgs o with
    | .ok args => if firstRecord args.requestId h = none then some args else none
    | .error _ => none
  | _ => none

/-- The ledgers that a record names. -/
def RecordArgs.names (args : RecordArgs) (ledger : LedgerId) : Prop :=
  ledger ∈ args.ledgers.map Prod.fst

instance (args : RecordArgs) (ledger : LedgerId) : Decidable (args.names ledger) :=
  inferInstanceAs (Decidable (ledger ∈ args.ledgers.map Prod.fst))

/-- The realized cost, in micros, of the distinct requests recorded in a ledger. -/
def spent (ledger : LedgerId) : List (Event ℕ Call Reply) → ℤ
  | [] => 0
  | e :: h =>
    match counted h e.call with
    | some args => if args.names ledger then spent ledger h + args.realized else spent ledger h
    | none => spent ledger h

/-- The time of the last record in a ledger. -/
def lastRecord (ledger : LedgerId) : List (Event ℕ Call Reply) → Option ℕ
  | [] => none
  | e :: h =>
    match counted h e.call with
    | some args => if args.names ledger then some e.time else lastRecord ledger h
    | none => lastRecord ledger h

/-- The retention of a ledger in milliseconds. The lifetime ledger has none. -/
def LedgerId.retentionMs (ledger : LedgerId) : Option ℕ :=
  match ledger.period with
  | .day _ => some (ledgerDayTtlSeconds * 1000)
  | .month _ => some (ledgerMonthTtlSeconds * 1000)
  | .all => none

/-- At time `now` the retention has not elapsed since the last record. -/
def WithinRetention (ledger : LedgerId) (now : ℕ) (h : List (Event ℕ Call Reply)) : Prop :=
  ∀ time ∈ lastRecord ledger h, ∀ retention ∈ ledger.retentionMs, now < time + retention

instance (ledger : LedgerId) (now : ℕ) (h : List (Event ℕ Call Reply)) :
    Decidable (WithinRetention ledger now h) :=
  inferInstanceAs (Decidable
    (∀ time ∈ lastRecord ledger h, ∀ retention ∈ ledger.retentionMs, now < time + retention))

/-- No record came after the retention had elapsed. -/
def Retained (ledger : LedgerId) : List (Event ℕ Call Reply) → Prop
  | [] => True
  | e :: h => Retained ledger h ∧
    ∀ args ∈ counted h e.call, args.names ledger → WithinRetention ledger e.time h

instance decidableRetained (ledger : LedgerId) :
    (h : List (Event ℕ Call Reply)) → Decidable (Retained ledger h)
  | [] => isTrue trivial
  | e :: h =>
    have := decidableRetained ledger h
    inferInstanceAs (Decidable (Retained ledger h ∧
      ∀ args ∈ counted h e.call, args.names ledger → WithinRetention ledger e.time h))

/-- Requests are recorded again only within the idempotency TTL. -/
def Replays (h : List (Event ℕ Call Reply)) (_ : State) (now : ℕ) : Call → Prop
  | .recordCost o => ∀ args, recordArgs o = .ok args →
    ∀ time ∈ firstRecord args.requestId h, now < time + ledgerIdempotencyTtlSeconds * 1000
  | _ => True

instance (h : List (Event ℕ Call Reply)) (s : State) (now : ℕ) :
    (call : Call) → Decidable (Replays h s now call)
  | .recordCost o => inferInstanceAs (Decidable (∀ args, recordArgs o = .ok args →
      ∀ time ∈ firstRecord args.requestId h, now < time + ledgerIdempotencyTtlSeconds * 1000))
  | .reserve _ => isTrue trivial
  | .release _ => isTrue trivial

/-- No reserve charges a lifetime ledger. -/
def NoLifetimeCharge (s : State) (now : ℕ) : Call → Prop
  | .reserve r => ∀ args, reserveArgs r = .ok args →
    verdict args (purgeAll now args.ledgers s.accounts) = .charged →
    ∀ ledger ∈ args.ledgers, ledger.period ≠ .all
  | _ => True

instance (s : State) (now : ℕ) : (call : Call) → Decidable (NoLifetimeCharge s now call)
  | .recordCost _ => isTrue trivial
  | .reserve r => inferInstanceAs (Decidable (∀ args, reserveArgs r = .ok args →
      verdict args (purgeAll now args.ledgers s.accounts) = .charged →
      ∀ ledger ∈ args.ledgers, ledger.period ≠ .all))
  | .release _ => isTrue trivial

/-- Replays within the idempotency TTL, and no charge of a lifetime ledger. -/
def Lasting (h : List (Event ℕ Call Reply)) (s : State) (now : ℕ) (call : Call) : Prop :=
  Replays h s now call ∧ NoLifetimeCharge s now call

instance (h : List (Event ℕ Call Reply)) (s : State) (now : ℕ) (call : Call) :
    Decidable (Lasting h s now call) :=
  inferInstanceAs (Decidable (Replays h s now call ∧ NoLifetimeCharge s now call))

/-- The realized total and the expiry of a ledger. -/
def Carries (total : ℤ) (deadline : Option ℕ) (a : Account) : Prop :=
  a.counters.realizedMicros = total ∧ a.ledger.deadline? = deadline

section Account

variable {total : ℤ} {deadline : Option ℕ} {a : Account} {now : ℕ}

theorem Carries.not_lapsed (carries : Carries total deadline a) (hahead : ∀ d ∈ deadline, now < d) :
    ¬a.ledger.Lapsed now := by
  rintro ⟨d, hd, hle⟩
  rw [carries.2] at hd
  exact absurd (hahead d hd) (not_lt.mpr hle)

theorem Carries.live (carries : Carries total deadline a) (hahead : ∀ d ∈ deadline, now < d) :
    Carries total deadline (a.live now) := by
  have hledger : (a.live now).ledger = a.ledger :=
    Key.live_of_not_lapsed (carries.not_lapsed hahead)
  rw [Carries, Account.counters, hledger]
  exact carries

theorem Carries.drop (carries : Carries total deadline a) (requestId : String) :
    Carries total deadline (a.drop requestId) := by
  rw [Carries, Account.realized_drop, Account.deadline?_ledger_drop]
  exact carries

theorem Carries.purge (carries : Carries total deadline a) :
    Carries total deadline (a.purge now) :=
  Account.purge_keeps carries fun id _ _ _ _ hb => hb.drop id

/-- A charge leaves the expiry of a ledger that has one. -/
theorem Carries.charge {d : ℕ} (carries : Carries total (some d) a) (hlt : now < d)
    {requestId : String} {amount : ℤ} {ledgerTtlMs ttlMs : ℕ} :
    Carries total (some d) (a.charge requestId amount ledgerTtlMs ttlMs now) := by
  refine ⟨?_, ?_⟩
  · rw [Account.counters_charge]
    exact carries.1
  · have hdeadline : (a.addReserved amount).ledger.deadline? = some d := carries.2
    have hpttl : ¬(a.addReserved amount).ledger.pttl now < 0 := by
      rw [Key.pttl_neg_iff (Key.not_lapsed_of_lt hdeadline hlt), hdeadline]
      simp
    rw [Account.charge]
    dsimp only
    rw [if_neg fun hc => hpttl hc.1]
    exact hdeadline

/-- A ledger without spend has none after it lapses. -/
theorem realized_live_of_eq_zero (hzero : a.counters.realizedMicros = 0) :
    (a.live now).counters.realizedMicros = 0 := by
  by_cases hl : a.ledger.Lapsed now
  · rw [Account.counters, Account.live, Key.live_of_lapsed hl]
    rfl
  · rw [Account.counters, Account.live, Key.live_of_not_lapsed hl]
    exact hzero

theorem realized_purge_of_eq_zero (hzero : a.counters.realizedMicros = 0) :
    ((a.live now).purge now).counters.realizedMicros = 0 :=
  Account.purge_keeps (Q := fun b => b.counters.realizedMicros = 0)
    (realized_live_of_eq_zero hzero) fun id _ _ _ b hb => by
      rw [Account.realized_drop]
      exact hb

/-- A record adds its cost and leaves a lifetime ledger without an expiry. -/
theorem Carries.recordLifetime (carries : Carries total none a) (args : RecordArgs) :
    Carries (total + args.realized) none (a.record args none now) := by
  have live : Carries total none (a.live now) := carries.live (by simp)
  refine ⟨?_, ?_⟩
  · rw [Account.counters_record, ← live.1]
    rfl
  · rw [Account.deadline?_ledger_record]
    exact live.2

/-- A record adds its cost and renews the retention. -/
theorem carries_record (hlive : (a.live now).counters.realizedMicros = total) (args : RecordArgs)
    (seconds : ℕ) :
    Carries (total + args.realized) (some (now + seconds * 1000))
      (a.record args (some seconds) now) := by
  refine ⟨?_, Account.deadline?_ledger_record⟩
  rw [Account.counters_record, ← hlive]
  rfl

end Account

section Remembers

variable {h : List (Event ℕ Call Reply)} {e : Event ℕ Call Reply} {s : State} {now time : ℕ}
  {requestId : String}

theorem firstRecord_cons_of_some (hfirst : firstRecord requestId h = some time) :
    firstRecord requestId (e :: h) = some time := by
  simp only [firstRecord, hfirst]

/-- Only a record of the request is a first record. -/
theorem firstRecord_cons {requestId : String}
    (hcall : ∀ o args, e.call = .recordCost o → recordArgs o = .ok args →
      args.requestId = requestId → firstRecord requestId h ≠ none) :
    firstRecord requestId (e :: h) = firstRecord requestId h := by
  cases hfirst : firstRecord requestId h with
  | some time => exact firstRecord_cons_of_some hfirst
  | none =>
    simp only [firstRecord, hfirst]
    split
    · next o ho =>
      split
      · next args hargs =>
        rw [if_neg]
        intro hid
        exact hcall o args ho hargs hid hfirst
      · rfl
    · rfl

theorem firstRecord_recordCost {o : SharedCostObservation} {args : RecordArgs} {reply : Reply}
    (hargs : recordArgs o = .ok args) (hnone : firstRecord args.requestId h = none) :
    firstRecord args.requestId (⟨now, .recordCost o, reply⟩ :: h) = some now := by
  simp [firstRecord, hnone, hargs]

theorem firstRecord_le (hpast : ∀ e ∈ h, e.time ≤ now)
    (hfirst : firstRecord requestId h = some time) : time ≤ now := by
  induction h with
  | nil => simp [firstRecord] at hfirst
  | cons e h ih =>
    cases hbefore : firstRecord requestId h with
    | some time' =>
      obtain rfl := Option.some.inj (hfirst.symm.trans (firstRecord_cons_of_some hbefore))
      exact ih (fun e he => hpast e (List.mem_cons_of_mem _ he)) hbefore
    | none =>
      have htime : time = e.time := by
        simp only [firstRecord, hbefore] at hfirst
        split at hfirst
        · split at hfirst
          · split at hfirst
            · exact (Option.some.inj hfirst).symm
            · simp at hfirst
          · simp at hfirst
        · simp at hfirst
      exact htime ▸ hpast e List.mem_cons_self

/-- The set of recorded ids against the history: it holds recorded requests only, and each of
them for the idempotency TTL. -/
structure Remembers (h : List (Event ℕ Call Reply)) (seen : Key (Finset String)) : Prop where
  recorded : ∀ id ∈ seen.value?.getD ∅, firstRecord id h ≠ none
  kept : ∀ id time, firstRecord id h = some time →
    (id ∈ seen.value?.getD ∅ ∧
      ∀ d ∈ seen.deadline?, time + ledgerIdempotencyTtlSeconds * 1000 ≤ d) ∨
    time + ledgerIdempotencyTtlSeconds * 1000 ≤ clock h

/-- A call that is no first record leaves the set as it is. -/
theorem Remembers.quiet {seen : Key (Finset String)} (remembers : Remembers h seen)
    (hclock : clock h ≤ e.time) (hfirst : ∀ id, firstRecord id (e :: h) = firstRecord id h) :
    Remembers (e :: h) seen := by
  refine ⟨fun id hid => ?_, fun id time hid => ?_⟩
  · rw [hfirst id]
    exact remembers.recorded id hid
  · rw [hfirst id] at hid
    exact (remembers.kept id time hid).imp_right fun hle => hle.trans hclock

/-- A member of the set that a script finds. -/
theorem seen_of_live {seen : Key (Finset String)}
    (hmem : requestId ∈ (seen.live now).value?.getD ∅) : seen.live now = seen := by
  refine Key.live_of_not_lapsed fun hl => ?_
  rw [Key.live_of_lapsed hl] at hmem
  simp at hmem

/-- What a script finds of the set still holds the requests of the idempotency TTL. -/
theorem Remembers.kept_live (remembers : Remembers h s.seen) (hclock : clock h ≤ now)
    (hfirst : firstRecord requestId h = some time) :
    requestId ∈ (s.seen.live now).value?.getD ∅ ∨
      time + ledgerIdempotencyTtlSeconds * 1000 ≤ now := by
  rcases remembers.kept requestId time hfirst with ⟨hmem, hdeadline⟩ | hle
  · by_cases hl : s.seen.Lapsed now
    · obtain ⟨d, hd, hle⟩ := hl
      exact .inr ((hdeadline d hd).trans hle)
    · rw [Key.live_of_not_lapsed hl]
      exact .inl hmem
  · exact .inr (hle.trans hclock)

theorem Remembers.recordCost (remembers : Remembers h s.seen) (hpast : ∀ e ∈ h, e.time ≤ now)
    (o : SharedCostObservation) :
    Remembers (Service.event serve now (.recordCost o) s :: h)
      (serve now (.recordCost o) s).2.seen := by
  have hclock := clock_le hpast
  simp only [Service.event, serve, Budget.recordCost]
  cases hargs : recordArgs o with
  | error e =>
    refine remembers.quiet hclock fun id => firstRecord_cons fun o' args ho hargs' => ?_
    obtain rfl := Call.recordCost.inj ho
    simp [hargs] at hargs'
  | ok args =>
    simp only [recordCostScript]
    by_cases hmem : args.requestId ∈ (s.seen.live now).value?.getD ∅
    · rw [if_pos hmem]
      have hlive := seen_of_live hmem
      dsimp only
      rw [hlive] at hmem ⊢
      refine remembers.quiet hclock fun id => firstRecord_cons fun o' args' ho hargs' hid => ?_
      obtain rfl := Call.recordCost.inj ho
      obtain rfl := Except.ok.inj (hargs.symm.trans hargs')
      exact hid ▸ remembers.recorded _ hmem
    · rw [if_neg hmem]
      refine ⟨fun id hid => ?_, fun id time hfirst => ?_⟩
      · rcases Finset.mem_insert.mp hid with rfl | hid
        · cases hfirst : firstRecord args.requestId h with
          | none => simp [firstRecord_recordCost hargs hfirst]
          | some time => simp [firstRecord_cons_of_some hfirst]
        · rw [seen_of_live hid] at hid
          obtain ⟨time, hfirst⟩ := Option.ne_none_iff_exists'.mp (remembers.recorded id hid)
          simp [firstRecord_cons_of_some hfirst]
      · cases hbefore : firstRecord id h with
        | some time' =>
          obtain rfl := Option.some.inj (hfirst.symm.trans (firstRecord_cons_of_some hbefore))
          refine (remembers.kept_live hclock hbefore).imp_left fun hid => ?_
          refine ⟨Finset.mem_insert_of_mem hid, fun d hd => ?_⟩
          rw [← Option.some.inj hd]
          exact Nat.add_le_add_right (firstRecord_le hpast hbefore) _
        | none =>
          -- the request of this call, recorded here for the first time
          have hid : id = args.requestId := by
            by_contra hne
            rw [firstRecord_cons fun o' args' ho hargs' hid => ?_, hbefore] at hfirst
            · simp at hfirst
            · obtain rfl := Call.recordCost.inj ho
              obtain rfl := Except.ok.inj (hargs.symm.trans hargs')
              exact absurd hid.symm hne
          subst hid
          obtain rfl := Option.some.inj
            (hfirst.symm.trans (firstRecord_recordCost hargs hbefore))
          refine .inl ⟨Finset.mem_insert_self _ _, fun d hd => ?_⟩
          exact (Option.some.inj hd).le

theorem remembers_of_run {Ok : List (Event ℕ Call Reply) → State → ℕ → Call → Prop}
    (run : Service.Run serve Ok initial h s) : Remembers h s.seen := by
  induction run with
  | nil => exact ⟨by simp [initial], by simp [firstRecord]⟩
  | @cons h s now call _ hpast _ ih =>
    have hclock := clock_le hpast
    cases call with
    | recordCost o => exact ih.recordCost hpast o
    | reserve r =>
      have hseen : (serve now (.reserve r) s).2.seen = s.seen := by
        simp only [serve, reserveBudget]
        split <;> rfl
      rw [hseen]
      exact ih.quiet hclock fun id => firstRecord_cons fun o _ ho => by cases ho
    | release r =>
      have hseen : (serve now (.release r) s).2.seen = s.seen := by
        simp only [serve, releaseBudget]
        split <;> rfl
      rw [hseen]
      exact ih.quiet hclock fun id => firstRecord_cons fun o _ ho => by cases ho

/-- When requests are replayed within the idempotency TTL only, the script skips exactly the
requests that were recorded before. -/
theorem seen_iff (remembers : Remembers h s.seen) (hclock : clock h ≤ now)
    {o : SharedCostObservation} {args : RecordArgs} (hargs : recordArgs o = .ok args)
    (hreplays : Replays h s now (.recordCost o)) :
    args.requestId ∈ (s.seen.live now).value?.getD ∅ ↔ firstRecord args.requestId h ≠ none := by
  constructor
  · intro hmem
    rw [seen_of_live hmem] at hmem
    exact remembers.recorded _ hmem
  · intro hne
    obtain ⟨time, hfirst⟩ := Option.ne_none_iff_exists'.mp hne
    refine (remembers.kept_live hclock hfirst).resolve_right ?_
    have := hreplays args hargs time hfirst
    omega

end Remembers

section Calls

variable {h : List (Event ℕ Call Reply)} {s : State} {now : ℕ} {call : Call} {ledger : LedgerId}
  {o : SharedCostObservation} {args : RecordArgs}

/-- The retention of a ledger is the same in every record. -/
theorem retentionMs_of_mem {entry : LedgerId × Option ℕ} (hentry : entry ∈ args.ledgers) :
    entry.1.retentionMs = entry.2.map (· * 1000) := by
  obtain ⟨scope, _, hentry⟩ := List.mem_flatMap.mp hentry
  simp only [scopeLedgers, List.mem_cons, List.not_mem_nil, or_false] at hentry
  rcases hentry with rfl | rfl | rfl <;> rfl

/-- What the call records, by the history and by the script. -/
theorem counted_eq_some (hcounted : counted h call = some args) :
    ∃ o, call = .recordCost o ∧ recordArgs o = .ok args ∧ firstRecord args.requestId h = none := by
  simp only [counted] at hcounted
  split at hcounted
  · next o =>
    split at hcounted
    · next args' hargs =>
      split at hcounted
      · next hnone =>
        obtain rfl := Option.some.inj hcounted
        exact ⟨o, rfl, hargs, hnone⟩
      · simp at hcounted
    · simp at hcounted
  · simp at hcounted

/-- A first record reaches each of its ledgers once. -/
theorem accounts_counted (remembers : Remembers h s.seen) (hclock : clock h ≤ now)
    (hreplays : Replays h s now call) (hcounted : counted h call = some args)
    (hnames : args.names ledger) :
    ∃ retention, ledger.retentionMs = retention.map (· * 1000) ∧
      (serve now call s).2.accounts ledger = (s.accounts ledger).record args retention now := by
  obtain ⟨o, rfl, hargs, hnone⟩ := counted_eq_some hcounted
  obtain ⟨entry, hentry, rfl⟩ := List.mem_map.mp hnames
  refine ⟨entry.2, retentionMs_of_mem hentry, ?_⟩
  have hnew : args.requestId ∉ (s.seen.live now).value?.getD ∅ := by
    rw [seen_iff remembers hclock hargs hreplays]
    simpa using hnone
  simp only [serve, recordCost, hargs, recordCostScript]
  rw [if_neg hnew]
  exact updateAll_of_nodup (ledgers_nodup (recordArgs_nodup hargs)) hentry

/-- What the purge, the removal and the charge of a reservation keep is kept by every call that
records nothing in the ledger. -/
theorem accounts_keeps {Q : Account → Prop} (remembers : Remembers h s.seen)
    (hclock : clock h ≤ now) (hreplays : Replays h s now call) (start : Q (s.accounts ledger))
    (hquiet : ∀ args, counted h call = some args → ¬args.names ledger)
    (purge : ∀ a, Q a → Q ((a.live now).purge now))
    (drop : ∀ a requestId, Q a → Q ((a.live now).drop requestId))
    (charge : ∀ r args, call = .reserve r → reserveArgs r = .ok args →
      verdict args (purgeAll now args.ledgers s.accounts) = .charged → ledger ∈ args.ledgers →
      ∀ a ledgerTtlMs, Q a →
        Q (a.charge args.requestId args.amount ledgerTtlMs reservationTtlMs now)) :
    Q ((serve now call s).2.accounts ledger) := by
  refine serve_keeps start purge (fun r _ _ _ _ a ha => drop a r.requestId ha) charge
    fun o args retention hcall hargs hnew hentry => ?_
  subst hcall
  have hnone : firstRecord args.requestId h = none := by
    by_contra hne
    exact hnew ((seen_iff remembers hclock hargs hreplays).mpr hne)
  have hnames : args.names ledger := List.mem_map.mpr ⟨_, hentry, rfl⟩
  exact absurd hnames (hquiet args (by simp [counted, hargs, hnone]))

end Calls

section Runs

variable {h : List (Event ℕ Call Reply)} {e : Event ℕ Call Reply} {s : State} {now : ℕ}
  {ledger : LedgerId} {args : RecordArgs}

theorem spent_cons_of_names (hcounted : counted h e.call = some args) (hnames : args.names ledger) :
    spent ledger (e :: h) = spent ledger h + args.realized := by
  simp only [spent, hcounted, if_pos hnames]

theorem lastRecord_cons_of_names (hcounted : counted h e.call = some args)
    (hnames : args.names ledger) : lastRecord ledger (e :: h) = some e.time := by
  simp only [lastRecord, hcounted, if_pos hnames]

/-- A call that records nothing in the ledger. -/
theorem spent_cons_of_quiet (hquiet : ∀ args, counted h e.call = some args → ¬args.names ledger) :
    spent ledger (e :: h) = spent ledger h ∧ lastRecord ledger (e :: h) = lastRecord ledger h := by
  cases hcounted : counted h e.call with
  | none => simp [spent, lastRecord, hcounted]
  | some args => simp [spent, lastRecord, hcounted, hquiet args hcounted]

/-- The lifetime ledger holds all that was recorded and never has an expiry. -/
theorem lifetime_of_run (run : Service.Run serve Lasting initial h s) (scope : String) :
    Carries (spent ⟨.all, scope⟩ h) none (s.accounts ⟨.all, scope⟩) := by
  induction run with
  | nil => exact ⟨rfl, rfl⟩
  | @cons h s now call run hpast hok ih =>
    have remembers := remembers_of_run run
    have hclock := clock_le hpast
    by_cases hrecord : ∃ args, counted h call = some args ∧ args.names ⟨.all, scope⟩
    · obtain ⟨args, hcounted, hnames⟩ := hrecord
      obtain ⟨retention, hretention, haccount⟩ :=
        accounts_counted remembers hclock hok.1 hcounted hnames
      obtain rfl : retention = none := Option.map_eq_none_iff.mp hretention.symm
      rw [haccount, spent_cons_of_names hcounted hnames]
      exact ih.recordLifetime args
    · have hquiet : ∀ args, counted h call = some args → ¬args.names ⟨.all, scope⟩ :=
        fun args hcounted hnames => hrecord ⟨args, hcounted, hnames⟩
      rw [(spent_cons_of_quiet hquiet).1]
      refine accounts_keeps remembers hclock hok.1 ih hquiet (fun a ha => ?_)
        (fun a requestId ha => ?_) fun r args hcall hargs hverdict hmem => ?_
      · exact (ha.live (by simp)).purge
      · exact (ha.live (by simp)).drop requestId
      · subst hcall
        exact absurd rfl (hok.2 args hargs hverdict _ hmem)

/-- A ledger with a retention: nothing was recorded there and no spend is stored, or the
retention has elapsed since the last record, or the ledger lives at least that long. -/
def Limited (ledger : LedgerId) (retention : ℕ) (h : List (Event ℕ Call Reply)) (a : Account) :
    Prop :=
  match lastRecord ledger h with
  | none => spent ledger h = 0 ∧ a.counters.realizedMicros = 0
  | some time => time + retention ≤ clock h ∨
    ∃ d, time + retention ≤ d ∧ Carries (spent ledger h) (some d) a

/-- Within the retention a reader finds what was recorded. -/
theorem Limited.realized_eq {retention : ℕ} {a : Account} (limited : Limited ledger retention h a)
    (hretention : ledger.retentionMs = some retention) (hclock : clock h ≤ now)
    (hwithin : WithinRetention ledger now h) :
    (a.live now).counters.realizedMicros = spent ledger h := by
  rw [Limited] at limited
  cases hlast : lastRecord ledger h with
  | none =>
    rw [hlast] at limited
    rw [limited.1]
    exact realized_live_of_eq_zero limited.2
  | some time =>
    rw [hlast] at limited
    have hlt := hwithin time hlast retention hretention
    obtain ⟨d, hle, carries⟩ := limited.resolve_left (by omega)
    exact (carries.live (by simpa using hlt.trans_le hle)).1

theorem limited_of_run (run : Service.Run serve Replays initial h s) {retention : ℕ}
    (hretention : ledger.retentionMs = some retention) (hretained : Retained ledger h) :
    Limited ledger retention h (s.accounts ledger) := by
  induction run with
  | nil => exact ⟨rfl, rfl⟩
  | @cons h s now call run hpast hreplays ih =>
    have limited := ih hretained.1
    have remembers := remembers_of_run run
    have hclock := clock_le hpast
    by_cases hrecord : ∃ args, counted h call = some args ∧ args.names ledger
    · obtain ⟨args, hcounted, hnames⟩ := hrecord
      obtain ⟨seconds, hseconds, haccount⟩ :=
        accounts_counted remembers hclock hreplays hcounted hnames
      obtain ⟨seconds, rfl, rfl⟩ :=
        Option.map_eq_some_iff.mp (hseconds.symm.trans hretention)
      have hlive := limited.realized_eq hretention hclock (hretained.2 args hcounted hnames)
      rw [Limited, lastRecord_cons_of_names hcounted hnames, spent_cons_of_names hcounted hnames,
        haccount]
      exact .inr ⟨_, le_rfl, carries_record hlive args seconds⟩
    · have hquiet : ∀ args, counted h call = some args → ¬args.names ledger :=
        fun args hcounted hnames => hrecord ⟨args, hcounted, hnames⟩
      rw [Limited, (spent_cons_of_quiet hquiet).1, (spent_cons_of_quiet hquiet).2]
      rw [Limited] at limited
      cases hlast : lastRecord ledger h with
      | none =>
        rw [hlast] at limited
        refine ⟨limited.1, ?_⟩
        refine accounts_keeps (Q := fun a => a.counters.realizedMicros = 0) remembers hclock
          hreplays limited.2 hquiet (fun a ha => realized_purge_of_eq_zero ha)
          (fun a requestId ha => ?_) fun r args _ _ _ _ a ledgerTtlMs ha => ?_
        · rw [Account.realized_drop]
          exact realized_live_of_eq_zero ha
        · rw [Account.counters_charge]
          exact ha
      | some time =>
        rw [hlast] at limited
        rcases le_or_gt (time + retention) now with hle | hlt
        · exact .inl hle
        · obtain ⟨d, hle, carries⟩ := limited.resolve_left (by omega)
          have hahead : ∀ d' ∈ some d, now < d' := by simpa using hlt.trans_le hle
          refine .inr ⟨d, hle, ?_⟩
          refine accounts_keeps remembers hclock hreplays carries hquiet
            (fun a ha => (ha.live hahead).purge) (fun a requestId ha => (ha.live hahead).drop _)
            fun r args _ _ _ _ a ledgerTtlMs ha => ha.charge (hlt.trans_le hle)

end Runs

theorem spend_eq {window scope date : String} {period : Period} {now : ℕ} {s : State}
    (hdate : validateLedgerDate date = .ok date) (hscope : ¬InvalidId scope)
    (hperiod : budgetPeriod date window = .ok period) : spend window scope date now s =
      .ok (((s.accounts ⟨period, scope⟩).live now).counters.realizedMicros / sharedCostScale) := by
  simp only [spend, hdate, if_neg hscope]
  change (budgetPeriod date window >>= _) = _
  rw [hperiod]
  rfl

/-- **Recorded spend.** In every run that charges no lifetime ledger and replays requests within
the idempotency TTL only: no lifetime ledger has an expiry and its spend at any later time is
what was recorded in it, each request once; and the spend of a day or a month is what was
recorded in it as long as its retention never elapsed after a record. -/
theorem spend_lossless {h : List (Event ℕ Call Reply)} {s : State}
    (run : Service.Run serve Lasting initial h s) {scope date : String}
    (hdate : validateLedgerDate date = .ok date) (hscope : ¬InvalidId scope) :
    (s.accounts ⟨.all, scope⟩).ledger.deadline? = none ∧
    (∀ now, spend "all" scope date now s = .ok (spent ⟨.all, scope⟩ h / sharedCostScale)) ∧
    ∀ window period now, budgetPeriod date window = .ok period → period ≠ .all →
      (∀ e ∈ h, e.time ≤ now) → Retained ⟨period, scope⟩ h →
      WithinRetention ⟨period, scope⟩ now h →
      spend window scope date now s = .ok (spent ⟨period, scope⟩ h / sharedCostScale) := by
  have lifetime := lifetime_of_run run scope
  refine ⟨lifetime.2, fun now => ?_, ?_⟩
  · rw [spend_eq hdate hscope (rfl : budgetPeriod date "all" = .ok .all),
      (lifetime.live (by simp)).1]
  · intro window period now hperiod hne hpast hretained hwithin
    obtain ⟨retention, hretention⟩ : ∃ retention,
        LedgerId.retentionMs ⟨period, scope⟩ = some retention := by
      cases period with
      | day date => exact ⟨_, rfl⟩
      | month month => exact ⟨_, rfl⟩
      | all => exact absurd rfl hne
    have limited := limited_of_run (run.mono fun _ _ _ _ hok => hok.1) hretention hretained
    rw [spend_eq hdate hscope hperiod, limited.realized_eq hretention (clock_le hpast) hwithin]

/-- Five units on the scope `global`. -/
def observation (requestId : String) : SharedCostObservation :=
  ⟨requestId, "2026-01-01", ["global"], .finite 5, .finite 6, .finite 1, 10, 20, false⟩

/-- A cap of ten units on all spend of the scope `global`. -/
def globalAll : SharedBudgetScope := ⟨"global", "all", .finite 10, true⟩

/-- A record, its replay and a reservation on the day: the lifetime spend is five units after
the longest retention, and so is the spend of the day while its retention lasts. -/
theorem spend_lossless_replayed :
    let calls := [(2, Call.reserve (reservation "req-2" 1 [globalDay])),
      (1, .recordCost (observation "req-1")), (0, .recordCost (observation "req-1"))]
    spend "all" "global" "2026-01-01" 157680000003 (serve.replay initial calls).2 = .ok 5 ∧
      spend "day" "global" "2026-01-01" 3 (serve.replay initial calls).2 = .ok 5 := by
  intro calls
  have hadmissible : serve.Admissible Lasting initial calls := by decide +kernel
  obtain ⟨_, hall, hday⟩ := @spend_lossless _ _ (Service.run_replay hadmissible) "global"
    "2026-01-01" (by decide +kernel) (by decide +kernel)
  refine ⟨(hall _).trans (by decide +kernel), ?_⟩
  exact (hday "day" _ 3 rfl (by simp) (by decide +kernel) (by decide +kernel)
    (by decide +kernel)).trans (by decide +kernel)

/-- A reserve with a cap on all spend gives the lifetime ledger an expiry. When it comes the
five units recorded before are forgotten. -/
theorem lifetime_spend_forgotten :
    ¬∀ h s, Service.Run serve Replays initial h s → ∀ scope date now, (∀ e ∈ h, e.time ≤ now) →
      validateLedgerDate date = .ok date → ¬InvalidId scope →
      spend "all" scope date now s = .ok (spent ⟨.all, scope⟩ h / sharedCostScale) := by
  intro hlossless
  have hadmissible : serve.Admissible Replays initial
      [(1, .reserve (reservation "req-2" 1 [globalAll])),
        (0, .recordCost (observation "req-1"))] := by decide +kernel
  have hspend := hlossless _ _ (Service.run_replay hadmissible) "global" "2026-01-01" 157680000001
    (by decide +kernel) (by decide +kernel) (by decide +kernel)
  exact absurd hspend (by decide +kernel)

end WayfinderRouter.Budget
