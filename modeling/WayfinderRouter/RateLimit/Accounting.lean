import WayfinderRouter.RateLimit.Limiter
import WayfinderRouter.Redis.Hash
import WayfinderRouter.Timed.Service

/-!
# What the counters of a limiter count

A run of one limiter, against the books that an observer of the calls keeps. The books
hold every granted reservation with what became of it in its own window, and the tokens
added. `Inv` ties the two counters to the books of the current window.

The current window is the one of the last call that advanced the limiter: counters are
reset by whichever call first notices a new window.

## Main definitions

- `serve` — the operations of a `RateLimiter`
- `currentWindow` — the window the limiter counts for
- `reservations` — the granted reservations and what became of them
- `requestsIn`, `tokensIn` — what the books say about one window
-/

namespace WayfinderRouter.RateLimit

open Redis Timed

/-- The operations. A settling call names the call that was granted the reservation, by
its position in the run. -/
inductive Call where
  | reserve (tokens : ℕ)
  | reserveTokens (tokens : ℕ)
  | reconcile (grant : ℕ) (reservation : RateReservation) (actualTokens : ℕ)
  | rollback (grant : ℕ) (reservation : RateReservation)
  | addTokens (tokens : ℕ)
  | snapshot
deriving DecidableEq

inductive Reply where
  | reserved (result : Except RateLimitError ReservationResult)
  | settled (result : Except RateLimitError Bool)
  | added (result : Except RateLimitError Unit)
  | snapshot (result : Except RateLimitError (Option RateSnapshot))

/-- The reservation that a reply grants. -/
def Reply.reservation : Reply → Option RateReservation
  | .reserved (.ok result) => result.reservation
  | _ => none

def serve : Service ℚ State Call Reply
  | now, .reserve tokens, s => (reserveAt tokens (.finite now) s).map .reserved id
  | now, .reserveTokens tokens, s => (reserveTokensAt tokens (.finite now) s).map .reserved id
  | now, .reconcile _ reservation actualTokens, s =>
    (reconcileAt reservation actualTokens (.finite now) s).map .settled id
  | now, .rollback _ reservation, s => (rollbackAt reservation (.finite now) s).map .settled id
  | now, .addTokens tokens, s => (addTokensAt tokens (.finite now) s).map .added id
  | now, .snapshot, s => (snapshotAt (.finite now) s).map .snapshot id

abbrev History := List (Event ℚ Call Reply)

/-- The call advanced the limiter to the window of its time. -/
def Advances (c : Configuration) : Event ℚ Call Reply → Bool
  | ⟨_, .reserve _, .reserved (.ok _)⟩ => decide (c.Active true)
  | ⟨_, .reserveTokens _, .reserved (.ok _)⟩ => decide (c.Active false)
  | ⟨_, .addTokens _, .added (.ok _)⟩ => c.tpm.isSome
  | ⟨_, .snapshot, .snapshot (.ok _)⟩ => c.rpm.isSome
  | _ => false

/-- The window of the last call that advanced the limiter. -/
def currentWindow (c : Configuration) : History → Option ℕ
  | [] => none
  | e :: h => if Advances c e then some (c.windowAt e.time) else currentWindow c h

/-- What became of a reservation in its window. -/
inductive Outcome where
  | outstanding
  | reconciled (actualTokens : ℕ)
  | rolledBack
deriving DecidableEq

/-- A granted reservation. -/
structure Entry where
  reservation : RateReservation
  outcome : Outcome
deriving DecidableEq

/-- The requests that an entry stands for in window `w`. -/
def Entry.requests (w : ℕ) (e : Entry) : ℤ :=
  if e.reservation.windowId = w ∧ e.reservation.reservedRequest ∧ e.outcome ≠ .rolledBack then 1
  else 0

/-- The tokens that an entry stands for in window `w`. -/
def Entry.tokens (w : ℕ) (e : Entry) : ℤ :=
  if e.reservation.windowId = w then
    match e.outcome with
    | .outstanding => e.reservation.reservedTokens
    | .reconciled actualTokens => actualTokens
    | .rolledBack => 0
  else 0

/-- The granted reservations, by the position of the call. Only a settlement in the window of
the reservation counts. -/
def reservations (c : Configuration) : History → Hash ℕ Entry
  | [] => ∅
  | e :: h => match e.call with
    | .reconcile grant r actualTokens =>
      if currentWindow c h = some r.windowId then
        (reservations c h).set grant ⟨r, .reconciled actualTokens⟩
      else reservations c h
    | .rollback grant r =>
      if currentWindow c h = some r.windowId then (reservations c h).set grant ⟨r, .rolledBack⟩
      else reservations c h
    | _ => match e.reply.reservation with
      | some r => (reservations c h).set h.length ⟨r, .outstanding⟩
      | none => reservations c h

/-- The tokens added in window `w`. -/
def added (c : Configuration) (w : ℕ) : History → ℕ
  | [] => 0
  | ⟨time, .addTokens tokens, .added (.ok _)⟩ :: h =>
    (if c.windowAt time = w then tokens else 0) + added c w h
  | _ :: h => added c w h

/-- The granted request reservations of window `w` that were not rolled back. -/
def requestsIn (c : Configuration) (w : ℕ) (h : History) : ℤ :=
  (reservations c h).sumBy (Entry.requests w)

/-- The tokens of the reservations of window `w` and the tokens added in it. -/
def tokensIn (c : Configuration) (w : ℕ) (h : History) : ℤ :=
  (reservations c h).sumBy (Entry.tokens w) + added c w h

/-- A reservation is settled by its holder and at most once, and tokens are added where they
are limited. -/
def Allowed (c : Configuration) (h : History) : Call → Prop
  | .reconcile grant r _ | .rollback grant r =>
    (reservations c h).get grant = some ⟨r, .outstanding⟩
  | .addTokens _ => c.tpm.isSome
  | _ => True

/-- The totals of the current window fit the counters. -/
def TotalsFit (c : Configuration) (h : History) : Prop :=
  ∀ w ∈ currentWindow c h, requestsIn c w h ≤ U64.max ∧ tokensIn c w h ≤ U64.max

def Ok (c : Configuration) (h : History) (s : State) (now : ℚ) (call : Call) : Prop :=
  Allowed c h call ∧ TotalsFit c (serve.event now call s :: h)

instance (c : Configuration) (h : History) (call : Call) : Decidable (Allowed c h call) := by
  cases call <;> unfold Allowed <;> infer_instance

instance (c : Configuration) (h : History) : Decidable (TotalsFit c h) :=
  match hw : currentWindow c h with
  | none => isTrue fun w h' => by simp [hw] at h'
  | some w => decidable_of_iff (requestsIn c w h ≤ U64.max ∧ tokensIn c w h ≤ U64.max)
      (by simp [TotalsFit, hw])

instance (c : Configuration) (h : History) (s : State) (now : ℚ) (call : Call) :
    Decidable (Ok c h s now call) :=
  inferInstanceAs (Decidable (_ ∧ _))

theorem Entry.requests_nonneg (w : ℕ) (e : Entry) : 0 ≤ e.requests w := by
  rw [requests]
  split <;> omega

theorem Entry.tokens_nonneg (w : ℕ) (e : Entry) : 0 ≤ e.tokens w := by
  rw [tokens]
  split
  · cases e.outcome with
    | outstanding => exact Int.natCast_nonneg _
    | reconciled actualTokens => exact Int.natCast_nonneg _
    | rolledBack => exact le_rfl
  · exact le_rfl

/-- The counters against the books. -/
structure Inv (c : Configuration) (h : History) (s : State) : Prop where
  configuration : s.configuration = c
  windowId : s.windowId = currentWindow c h
  requests : ∀ w, s.windowId = some w → (s.requests : ℤ) = requestsIn c w h
  tokens : ∀ w, s.windowId = some w → (s.tokens : ℤ) = tokensIn c w h
  bounded : ∀ rpm ∈ c.rpm, ∀ w, s.windowId = some w → s.requests ≤ rpm
  known : ∀ g e, (reservations c h).get g = some e →
    g < h.length ∧ ∃ w, currentWindow c h = some w ∧ e.reservation.windowId ≤ w
  earlier : ∀ w, added c w h ≠ 0 → ∃ w', currentWindow c h = some w' ∧ w ≤ w'
  reached : ∀ w, currentWindow c h = some w → ∃ e ∈ h, 0 ≤ e.time ∧ w = c.windowAt e.time
  granted : ∀ e h', e :: h' <:+ h → ∀ r ∈ e.reply.reservation, r.reservedTokens ≠ 0 →
    ∀ tpm ∈ c.tpm, tokensIn c r.windowId (e :: h') ≤ tpm

theorem inv_nil (c : Configuration) : Inv c [] (State.initial c) where
  configuration := rfl
  windowId := rfl
  requests := by
    intro w hw
    simp [State.initial] at hw
  tokens := by
    intro w hw
    simp [State.initial] at hw
  bounded := by
    intro rpm _ w hw
    simp [State.initial] at hw
  known := by
    intro g e he
    simp [reservations] at he
  earlier := by
    intro w hw
    simp [added] at hw
  reached := by
    intro w hw
    simp [currentWindow] at hw
  granted := by
    intro e h' hs
    simp at hs

section Steps

variable {c : Configuration} {h : History} {s s' : State} {e : Event ℚ Call Reply} {now : ℚ}

/-- The books of a window that no call has reached are empty. -/
theorem Inv.books_eq_zero (inv : Inv c h s) {w : ℕ}
    (hw : ∀ w', currentWindow c h = some w' → w' < w) :
    requestsIn c w h = 0 ∧ tokensIn c w h = 0 := by
  have hentry : ∀ g e, (reservations c h).get g = some e → e.reservation.windowId ≠ w := by
    intro g e he
    obtain ⟨w', hw', hle⟩ := (inv.known g e he).2
    have := hw w' hw'
    omega
  have hadded : added c w h = 0 := by
    by_contra hne
    obtain ⟨w', hw', hle⟩ := inv.earlier w hne
    have := hw w' hw'
    omega
  constructor
  · apply Hash.sumBy_eq_zero
    intro g
    cases hg : (reservations c h).get g with
    | none => rfl
    | some e => simp [Entry.requests, hentry g e hg]
  · have hsum : (reservations c h).sumBy (Entry.tokens w) = 0 := by
      apply Hash.sumBy_eq_zero
      intro g
      cases hg : (reservations c h).get g with
      | none => rfl
      | some e => simp [Entry.tokens, hentry g e hg]
    rw [tokensIn, hsum, hadded]
    rfl

theorem Inv.window_le (inv : Inv c h s) (htime : ∀ e ∈ h, e.time ≤ now) {w : ℕ}
    (hw : currentWindow c h = some w) : w ≤ c.windowAt now := by
  obtain ⟨e, he, -, rfl⟩ := inv.reached w hw
  exact c.windowAt_mono (htime e he)

/-- Advancing finds the counters of the new window. -/
theorem Inv.rolled (inv : Inv c h s) (htime : ∀ e ∈ h, e.time ≤ now) :
    ((rolled now s).requests : ℤ) = requestsIn c (c.windowAt now) h ∧
      ((rolled now s).tokens : ℤ) = tokensIn c (c.windowAt now) h ∧
        ∀ rpm ∈ c.rpm, (RateLimit.rolled now s).requests ≤ rpm := by
  rw [RateLimit.rolled, inv.configuration]
  by_cases hw : s.windowId = some (c.windowAt now)
  · rw [if_pos hw]
    exact ⟨inv.requests _ hw, inv.tokens _ hw, fun rpm hrpm => inv.bounded rpm hrpm _ hw⟩
  · rw [if_neg hw]
    have hlt : ∀ w, currentWindow c h = some w → w < c.windowAt now := by
      intro w hcur
      refine lt_of_le_of_ne (inv.window_le htime hcur) ?_
      rintro rfl
      exact hw (inv.windowId.trans hcur)
    obtain ⟨hr, ht⟩ := inv.books_eq_zero hlt
    exact ⟨hr.symm, ht.symm, fun rpm _ => Nat.zero_le rpm⟩

/-- A call that the books do not record leaves the limiter alone. -/
theorem Inv.idle (inv : Inv c h s) (hadv : Advances c e = false)
    (hres : reservations c (e :: h) = reservations c h)
    (hadd : ∀ w, added c w (e :: h) = added c w h) (hnone : e.reply.reservation = none) :
    Inv c (e :: h) s := by
  have hcur : currentWindow c (e :: h) = currentWindow c h := by simp [currentWindow, hadv]
  refine ⟨inv.configuration, hcur ▸ inv.windowId, ?_, ?_, inv.bounded, ?_, ?_, ?_, ?_⟩
  · intro w hw
    rw [requestsIn, hres]
    exact inv.requests w hw
  · intro w hw
    rw [tokensIn, hres, hadd]
    exact inv.tokens w hw
  · intro g entry hg
    rw [hres] at hg
    rw [hcur, List.length_cons]
    obtain ⟨hlt, hw⟩ := inv.known g entry hg
    exact ⟨by omega, hw⟩
  · intro w hw
    rw [hadd] at hw
    rw [hcur]
    exact inv.earlier w hw
  · intro w hw
    rw [hcur] at hw
    obtain ⟨e', he', hrest⟩ := inv.reached w hw
    exact ⟨e', List.mem_cons_of_mem _ he', hrest⟩
  · intro e' h' hs r hr
    rcases List.suffix_cons_iff.mp hs with heq | hs
    · obtain ⟨rfl, rfl⟩ := List.cons.inj heq
      simp [hnone] at hr
    · exact inv.granted e' h' hs r hr

/-- A call that advances the limiter: the books of other windows stay as they are. -/
theorem Inv.advance (inv : Inv c h s) (htime : ∀ e' ∈ h, e'.time ≤ e.time) (hnow : 0 ≤ e.time)
    (hadv : Advances c e = true) (hconf : s'.configuration = c)
    (hid : s'.windowId = some (c.windowAt e.time))
    (hreq : (s'.requests : ℤ) = requestsIn c (c.windowAt e.time) (e :: h))
    (htok : (s'.tokens : ℤ) = tokensIn c (c.windowAt e.time) (e :: h))
    (hrpm : ∀ rpm ∈ c.rpm, s'.requests ≤ rpm)
    (hknown : ∀ g entry, (reservations c (e :: h)).get g = some entry →
      (reservations c h).get g = some entry ∨
        g = h.length ∧ entry.reservation.windowId = c.windowAt e.time)
    (hadd : ∀ w, added c w (e :: h) = added c w h ∨ w = c.windowAt e.time)
    (hgrant : ∀ r ∈ e.reply.reservation, r.reservedTokens ≠ 0 → ∀ tpm ∈ c.tpm,
      tokensIn c r.windowId (e :: h) ≤ tpm) : Inv c (e :: h) s' := by
  have hcur : currentWindow c (e :: h) = some (c.windowAt e.time) := by simp [currentWindow, hadv]
  refine ⟨hconf, hid.trans hcur.symm, ?_, ?_, fun rpm hmem _ _ => hrpm rpm hmem, ?_, ?_, ?_, ?_⟩
  · intro w hw
    obtain rfl := Option.some.inj (hid.symm.trans hw)
    exact hreq
  · intro w hw
    obtain rfl := Option.some.inj (hid.symm.trans hw)
    exact htok
  · intro g entry hg
    rw [List.length_cons]
    rcases hknown g entry hg with hold | ⟨rfl, hw⟩
    · obtain ⟨hlt, w, hw, hle⟩ := inv.known g entry hold
      exact ⟨by omega, _, hcur, hle.trans (inv.window_le htime hw)⟩
    · exact ⟨by omega, _, hcur, hw.le⟩
  · intro w hw
    refine ⟨_, hcur, ?_⟩
    rcases hadd w with heq | rfl
    · obtain ⟨w', hw', hle⟩ := inv.earlier w (heq ▸ hw)
      exact hle.trans (inv.window_le htime hw')
    · exact le_rfl
  · intro w hw
    obtain rfl := Option.some.inj (hcur.symm.trans hw)
    exact ⟨e, List.mem_cons_self, hnow, rfl⟩
  · intro e' h' hs r hr
    rcases List.suffix_cons_iff.mp hs with heq | hs
    · obtain ⟨rfl, rfl⟩ := List.cons.inj heq
      exact hgrant r hr
    · exact inv.granted e' h' hs r hr

/-- A call that only advances the limiter. -/
theorem Inv.look (inv : Inv c h s) (htime : ∀ e' ∈ h, e'.time ≤ e.time) (hnow : 0 ≤ e.time)
    (hadv : Advances c e = true) (hres : reservations c (e :: h) = reservations c h)
    (hadd : ∀ w, added c w (e :: h) = added c w h) (hnone : e.reply.reservation = none) :
    Inv c (e :: h) (RateLimit.rolled e.time s) := by
  obtain ⟨hreq, htok, hrpm⟩ := inv.rolled htime
  refine inv.advance htime hnow hadv ?_ ?_ ?_ ?_ hrpm ?_ ?_ ?_
  · rw [configuration_rolled, inv.configuration]
  · rw [windowId_rolled, inv.configuration]
  · rw [hreq, requestsIn, requestsIn, hres]
  · rw [htok, tokensIn, tokensIn, hres, hadd]
  · intro g entry hg
    exact .inl (hres ▸ hg)
  · intro w
    exact .inl (hadd w)
  · intro r hr
    simp [hnone] at hr

/-- What the books of a new reservation add up to. -/
theorem Inv.sumBy_grant (inv : Inv c h s) (r : RateReservation) (weight : Entry → ℤ) :
    ((reservations c h).set h.length ⟨r, .outstanding⟩).sumBy weight =
      (reservations c h).sumBy weight + weight ⟨r, .outstanding⟩ := by
  have hnew : (reservations c h).get h.length = none := by
    by_contra hne
    obtain ⟨entry, hg⟩ := Option.ne_none_iff_exists'.mp hne
    exact absurd (inv.known _ entry hg).1 (lt_irrefl _)
  rw [Hash.sumBy_set, hnew, Option.elim_none, sub_zero]

/-- A granted reservation. -/
theorem Inv.grant (inv : Inv c h s) (htime : ∀ e' ∈ h, e'.time ≤ e.time) (hnow : 0 ≤ e.time)
    (hadv : Advances c e = true) {tokens : ℕ} {request : Bool}
    (hreply : e.reply.reservation = some ⟨c.windowAt e.time, tokens, request⟩)
    (hres : reservations c (e :: h) =
      (reservations c h).set h.length ⟨⟨c.windowAt e.time, tokens, request⟩, .outstanding⟩)
    (hadd : ∀ w, added c w (e :: h) = added c w h) (hfit : TotalsFit c (e :: h))
    (hfree : limiting tokens request (RateLimit.rolled e.time s) = none) :
    Inv c (e :: h) (charge tokens request (RateLimit.rolled e.time s)) := by
  obtain ⟨hreq, htok, hrpm⟩ := inv.rolled htime
  have hcur : currentWindow c (e :: h) = some (c.windowAt e.time) := by simp [currentWindow, hadv]
  obtain ⟨hfitreq, hfittok⟩ := hfit _ hcur
  have hbooksreq : requestsIn c (c.windowAt e.time) (e :: h) =
      requestsIn c (c.windowAt e.time) h + if request then 1 else 0 := by
    rw [requestsIn, hres, inv.sumBy_grant]
    simp [requestsIn, Entry.requests]
  have hbookstok : tokensIn c (c.windowAt e.time) (e :: h) =
      tokensIn c (c.windowAt e.time) h + tokens := by
    rw [tokensIn, hres, inv.sumBy_grant, hadd, tokensIn]
    simp [Entry.tokens]
    ring
  have htokens : U64.saturatingAdd (RateLimit.rolled e.time s).tokens tokens =
      (RateLimit.rolled e.time s).tokens + tokens := by
    apply U64.saturatingAdd_eq
    omega
  have hconf : (RateLimit.rolled e.time s).configuration = c := by
    rw [configuration_rolled, inv.configuration]
  refine inv.advance htime hnow hadv hconf ?_ ?_ ?_ ?_ ?_ ?_ ?_
  · rw [charge, windowId_rolled, inv.configuration]
  · rw [hbooksreq]
    cases request with
    | false => simpa [charge] using hreq
    | true =>
      simp only [if_true] at hbooksreq ⊢
      rw [charge, if_pos rfl, U64.saturatingAdd_eq (by omega)]
      push_cast
      omega
  · rw [hbookstok, charge, htokens]
    push_cast
    omega
  · intro rpm hmem
    cases request with
    | false => exact hrpm rpm hmem
    | true =>
      have hlt := (limiting_eq_none hfree).1 rfl rpm (hconf ▸ hmem)
      exact (U64.saturatingAdd_le _ _).trans hlt
  · intro g entry hg
    rw [hres, Hash.get_set] at hg
    split at hg
    · next hgl =>
      obtain rfl := Option.some.inj hg
      exact .inr ⟨hgl, rfl⟩
    · exact .inl hg
  · intro w
    exact .inl (hadd w)
  · intro r hr hne tpm hmem
    rw [hreply] at hr
    obtain rfl := Option.some.inj hr
    have hle := (limiting_eq_none hfree).2 tpm (hconf ▸ hmem)
    rw [if_neg hne] at hle
    rw [hbookstok]
    omega

/-- Tokens added. -/
theorem Inv.add (inv : Inv c h s) (htime : ∀ e' ∈ h, e'.time ≤ e.time) (hnow : 0 ≤ e.time)
    (hadv : Advances c e = true) {tokens : ℕ} (hnone : e.reply.reservation = none)
    (hres : reservations c (e :: h) = reservations c h)
    (hadd : ∀ w, added c w (e :: h) = (if c.windowAt e.time = w then tokens else 0) + added c w h)
    (hfit : TotalsFit c (e :: h)) :
    Inv c (e :: h) (charge tokens false (RateLimit.rolled e.time s)) := by
  obtain ⟨hreq, htok, hrpm⟩ := inv.rolled htime
  have hcur : currentWindow c (e :: h) = some (c.windowAt e.time) := by simp [currentWindow, hadv]
  have hfittok := (hfit _ hcur).2
  have hbookstok : tokensIn c (c.windowAt e.time) (e :: h) =
      tokensIn c (c.windowAt e.time) h + tokens := by
    rw [tokensIn, hres, hadd, if_pos rfl, tokensIn]
    push_cast
    ring
  have htokens : U64.saturatingAdd (RateLimit.rolled e.time s).tokens tokens =
      (RateLimit.rolled e.time s).tokens + tokens := by
    apply U64.saturatingAdd_eq
    omega
  refine inv.advance htime hnow hadv ?_ ?_ ?_ ?_ hrpm ?_ ?_ ?_
  · rw [charge, configuration_rolled, inv.configuration]
  · rw [charge, windowId_rolled, inv.configuration]
  · rw [requestsIn, hres]
    exact hreq
  · rw [hbookstok, charge, htokens]
    push_cast
    omega
  · intro g entry hg
    exact .inl (hres ▸ hg)
  · intro w
    by_cases hw : c.windowAt e.time = w
    · exact .inr hw.symm
    · exact .inl (by rw [hadd, if_neg hw, zero_add])
  · intro r hr
    simp [hnone] at hr

section Settle

variable {grant : ℕ} {r : RateReservation} {outcome : Outcome}

/-- The counters cover a reservation that is still outstanding. -/
theorem Inv.covers (inv : Inv c h s) (hcur : currentWindow c h = some r.windowId)
    (hget : (reservations c h).get grant = some ⟨r, .outstanding⟩) :
    r.reservedTokens ≤ s.tokens ∧ (r.reservedRequest → 1 ≤ s.requests) := by
  have hid := inv.windowId.trans hcur
  constructor
  · have hle := Hash.le_sumBy_of_get (Entry.tokens_nonneg r.windowId) hget
    have htok := inv.tokens _ hid
    simp only [Entry.tokens, if_true] at hle
    rw [tokensIn] at htok
    omega
  · intro hr
    have hle := Hash.le_sumBy_of_get (Entry.requests_nonneg r.windowId) hget
    have hreq := inv.requests _ hid
    simp only [Entry.requests, hr, ne_eq, reduceCtorEq, not_false_eq_true, and_self, if_true] at hle
    rw [requestsIn] at hreq
    omega

/-- A settlement in the window of the reservation. -/
theorem Inv.settle (inv : Inv c h s) (hcur : currentWindow c h = some r.windowId)
    (hget : (reservations c h).get grant = some ⟨r, .outstanding⟩) (hadv : Advances c e = false)
    (hres : reservations c (e :: h) = (reservations c h).set grant ⟨r, outcome⟩)
    (hadd : ∀ w, added c w (e :: h) = added c w h) (hnone : e.reply.reservation = none)
    (hconf : s'.configuration = s.configuration) (hid : s'.windowId = s.windowId)
    (hreq : (s'.requests : ℤ) = s.requests - Entry.requests r.windowId ⟨r, .outstanding⟩ +
      Entry.requests r.windowId ⟨r, outcome⟩)
    (htok : (s'.tokens : ℤ) = s.tokens - Entry.tokens r.windowId ⟨r, .outstanding⟩ +
      Entry.tokens r.windowId ⟨r, outcome⟩) (hle : s'.requests ≤ s.requests) :
    Inv c (e :: h) s' := by
  have hcur' : currentWindow c (e :: h) = currentWindow c h := by simp [currentWindow, hadv]
  have hsum : ∀ weight : Entry → ℤ, (reservations c (e :: h)).sumBy weight =
      (reservations c h).sumBy weight - weight ⟨r, .outstanding⟩ + weight ⟨r, outcome⟩ := by
    intro weight
    rw [hres, Hash.sumBy_set, hget, Option.elim_some]
  have hwindow : ∀ w, s'.windowId = some w → w = r.windowId := by
    intro w hw
    rw [hid, inv.windowId, hcur] at hw
    exact (Option.some.inj hw).symm
  refine ⟨hconf.trans inv.configuration, ?_, ?_, ?_, ?_, ?_, ?_, ?_, ?_⟩
  · rw [hid, hcur', inv.windowId]
  · intro w hw
    obtain rfl := hwindow w hw
    rw [requestsIn, hsum, hreq, inv.requests _ (hid ▸ hw), requestsIn]
  · intro w hw
    obtain rfl := hwindow w hw
    rw [tokensIn, hsum, hadd, htok, inv.tokens _ (hid ▸ hw), tokensIn]
    ring
  · intro rpm hmem w hw
    exact hle.trans (inv.bounded rpm hmem w (hid ▸ hw))
  · intro g entry hg
    rw [hcur', List.length_cons]
    rw [hres, Hash.get_set] at hg
    split at hg
    · next hgrant =>
      subst hgrant
      obtain rfl := Option.some.inj hg
      obtain ⟨hlt, hw⟩ := inv.known g _ hget
      exact ⟨by omega, hw⟩
    · obtain ⟨hlt, hw⟩ := inv.known g entry hg
      exact ⟨by omega, hw⟩
  · intro w hw
    rw [hadd] at hw
    rw [hcur']
    exact inv.earlier w hw
  · intro w hw
    rw [hcur'] at hw
    obtain ⟨e', he', hrest⟩ := inv.reached w hw
    exact ⟨e', List.mem_cons_of_mem _ he', hrest⟩
  · intro e' h' hs r' hr'
    rcases List.suffix_cons_iff.mp hs with heq | hs
    · obtain ⟨rfl, rfl⟩ := List.cons.inj heq
      simp [hnone] at hr'
    · exact inv.granted e' h' hs r' hr'

/-- A reservation is settled at a valid time. -/
theorem Inv.time_nonneg (inv : Inv c h s) (htime : ∀ e ∈ h, e.time ≤ now)
    (hget : (reservations c h).get grant = some ⟨r, .outstanding⟩) : 0 ≤ now := by
  obtain ⟨w, hw, -⟩ := (inv.known grant _ hget).2
  obtain ⟨e, he, hnonneg, -⟩ := inv.reached w hw
  exact hnonneg.trans (htime e he)

theorem inv_reconcile (inv : Inv c h s) (htime : ∀ e ∈ h, e.time ≤ now)
    (hget : (reservations c h).get grant = some ⟨r, .outstanding⟩) (actualTokens : ℕ)
    (hfit : TotalsFit c (serve.event now (.reconcile grant r actualTokens) s :: h)) :
    Inv c (serve.event now (.reconcile grant r actualTokens) s :: h)
      (serve now (.reconcile grant r actualTokens) s).2 := by
  have hnow := inv.time_nonneg htime hget
  by_cases hcur : currentWindow c h = some r.windowId
  · obtain ⟨hcovers, -⟩ := inv.covers hcur hget
    have hid := inv.windowId.trans hcur
    have hres : reservations c (serve.event now (.reconcile grant r actualTokens) s :: h) =
        (reservations c h).set grant ⟨r, .reconciled actualTokens⟩ := if_pos hcur
    have hfits : s.tokens - r.reservedTokens + actualTokens ≤ U64.max := by
      have hle := (hfit r.windowId hcur).2
      rw [tokensIn, hres, Hash.sumBy_set, hget, Option.elim_some] at hle
      have htok := inv.tokens _ hid
      rw [tokensIn] at htok
      simp only [Entry.tokens, if_true] at hle
      simp only [added, Service.event] at hle
      omega
    have hstate : (serve now (.reconcile grant r actualTokens) s).2 =
        { s with tokens := s.tokens - r.reservedTokens + actualTokens } := by
      rw [serve, reconcileAt_of_eq hnow hid hcovers hfits]
      rfl
    rw [hstate]
    refine inv.settle hcur hget rfl hres (fun _ => rfl) rfl rfl rfl ?_ ?_ le_rfl
    · simp [Entry.requests]
    · simp only [Entry.tokens, if_true]
      push_cast [hcovers]
      ring
  · have hstate : (serve now (.reconcile grant r actualTokens) s).2 = s := by
      rw [serve, reconcileAt_of_ne hnow (inv.windowId ▸ hcur)]
      rfl
    rw [hstate]
    exact inv.idle rfl (if_neg hcur) (fun _ => rfl) rfl

theorem inv_rollback (inv : Inv c h s) (htime : ∀ e ∈ h, e.time ≤ now)
    (hget : (reservations c h).get grant = some ⟨r, .outstanding⟩) :
    Inv c (serve.event now (.rollback grant r) s :: h) (serve now (.rollback grant r) s).2 := by
  have hnow := inv.time_nonneg htime hget
  by_cases hcur : currentWindow c h = some r.windowId
  · obtain ⟨hcovers, hcovers'⟩ := inv.covers hcur hget
    have hid := inv.windowId.trans hcur
    have hstate : (serve now (.rollback grant r) s).2 = { s with
        requests := s.requests - if r.reservedRequest then 1 else 0
        tokens := s.tokens - r.reservedTokens } := by
      rw [serve, rollbackAt_of_eq hnow hid]
      rfl
    rw [hstate]
    have hres : reservations c (serve.event now (.rollback grant r) s :: h) =
        (reservations c h).set grant ⟨r, .rolledBack⟩ := if_pos hcur
    refine inv.settle hcur hget rfl hres (fun _ => rfl) rfl rfl rfl ?_ ?_ (Nat.sub_le _ _)
    · cases hr : r.reservedRequest with
      | false => simp [Entry.requests, hr]
      | true =>
        have := hcovers' hr
        simp only [Entry.requests, hr, if_true]
        simp
        omega
    · simp only [Entry.tokens, if_true]
      push_cast [hcovers]
      ring
  · have hstate : (serve now (.rollback grant r) s).2 = s := by
      rw [serve, rollbackAt_of_ne hnow (inv.windowId ▸ hcur)]
      rfl
    rw [hstate]
    exact inv.idle rfl (if_neg hcur) (fun _ => rfl) rfl

end Settle

theorem inv_reserveInner (inv : Inv c h s) (htime : ∀ e ∈ h, e.time ≤ now) {call : Call}
    {tokens : ℕ} {request : Bool}
    (hserve : serve now call s = (reserveInner tokens request (.finite now) s).map .reserved id)
    (hadv : ∀ result, Advances c ⟨now, call, .reserved (.ok result)⟩ = decide (c.Active request))
    (herr : ∀ error, Advances c ⟨now, call, .reserved (.error error)⟩ = false)
    (hres : ∀ reply : Reply, reservations c (⟨now, call, reply⟩ :: h) =
      match reply.reservation with
      | some r => (reservations c h).set h.length ⟨r, .outstanding⟩
      | none => reservations c h)
    (hadd : ∀ reply w, added c w (⟨now, call, reply⟩ :: h) = added c w h)
    (hfit : TotalsFit c (serve.event now call s :: h)) :
    Inv c (serve.event now call s :: h) (serve now call s).2 := by
  rw [Service.event] at hfit ⊢
  rw [hserve] at hfit ⊢
  rw [reserveInner_eq, inv.configuration] at hfit ⊢
  by_cases hneg : now < 0
  · simp only [hneg, if_true] at hfit ⊢
    exact inv.idle (herr _) (hres _) (hadd _) rfl
  by_cases hactive : c.Active request
  swap
  · simp only [hneg, hactive, if_true, if_false, not_false_eq_true] at hfit ⊢
    exact inv.idle ((hadv _).trans (by simp [hactive])) (hres _) (hadd _) rfl
  by_cases hcount : c.Countable now
  swap
  · simp only [hneg, hactive, hcount, if_true, if_false, not_false_eq_true, not_true_eq_false]
      at hfit ⊢
    exact inv.idle (herr _) (hres _) (hadd _) rfl
  simp only [hneg, hactive, hcount, if_false, not_true_eq_false] at hfit ⊢
  have hadvances : ∀ result, Advances c ⟨now, call, .reserved (.ok result)⟩ = true := by
    intro result
    rw [hadv, decide_eq_true hactive]
  cases hlim : limiting tokens request (RateLimit.rolled now s) with
  | some kind => exact inv.look htime (not_lt.mp hneg) (hadvances _) (hres _) (hadd _) rfl
  | none =>
    simp only [hlim] at hfit
    exact inv.grant htime (not_lt.mp hneg) (hadvances _) rfl (hres _) (hadd _) hfit hlim

theorem inv_addTokens (inv : Inv c h s) (htime : ∀ e ∈ h, e.time ≤ now) {tokens : ℕ}
    (hfit : TotalsFit c (serve.event now (.addTokens tokens) s :: h)) (htpm : c.tpm.isSome) :
    Inv c (serve.event now (.addTokens tokens) s :: h) (serve now (.addTokens tokens) s).2 := by
  rw [Service.event, serve, addTokensAt_eq, inv.configuration] at hfit ⊢
  have htpm' : ¬c.tpm.isNone = true := by
    rw [Bool.not_eq_true, Option.isNone_eq_false_iff]
    exact htpm
  by_cases hneg : now < 0
  · simp only [hneg, if_true] at hfit ⊢
    exact inv.idle rfl rfl (fun _ => rfl) rfl
  by_cases hcount : c.Countable now
  · simp only [hneg, htpm', hcount, if_false, not_true_eq_false] at hfit ⊢
    exact inv.add (e := ⟨now, .addTokens tokens, .added (.ok ())⟩) htime (not_lt.mp hneg) htpm rfl
      rfl (fun _ => rfl) hfit
  · simp only [hneg, htpm', hcount, if_true, if_false, not_false_eq_true] at hfit ⊢
    exact inv.idle rfl rfl (fun _ => rfl) rfl

theorem inv_snapshot (inv : Inv c h s) (htime : ∀ e ∈ h, e.time ≤ now) :
    Inv c (serve.event now .snapshot s :: h) (serve now .snapshot s).2 := by
  rw [Service.event, serve, snapshotAt_eq, inv.configuration]
  by_cases hneg : now < 0
  · simp only [hneg, if_true]
    exact inv.idle rfl rfl (fun _ => rfl) rfl
  cases hrpm : c.rpm with
  | none =>
    simp only [hneg, if_false]
    exact inv.idle (by simp [Advances, hrpm]) rfl (fun _ => rfl) rfl
  | some limit =>
    by_cases hcount : c.Countable now
    · simp only [hneg, hcount, if_false, not_true_eq_false]
      exact inv.look htime (not_lt.mp hneg) (by simp [Advances, hrpm]) rfl (fun _ => rfl) rfl
    · simp only [hneg, hcount, if_true, if_false, not_false_eq_true]
      exact inv.idle rfl rfl (fun _ => rfl) rfl

end Steps

theorem inv_step {c : Configuration} {h : History} {s : State} {now : ℚ} {call : Call}
    (inv : Inv c h s) (htime : ∀ e ∈ h, e.time ≤ now) (ok : Ok c h s now call) :
    Inv c (serve.event now call s :: h) (serve now call s).2 := by
  obtain ⟨hallowed, hfit⟩ := ok
  cases call with
  | reserve tokens =>
    exact inv_reserveInner inv htime rfl (fun _ => rfl) (fun _ => rfl) (fun _ => rfl)
      (fun _ _ => rfl) hfit
  | reserveTokens tokens =>
    exact inv_reserveInner inv htime rfl (fun _ => rfl) (fun _ => rfl) (fun _ => rfl)
      (fun _ _ => rfl) hfit
  | reconcile grant r actualTokens => exact inv_reconcile inv htime hallowed actualTokens hfit
  | rollback grant r => exact inv_rollback inv htime hallowed
  | addTokens tokens => exact inv_addTokens inv htime hfit hallowed
  | snapshot => exact inv_snapshot inv htime

/-- **Accounting over whole runs**: in the current window the counters are what the books say,
requests stay within their limit, a granted reservation of tokens left the token counter
within its limit, and a reservation of an earlier window can no longer be settled. -/
theorem counters_eq_books {c : Configuration} {h : History} {s : State}
    (run : serve.Run (Ok c) (State.initial c) h s) :
    s.windowId = currentWindow c h ∧
    (∀ w, s.windowId = some w → (s.requests : ℤ) = requestsIn c w h ∧
      (∀ rpm ∈ c.rpm, s.requests ≤ rpm) ∧ (s.tokens : ℤ) = tokensIn c w h) ∧
    (∀ e h', e :: h' <:+ h → ∀ r ∈ e.reply.reservation, r.reservedTokens ≠ 0 →
      ∀ tpm ∈ c.tpm, tokensIn c r.windowId (e :: h') ≤ tpm) ∧
    (∀ w, s.windowId = some w → ∀ g e, (reservations c h).get g = some e →
      e.reservation.windowId < w → ∀ now, 0 ≤ now →
        (∀ actualTokens, reconcileAt e.reservation actualTokens (.finite now) s = (.ok false, s)) ∧
          rollbackAt e.reservation (.finite now) s = (.ok false, s)) := by
  have inv : Inv c h s := run.invariant (inv_nil c) fun h s now call hi htime ok =>
    inv_step hi htime ok
  refine ⟨inv.windowId, ?_, inv.granted, ?_⟩
  · intro w hw
    exact ⟨inv.requests w hw, fun rpm hmem => inv.bounded rpm hmem w hw, inv.tokens w hw⟩
  · intro w hw g e _ hlt now hnow
    have hne : s.windowId ≠ some e.reservation.windowId := by
      rw [hw, Ne, Option.some_inj]
      omega
    exact ⟨reconcileAt_of_ne hnow hne, rollbackAt_of_ne hnow hne⟩

/-- Two limits in windows of a minute. -/
def minuteLimits : Configuration := ⟨some 3, some 100, 60, minute_pos⟩

/-- A reconciled, a rolled back and a late reservation, newest call first. -/
def settlements : List (ℚ × Call) :=
  [(62, .reserveTokens 30), (61, .reconcile 5 ⟨0, 40, true⟩ 100), (60, .snapshot),
    (59, .reserve 40), (5, .addTokens 7), (4, .rollback 2 ⟨0, 50, true⟩), (3, .reserve 50),
    (2, .reconcile 0 ⟨0, 80, true⟩ 20), (1, .reserve 80)]

theorem counters_eq_books_settlements :
    let h := (serve.replay (State.initial minuteLimits) settlements).1
    let s := (serve.replay (State.initial minuteLimits) settlements).2
    s.windowId = some 1 ∧ (s.requests : ℤ) = requestsIn minuteLimits 1 h ∧
      (s.tokens : ℤ) = tokensIn minuteLimits 1 h ∧ s.tokens = 30 := by
  have hrun : serve.Admissible (Ok minuteLimits) (State.initial minuteLimits) settlements := by
    decide +kernel
  have hbooks := counters_eq_books (Service.run_replay hrun)
  have hid : (serve.replay (State.initial minuteLimits) settlements).2.windowId = some 1 := by
    decide +kernel
  obtain ⟨hrequests, -, htokens⟩ := hbooks.2.1 1 hid
  exact ⟨hid, hrequests, htokens, by decide +kernel⟩

end WayfinderRouter.RateLimit
