import WayfinderRouter.Operator.Authenticator

/-!
# Outages of the identity provider

While no recent set of keys is cached and the last attempt to fetch one has failed, the
authenticator cannot tell whether a token is good. Within the cooldown after such an attempt it
says so only if no set was ever cached: with an expired set it calls the token bad.

## Main definitions

- `Reported` — in an outage `keys_for` answers that it is unavailable
- `Covered` — the step does not read an expired set in an outage

## Main results

- `outage_reported` — outages are reported in exactly the runs whose steps are covered
-/

namespace WayfinderRouter.Operator

/-! ## Outages -/

/-- What has become of an attempt to fetch keys. -/
inductive Attempt where
  | begun
  | failed
  | fetched
deriving DecidableEq

def Event.attempt? : Event → Option Attempt
  | attempted _ => some .begun
  | failed _ => some .failed
  | fetched .. => some .fetched
  | _ => none

/-- The last attempt to fetch keys. -/
def lastAttempt (trace : List Event) : Option Attempt :=
  (trace.filterMap Event.attempt?).getLast?

/-- The set fetched last has not expired. -/
def Unexpired (trace : List Event) (time : ℕ) : Prop :=
  ∃ fetched keys, lastFetched trace = some (fetched, keys) ∧ time < fetched + jwksCacheTtl

/-- Without a set that has not expired, and after a failed attempt, `keys_for` answers that it is
unavailable. -/
def Reported (before : List Event) : Event → Prop
  | .looked _ time answer =>
    ¬ Unexpired before time → lastAttempt before = some .failed → answer = .error .unavailable
  | _ => True

/-- The last read of `keys_for` does not find an expired set after a failed attempt. -/
def Covered (w : World) : Action → Prop
  | .readCooling _ | .readRefreshed _ =>
    ∀ cached ∈ w.keys, jwksCacheTtl ≤ w.now - cached.fetched → lastAttempt w.trace ≠ some .failed
  | _ => True

variable (d : Decoders) (config : AuthConfig) (sha256 : List UInt8 → List UInt8)

/-- All steps of a run are covered. -/
def AllCovered : List Action → World → Prop
  | [], _ => True
  | a :: actions, w =>
    Covered w a ∧ ∀ w' ∈ step d config sha256 a w, AllCovered actions w'

section Steps

variable {d config sha256} {w w' : World} {request : ℕ} {token : SignedToken}
  {answer : Except OperatorAuthFailure (List RsaJwk)}

/-- Only the answer of `keys_for` may fail to report an outage. -/
theorem always_conclude : Trace.Always Reported (w.conclude d request token answer).trace ↔
    Trace.Always Reported w.trace ∧ Reported w.trace (.looked request w.now answer) := by
  unfold World.conclude
  dsimp only
  split
  · split
    · exact Trace.always_concat_iff.trans ((and_iff_left trivial).trans Trace.always_concat_iff)
    · exact Trace.always_concat_iff
  · exact Trace.always_concat_iff

/-- The cached set is unexpired when the set fetched last is. -/
theorem unexpired_iff (h : Inv d config sha256 w) :
    Unexpired w.trace w.now ↔ ∃ cached ∈ w.keys, w.now - cached.fetched < jwksCacheTtl := by
  unfold Unexpired
  rw [← h.cache]
  have hpos : 0 < jwksCacheTtl := by decide
  cases w.keys with
  | none => simp
  | some cached =>
    simp only [Option.map_some, Option.some.injEq, Prod.mk.injEq, Option.mem_def, exists_eq_left']
    constructor
    · rintro ⟨_, _, ⟨rfl, rfl⟩, hlt⟩
      omega
    · intro hlt
      exact ⟨_, _, ⟨rfl, rfl⟩, by omega⟩

/-- An answer from a set that has not expired is never given in an outage. -/
theorem reported_of_cachedKeysFor (h : Inv d config sha256 w) {kid : String} {keys : List RsaJwk}
    (hkeys : w.cachedKeysFor kid = some keys) :
    Reported w.trace (.looked request w.now answer) := by
  intro hexpired
  obtain ⟨cached, hcached, -, hrecent⟩ := mem_cachedKeysFor hkeys
  exact absurd ((unexpired_iff h).mpr ⟨cached, hcached, hrecent⟩) hexpired

/-- Any other answer while a set is cached hides an outage. -/
theorem reported_iff (h : Inv d config sha256 w) {cached : CachedKeys}
    (hcached : w.keys = some cached) (hanswer : answer ≠ .error .unavailable) :
    Reported w.trace (.looked request w.now answer) ↔
      ∀ cached ∈ w.keys, jwksCacheTtl ≤ w.now - cached.fetched →
        lastAttempt w.trace ≠ some .failed := by
  change (¬ Unexpired w.trace w.now → _ → _) ↔ _
  rw [unexpired_iff h, hcached]
  simp only [Option.mem_def, Option.some.injEq, exists_eq_left', forall_eq', not_lt]
  exact ⟨fun hreported hexpired hfailed => hanswer (hreported hexpired hfailed),
    fun hcovered hexpired hfailed => absurd hfailed (hcovered hexpired)⟩

/-- A step hides an outage when it is not covered. -/
theorem always_step (h : Inv d config sha256 w) {a : Action}
    (hstep : step d config sha256 a w = some w') :
    Trace.Always Reported w'.trace ↔ Trace.Always Reported w.trace ∧ Covered w a := by
  cases a with
  | tick elapsed wall =>
    cases hstep
    exact (and_iff_left trivial).symm
  | present request policy authorization =>
    simp only [step] at hstep
    split at hstep
    · cases hstep
      refine Iff.trans ?_ (and_iff_left trivial).symm
      have hpresented : Trace.Always Reported
          (w.trace ++ [.presented request policy authorization w.wall]) ↔
            Trace.Always Reported w.trace :=
        Trace.always_concat_iff.trans (and_iff_left trivial)
      unfold World.present
      dsimp only
      split
      · exact (Trace.always_concat_iff.trans (and_iff_left trivial)).trans hpresented
      · split
        · exact hpresented
        split
        · exact hpresented
        · exact hpresented
    · cases hstep
  | lookup request =>
    simp only [step] at hstep
    split at hstep
    · split at hstep
      · rename_i keys hkeys
        cases hstep
        refine always_conclude.trans (and_congr_right fun _ => ?_)
        exact iff_of_true (reported_of_cachedKeysFor h hkeys) trivial
      · cases hstep
        exact (and_iff_left trivial).symm
    · cases hstep
  | acquire request =>
    simp only [step] at hstep
    split at hstep
    · cases hstep
      exact (and_iff_left trivial).symm
    · cases hstep
  | recheck request =>
    simp only [step] at hstep
    split at hstep
    · split at hstep
      · rename_i keys hkeys
        cases hstep
        have hreleased : Inv d config sha256 { w with holder := none } := h.congr rfl rfl rfl
        refine always_conclude.trans (and_congr_right fun _ => ?_)
        exact iff_of_true (reported_of_cachedKeysFor hreleased hkeys) trivial
      · cases hstep
        exact (and_iff_left trivial).symm
    · cases hstep
  | checkCooldown request =>
    simp only [step] at hstep
    split at hstep
    · split at hstep
      · cases hstep
        exact (and_iff_left trivial).symm
      · cases hstep
        exact Trace.always_concat_iff
    · cases hstep
  | readCooling request =>
    simp only [step] at hstep
    split at hstep
    · cases hstep
      refine always_conclude.trans (and_congr_right fun _ => ?_)
      cases hcached : w.keys with
      | none =>
        -- nothing was ever cached, and the answer is the right one
        refine iff_of_true (fun _ _ => rfl) ?_
        intro cached hmem
        rw [hcached] at hmem
        cases hmem
      | some cached => exact reported_iff h hcached (by simp)
    · cases hstep
  | refresh request response =>
    simp only [step] at hstep
    split at hstep
    · split at hstep
      · cases hstep
        exact Trace.always_concat_iff
      · cases hstep
        have hfailed : Trace.Always Reported (w.trace ++ [.failed w.now]) ↔
            Trace.Always Reported w.trace ∧ True := Trace.always_concat_iff
        exact always_conclude.trans ((and_iff_left fun _ _ => rfl).trans hfailed)
    · cases hstep
  | release request =>
    simp only [step] at hstep
    split at hstep
    · cases hstep
      exact (and_iff_left trivial).symm
    · cases hstep
  | readRefreshed request =>
    simp only [step] at hstep
    split at hstep
    · rename_i token hphase
      cases hstep
      refine always_conclude.trans (and_congr_right fun _ => ?_)
      -- the request has stored a set, so one is cached
      obtain ⟨since, hbegan, hown⟩ := h.pending request token (by rw [hphase]; rfl)
      have hsince := hown (by rw [hphase]; trivial)
      have hlast := hbegan.lastFetched_eq hsince
      rw [← h.cache] at hlast
      rw [← hlast, Option.isSome_map] at hsince
      obtain ⟨cached, hcached⟩ := Option.isSome_iff_exists.mp hsince
      refine reported_iff h hcached ?_
      split_ifs
      · simp
      · simp
    · cases hstep
  | cancel request =>
    cases hstep
    exact (and_iff_left trivial).symm

theorem always_run (h : Inv d config sha256 w) {actions : List Action}
    (hrun : run d config sha256 actions w = some w') :
    Trace.Always Reported w'.trace ↔
      Trace.Always Reported w.trace ∧ AllCovered d config sha256 actions w := by
  induction actions generalizing w with
  | nil =>
    cases hrun
    exact (and_iff_left trivial).symm
  | cons a actions ih =>
    obtain ⟨next, hstep, hrest⟩ := Option.bind_eq_some_iff.mp hrun
    rw [ih (inv_step h hstep) hrest, always_step h hstep, and_assoc]
    refine and_congr_right fun _ => and_congr_right fun _ => ?_
    rw [hstep]
    simp

end Steps

/-- `keys_for` reports every outage of a run exactly when no step of the run reads an expired set
in an outage. -/
theorem outage_reported {actions : List Action} {wall : ℚ} {w : World}
    (hrun : run d config sha256 actions (.start wall) = some w) :
    Trace.Always Reported w.trace ↔ AllCovered d config sha256 actions (.start wall) :=
  (always_run (inv_start d config sha256 wall) hrun).trans (and_iff_right Trace.always_nil)

/-! ## An expired set in an outage -/

def outageConfig : AuthConfig := ⟨.oidc, "id", "w", "admin"⟩

def headerText : String := "\x7b\"alg\":\"RS256\",\"kid\":\"k\"\x7d"

def outageClaims : Json := .object
  [("iss", .string "id"), ("aud", .string "w"), ("exp", .number "4102444800"),
    ("sub", .string "a"), ("admin", .bool true)]

def documentText : String :=
  "\x7b\"keys\":[\x7b\"kid\":\"old\",\"kty\":\"RSA\",\"n\":\"AQ\",\"e\":\"AQAB\"\x7d]\x7d"

/-- The segments of the token, and the numbers of the key. -/
def outageBase64 : List (String × List UInt8) :=
  [("eyJhbGciOiJSUzI1NiIsImtpZCI6ImsifQ", utf8 headerText.toList),
    ("eyJpc3MiOiJpZCIsImF1ZCI6InciLCJleHAiOjQxMDI0NDQ4MDAsInN1YiI6ImEiLCJhZG1pbiI6dHJ1ZX0",
      outageClaims.bytes),
    ("c2ln", [0x73, 0x69, 0x67]), ("AQ", [1]), ("AQAB", [1, 0, 1])]

/-- The decoders on the texts of the run. -/
def outageDecoders : Decoders where
  base64 text := (outageBase64.find? fun entry => entry.1 = text).map Prod.snd
  header bytes := if bytes = utf8 headerText.toList then some ⟨"RS256", "k"⟩ else none
  claims := Json.Parser.ofValues [outageClaims]
  documents bytes :=
    if bytes = utf8 documentText.toList then some [⟨"old", "RSA", none, none, "AQ", "AQAB"⟩]
    else none
  asF64 value := value.asU64.map fun n => .finite n
  verify _ _ _ _ := false

def outageToken : String :=
  "Bearer eyJhbGciOiJSUzI1NiIsImtpZCI6ImsifQ." ++
    "eyJpc3MiOiJpZCIsImF1ZCI6InciLCJleHAiOjQxMDI0NDQ4MDAsInN1YiI6ImEiLCJhZG1pbiI6dHJ1ZX0.c2ln"

/-- A request that fetches keys, or finds that they may not be fetched yet. -/
def fetching (request : ℕ) : List Action :=
  [.present request none (some outageToken), .lookup request, .acquire request, .recheck request,
    .checkCooldown request]

/-- A set is fetched; after its time to live a fetch fails, and another request follows. -/
def outageRun : List Action :=
  fetching 0 ++
    [.refresh 0 (some ⟨200, none, [some (utf8 documentText.toList)]⟩), .release 0,
      .readRefreshed 0, .tick (301 * 10 ^ 9) 1800000301] ++
    fetching 1 ++ [.refresh 1 none] ++ fetching 2 ++ [.readCooling 2]

/-- The answer that the token is bad. -/
def Event.refused? : Event → Option (ℕ × ℕ)
  | .looked request time (.error .unauthorized) => some (request, time)
  | _ => none

/-- The last event of the run, and the attempt and the set before it. -/
theorem view_outageRun : (run outageDecoders outageConfig (fun _ => []) outageRun
    (.start 1800000000)).map
      (fun w => (lastAttempt w.trace.dropLast, (lastFetched w.trace.dropLast).map Prod.fst,
        w.trace.getLast?.bind Event.refused?)) =
    some (some .failed, some 0, some (2, 301 * 10 ^ 9)) := by
  decide +kernel

/-- The request after the failed attempt is told that its token is bad. -/
theorem outage_hidden : ∃ w, run outageDecoders outageConfig (fun _ => []) outageRun
    (.start 1800000000) = some w ∧ ¬ Trace.Always Reported w.trace := by
  obtain ⟨w, hw, hview⟩ := Option.map_eq_some_iff.mp view_outageRun
  simp only [Prod.mk.injEq] at hview
  obtain ⟨hattempt, hfetched, hrefused⟩ := hview
  refine ⟨w, hw, fun halways => ?_⟩
  obtain ⟨event, hlast, hevent⟩ := Option.bind_eq_some_iff.mp hrefused
  have htrace : w.trace = w.trace.dropLast ++ [event] :=
    (List.dropLast_append_getLast? event hlast).symm
  have hreported := halways _ _ [] htrace
  have hexpired : ¬ Unexpired w.trace.dropLast (301 * 10 ^ 9) := by
    rintro ⟨fetched, keys, hkeys, hlt⟩
    rw [hkeys] at hfetched
    cases hfetched
    exact absurd hlt (by decide)
  unfold Event.refused? at hevent
  split at hevent
  · cases hevent
    cases hreported hexpired hattempt
  · cases hevent

/-- The steps of the run are not all covered. -/
theorem outage_reported_expired : ∃ w, run outageDecoders outageConfig (fun _ => []) outageRun
    (.start 1800000000) = some w ∧ (Trace.Always Reported w.trace ↔
      AllCovered outageDecoders outageConfig (fun _ => []) outageRun (.start 1800000000)) := by
  obtain ⟨w, hw, -⟩ := Option.map_eq_some_iff.mp view_outageRun
  exact ⟨w, hw, outage_reported _ _ _ hw⟩

end WayfinderRouter.Operator
