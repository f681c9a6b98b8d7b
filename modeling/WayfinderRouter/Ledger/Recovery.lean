import WayfinderRouter.Ledger.Persistence

/-!
# Saving and recovering the savings ledger

A save writes a temporary file, copies the present file to the last-good one and renames the
temporary file. A load that finds the file unreadable moves it to quarantine and copies the
last-good file back. Renames are atomic. A write and a copy pass through every initial part of
what they write, and a crash can leave any of these states.

Errors of the file system itself are left out, and so is the name of the quarantine, which carries
the time: all that matters is that the file is no longer in its place.

## Main definitions

- `Files` — the files of a ledger
- `saveStates`, `saveDone` — the states that a save passes, and the state it ends in
- `loadStates`, `loadResilient` — the same for a load, with its result
- `Event`, `World.apply` — saves, loads and damages, complete or cut short
- `Safe` — the events that lose nothing
- `Recoverable` — the file or the last-good one holds one of the last two snapshots
-/

namespace WayfinderRouter.Ledger

open Pricing (DateError)

/-- The contents of a file. -/
abbrev Content := List UInt8

/-- The files of a ledger: the ledger file, `.tmp`, `.last-good`, and what was quarantined. -/
structure Files where
  primary : Option Content
  temporary : Option Content
  backup : Option Content
  quarantined : List Content
deriving DecidableEq

/-- The states while a file is written: it is truncated and then grows. -/
def writing (put : Content → Files) (content : Content) : List Files := content.inits.map put

inductive LoadError where
  /-- The parser refuses the file. -/
  | json
  | ledger (error : DateError)
deriving DecidableEq

/-- `LedgerLoad`. -/
inductive LedgerLoad where
  | primary
  | recovered
  | new
deriving DecidableEq

variable {A : Type} [Amount A] [Decimal A]

/-- What `save` writes. -/
def document (ledger : SavingsLedger A) : Json :=
  .object [("schema_version", .nat 2), ("ledger", ledger.toValue)]

/-! ## Saving -/

/-- The temporary file written. -/
def Files.written (content : Content) (files : Files) : Files :=
  { files with temporary := some content }

/-- The last-good file written. -/
def Files.copied (content : Content) (files : Files) : Files :=
  { files with backup := some content }

/-- The states that `SavingsLedger::save` passes before its rename. -/
def saveStates (ledger : SavingsLedger A) (files : Files) : List Files :=
  let content := (document ledger).bytes
  files :: (writing (files.written ·) content ++
    match files.primary with
    | none => []
    | some present => writing (fun part => (files.written content).copied part) present)

/-- The state that `SavingsLedger::save` ends in. -/
def saveDone (ledger : SavingsLedger A) (files : Files) : Files :=
  { files with
    primary := some (document ledger).bytes
    temporary := none
    backup := files.primary.or files.backup }

/-! ## Loading -/

/-- `SavingsLedger::load`. -/
def load (parse : Json.Parser) (content : Content) : Except LoadError (SavingsLedger A) :=
  match parse content with
  | none => .error .json
  | some value => ((SavingsLedger.fromValue ((value.get "ledger").getD value)).mapError .ledger)

/-- The file in quarantine. -/
def Files.quarantine (files : Files) : Files :=
  { files with primary := none, quarantined := files.primary.toList ++ files.quarantined }

/-- The ledger file written back. -/
def Files.restored (content : Content) (files : Files) : Files :=
  { files with primary := some content }

/-- `SavingsLedger::load_resilient`. -/
def loadResilient (parse : Json.Parser) (maxDays : ℕ) (priced : Bool) (files : Files) :
    Files × Except LoadError (SavingsLedger A × LedgerLoad) :=
  match files.primary with
  | none => (files, .ok (.new maxDays priced, .new))
  | some content =>
    match load (A := A) parse content with
    | .ok ledger => (files, .ok (ledger, .primary))
    | .error primaryError =>
      match files.backup with
      | none => (files.quarantine, .error primaryError)
      | some backup =>
        match load (A := A) parse backup with
        | .error error => (files.quarantine, .error error)
        | .ok ledger => (files.quarantine.restored backup, .ok (ledger, .recovered))

/-- The ledger file is there and cannot be loaded. -/
def Unreadable (A : Type) [Amount A] [Decimal A] (parse : Json.Parser) (file : Option Content) :
    Prop :=
  ∃ content error, file = some content ∧ load (A := A) parse content = .error error

/-- The states that `SavingsLedger::load_resilient` passes. -/
def loadStates (A : Type) [Amount A] [Decimal A] (parse : Json.Parser) (files : Files) :
    List Files :=
  match files.primary with
  | none => [files]
  | some content =>
    match load (A := A) parse content with
    | .ok _ => [files]
    | .error _ =>
      files :: files.quarantine ::
        match files.backup with
        | none => []
        | some backup =>
          match load (A := A) parse backup with
          | .error _ => []
          | .ok _ => writing (files.quarantine.restored ·) backup

/-! ## Runs -/

/-- What happens to the files. -/
inductive Event (A : Type) where
  | save (ledger : SavingsLedger A)
  /-- A save that stops after the given number of steps. -/
  | saveCut (ledger : SavingsLedger A) (steps : ℕ)
  | load (maxDays : ℕ) (priced : Bool)
  /-- A load that stops after the given number of steps. -/
  | loadCut (steps : ℕ)
  /-- The ledger file is damaged. -/
  | corrupt (content : Content)

/-- The files, and the snapshots that were saved, newest first. -/
structure World (A : Type) where
  files : Files
  saved : List (SavingsLedger A)

def World.apply (parse : Json.Parser) : Event A → World A → World A
  | .save ledger, w => ⟨saveDone ledger w.files, ledger :: w.saved⟩
  | .saveCut ledger steps, w => { w with files := (saveStates ledger w.files)[steps]?.getD w.files }
  | .load maxDays priced, w =>
    { w with files := (loadResilient (A := A) parse maxDays priced w.files).1 }
  | .loadCut steps, w => { w with files := (loadStates A parse w.files)[steps]?.getD w.files }
  | .corrupt content, w =>
    { w with files := { w.files with primary := w.files.primary.map fun _ => content } }

/-- The world after a list of events. -/
def World.run (parse : Json.Parser) (events : List (Event A)) (w : World A) : World A :=
  events.foldl (fun w event => w.apply parse event) w

/-- The file holds one of the last two snapshots. -/
def Holds (saved : List (SavingsLedger A)) (file : Option Content) : Prop :=
  ∃ ledger ∈ saved.take 2, file = some (document ledger).bytes

/-- The event loses nothing. -/
def Safe (parse : Json.Parser) (w : World A) : Event A → Prop
  | .save _ => True
  -- A save that finds the file unreadable does not stop while it overwrites the last-good file.
  | .saveCut ledger steps =>
    Unreadable A parse w.files.primary → steps ≤ (document ledger).bytes.length + 1
  | .load _ _ => True
  -- A load that finds the file unreadable does not stop right after the rename.
  | .loadCut steps => Unreadable A parse w.files.primary → steps ≠ 1
  -- The file is damaged while the last-good file holds one of the last two snapshots.
  | .corrupt content =>
    Unreadable A parse (some content) ∧ (w.saved ≠ [] → Holds w.saved w.files.backup)

/-- Every event of the run is safe where it happens. -/
def SafeRun (parse : Json.Parser) : List (Event A) → World A → Prop
  | [], _ => True
  | event :: events, w => Safe parse w event ∧ SafeRun parse events (w.apply parse event)

/-- The parser reads the text of the value and no initial part of it. -/
def ReadsWhole (parse : Json.Parser) (value : Json) : Prop :=
  parse.Reads value ∧ ∀ part, part <+: value.bytes → part ≠ value.bytes → parse part = none

/-- The ledger file holds one of the last two snapshots, or it is unreadable and the last-good
file holds one. -/
inductive Recoverable (parse : Json.Parser) (w : World A) : Prop
  | nothing (h : w.saved = [])
  | good (h : Holds w.saved w.files.primary)
  | damaged (h : Unreadable A parse w.files.primary) (h' : Holds w.saved w.files.backup)

section Runs

variable {parse : Json.Parser}

/-- A snapshot is loaded as the ledger that its value denotes. -/
theorem load_document {ledger : SavingsLedger A} (h : ReadsWhole parse (document ledger)) :
    ∃ read : SavingsLedger A, SavingsLedger.fromValue ledger.toValue = .ok read ∧
      load parse (document ledger).bytes = .ok read := by
  refine ⟨_, rfl, ?_⟩
  have hledger : (document ledger).get "ledger" = some ledger.toValue := by
    simp [document, Json.get, Json.asObject, Ordered.lookup]
  rw [load, h.1]
  show (SavingsLedger.fromValue (((document ledger).get "ledger").getD _)).mapError _ = _
  rw [hledger]
  rfl

/-- A snapshot that is cut short is not loaded. -/
theorem unreadable_part {ledger : SavingsLedger A} (h : ReadsWhole parse (document ledger))
    {part : Content} (hpart : part <+: (document ledger).bytes)
    (hne : part ≠ (document ledger).bytes) : Unreadable A parse (some part) := by
  refine ⟨part, .json, rfl, ?_⟩
  rw [load, h.2 part hpart hne]

/-- What a part of a written file holds. -/
theorem holds_or_unreadable {ledger : SavingsLedger A} (h : ReadsWhole parse (document ledger))
    {part : Content} (hpart : part <+: (document ledger).bytes) :
    part = (document ledger).bytes ∨ Unreadable A parse (some part) := by
  by_cases heq : part = (document ledger).bytes
  · exact .inl heq
  · exact .inr (unreadable_part h hpart heq)

theorem mem_writing {put : Content → Files} {content : Content} {files : Files}
    (h : files ∈ writing put content) : ∃ part, part <+: content ∧ files = put part := by
  obtain ⟨part, hpart, rfl⟩ := List.mem_map.mp h
  exact ⟨part, (List.mem_inits part content).mp hpart, rfl⟩

/-- A save that is cut short keeps the ledger file. -/
theorem primary_saveStates (ledger : SavingsLedger A) (files : Files) (steps : ℕ) :
    ((saveStates ledger files)[steps]?.getD files).primary = files.primary := by
  cases hstate : (saveStates ledger files)[steps]? with
  | none => rfl
  | some state =>
    rcases List.mem_cons.mp (List.mem_of_getElem? hstate) with rfl | hstate
    · rfl
    · rcases List.mem_append.mp hstate with hstate | hstate
      · obtain ⟨part, -, rfl⟩ := mem_writing hstate
        rfl
      · cases hprimary : files.primary with
        | none =>
          rw [hprimary] at hstate
          exact absurd hstate List.not_mem_nil
        | some present =>
          rw [hprimary] at hstate
          obtain ⟨part, -, rfl⟩ := mem_writing hstate
          exact hprimary

/-- A save that stops before the copy keeps the last-good file. -/
theorem backup_saveStates (ledger : SavingsLedger A) (files : Files) {steps : ℕ}
    (h : steps ≤ (document ledger).bytes.length + 1) :
    ((saveStates ledger files)[steps]?.getD files).backup = files.backup := by
  cases steps with
  | zero => rfl
  | succ steps =>
    have hlength : steps <
        (writing (fun part => files.written part) (document ledger).bytes).length := by
      rw [writing, List.length_map, List.length_inits]
      omega
    rw [saveStates, List.getElem?_cons_succ, List.getElem?_append_left hlength,
      List.getElem?_eq_getElem hlength, Option.getD_some]
    obtain ⟨part, -, hstate⟩ := mem_writing (List.getElem_mem hlength)
    rw [hstate]
    rfl

variable {w : World A}

/-- The parser reads all snapshots that were saved. -/
def World.Parsed (parse : Json.Parser) (w : World A) : Prop :=
  ∀ ledger ∈ w.saved, ReadsWhole parse (document ledger)

theorem Holds.readable (hparsed : w.Parsed parse) {file : Option Content}
    (h : Holds w.saved file) : ∃ ledger ∈ w.saved.take 2, ∃ read : SavingsLedger A,
      SavingsLedger.fromValue ledger.toValue = .ok read ∧
        file = some (document ledger).bytes ∧ load parse (document ledger).bytes = .ok read := by
  obtain ⟨ledger, hledger, rfl⟩ := h
  obtain ⟨read, hread, hload⟩ := load_document (hparsed ledger (List.mem_of_mem_take hledger))
  exact ⟨ledger, hledger, read, hread, rfl, hload⟩

theorem Holds.not_unreadable (hparsed : w.Parsed parse) {file : Option Content}
    (h : Holds w.saved file) : ¬ Unreadable A parse file := by
  rintro ⟨content, error, rfl, herror⟩
  obtain ⟨ledger, -, read, -, heq, hload⟩ := h.readable hparsed
  rw [Option.some.inj heq, hload] at herror
  exact (nomatch herror)

/-- A load that finds the file good changes nothing. -/
theorem loadResilient_good (hparsed : w.Parsed parse) (h : Holds w.saved w.files.primary)
    (maxDays : ℕ) (priced : Bool) : ∃ ledger ∈ w.saved.take 2, ∃ read : SavingsLedger A,
      SavingsLedger.fromValue ledger.toValue = .ok read ∧
        loadResilient parse maxDays priced w.files = (w.files, .ok (read, .primary)) := by
  obtain ⟨ledger, hledger, read, hread, hfile, hload⟩ := h.readable hparsed
  refine ⟨ledger, hledger, read, hread, ?_⟩
  simp only [loadResilient, hfile, hload]

/-- A load that finds the file damaged restores it. -/
theorem loadResilient_damaged (hparsed : w.Parsed parse)
    (h : Unreadable A parse w.files.primary) (h' : Holds w.saved w.files.backup)
    (maxDays : ℕ) (priced : Bool) : ∃ ledger ∈ w.saved.take 2, ∃ read : SavingsLedger A,
      SavingsLedger.fromValue ledger.toValue = .ok read ∧
        loadResilient parse maxDays priced w.files =
          (w.files.quarantine.restored (document ledger).bytes, .ok (read, .recovered)) := by
  obtain ⟨ledger, hledger, read, hread, hfile, hload⟩ := h'.readable hparsed
  obtain ⟨content, error, hprimary, herror⟩ := h
  refine ⟨ledger, hledger, read, hread, ?_⟩
  simp only [loadResilient, hprimary, herror, hfile, hload]

/-- The states of a load that finds the file good. -/
theorem loadStates_good (hparsed : w.Parsed parse) (h : Holds w.saved w.files.primary) :
    loadStates A parse w.files = [w.files] := by
  obtain ⟨ledger, hledger, read, hread, hfile, hload⟩ := h.readable hparsed
  simp only [loadStates, hfile, hload]

/-- The states of a load that finds the file damaged. -/
theorem loadStates_damaged (hparsed : w.Parsed parse) (h : Unreadable A parse w.files.primary)
    (h' : Holds w.saved w.files.backup) : ∃ ledger ∈ w.saved.take 2,
      ReadsWhole parse (document ledger) ∧ w.files.backup = some (document ledger).bytes ∧
        loadStates A parse w.files = w.files :: w.files.quarantine ::
          writing (w.files.quarantine.restored ·) (document ledger).bytes := by
  obtain ⟨ledger, hledger, read, hread, hfile, hload⟩ := h'.readable hparsed
  obtain ⟨content, error, hprimary, herror⟩ := h
  refine ⟨ledger, hledger, hparsed ledger (List.mem_of_mem_take hledger), hfile, ?_⟩
  simp only [loadStates, hprimary, herror, hfile, hload]

/-- **Step lemma**: a safe event keeps the ledger recoverable. -/
theorem Recoverable.apply {event : Event A} (h : Recoverable parse w) (hsafe : Safe parse w event)
    (hparsed : w.Parsed parse) : Recoverable parse (w.apply parse event) := by
  cases event with
  | save ledger => exact .good ⟨ledger, List.mem_cons_self, rfl⟩
  | saveCut ledger steps =>
    have hprimary := primary_saveStates ledger w.files steps
    cases h with
    | nothing h => exact .nothing h
    | good h => exact .good (hprimary ▸ h)
    | damaged h h' =>
      have hbackup := backup_saveStates ledger w.files (hsafe h)
      exact .damaged (hprimary ▸ h) (hbackup ▸ h')
  | load maxDays priced =>
    cases h with
    | nothing h => exact .nothing h
    | good h =>
      obtain ⟨ledger, -, read, -, hload⟩ := loadResilient_good hparsed h maxDays priced
      refine .good ?_
      show Holds w.saved (loadResilient parse maxDays priced w.files).1.primary
      rw [hload]
      exact h
    | damaged h h' =>
      obtain ⟨ledger, hledger, read, -, hload⟩ :=
        loadResilient_damaged hparsed h h' maxDays priced
      refine .good ⟨ledger, hledger, ?_⟩
      show (loadResilient parse maxDays priced w.files).1.primary = _
      rw [hload]
      rfl
  | loadCut steps =>
    cases h with
    | nothing h => exact .nothing h
    | good h =>
      have hsame : (loadStates A parse w.files)[steps]?.getD w.files = w.files := by
        rw [loadStates_good hparsed h]
        cases steps with
        | zero => rfl
        | succ steps => rfl
      refine .good ?_
      show Holds w.saved ((loadStates A parse w.files)[steps]?.getD w.files).primary
      rw [hsame]
      exact h
    | damaged h h' =>
      obtain ⟨ledger, hledger, hreads, hfile, hstates⟩ := loadStates_damaged hparsed h h'
      have hcut : w.apply parse (.loadCut steps) =
          { w with files := (loadStates A parse w.files)[steps]?.getD w.files } := rfl
      rw [hstates] at hcut
      match steps, hsafe h with
      | 0, _ =>
        rw [hcut]
        exact .damaged h h'
      | 1, hone => exact absurd rfl hone
      | steps + 2, _ =>
        rw [List.getElem?_cons_succ, List.getElem?_cons_succ] at hcut
        rw [hcut]
        cases hstate : (writing (fun part => w.files.quarantine.restored part)
            (document ledger).bytes)[steps]? with
        | none => exact .damaged h h'
        | some state =>
          -- The copy has written a part of the last-good file.
          obtain ⟨part, hpart, rfl⟩ := mem_writing (List.mem_of_getElem? hstate)
          rcases holds_or_unreadable hreads hpart with rfl | hunreadable
          · exact .good ⟨ledger, hledger, rfl⟩
          · exact .damaged hunreadable h'
  | corrupt content =>
    obtain ⟨hunreadable, hbackup⟩ := hsafe
    cases hprimary : w.files.primary with
    | none =>
      cases h with
      | nothing h => exact .nothing h
      | good h =>
        obtain ⟨ledger, -, hfile⟩ := h
        exact (nomatch hprimary.symm.trans hfile)
      | damaged h h' =>
        obtain ⟨content, error, hfile, -⟩ := h
        exact (nomatch hprimary.symm.trans hfile)
    | some present =>
      by_cases hsaved : w.saved = []
      · exact .nothing hsaved
      · refine .damaged ?_ (hbackup hsaved)
        show Unreadable A parse (w.files.primary.map fun _ => content)
        rw [hprimary]
        exact hunreadable

/-- The snapshots of a run are still there at its end. -/
theorem mem_saved_run (events : List (Event A)) {ledger : SavingsLedger A}
    (h : ledger ∈ w.saved) : ledger ∈ (w.run parse events).saved := by
  induction events generalizing w with
  | nil => exact h
  | cons event events ih =>
    apply ih
    cases event with
    | save ledger' => exact List.mem_cons_of_mem _ h
    | saveCut ledger' steps => exact h
    | load maxDays priced => exact h
    | loadCut steps => exact h
    | corrupt content => exact h

/-- **Run lemma**: a safe run keeps the ledger recoverable. -/
theorem Recoverable.run {events : List (Event A)} (h : Recoverable parse w)
    (hsafe : SafeRun parse events w) (hparsed : (w.run parse events).Parsed parse) :
    Recoverable parse (w.run parse events) := by
  induction events generalizing w with
  | nil => exact h
  | cons event events ih =>
    have hbefore : w.Parsed parse := fun ledger hledger =>
      hparsed ledger (mem_saved_run (event :: events) hledger)
    exact ih (h.apply hsafe.1 hbefore) hsafe.2 hparsed

/-- The load returns what one of the last two snapshots denotes, which is the saved ledger itself
if it can be written at all. -/
def Restores (parse : Json.Parser) (w : World A) (maxDays : ℕ) (priced : Bool) : Prop :=
  ∃ ledger ∈ w.saved.take 2, ∃ read : SavingsLedger A, ∃ kind,
    (loadResilient parse maxDays priced w.files).2 = .ok (read, kind) ∧ kind ≠ .new ∧
      SavingsLedger.fromValue ledger.toValue = .ok read ∧
      (ledger.Storable → ledger.Finite → read = ledger)

theorem Recoverable.restores (h : Recoverable parse w) (hparsed : w.Parsed parse)
    (hsaved : w.saved ≠ []) (maxDays : ℕ) (priced : Bool) : Restores parse w maxDays priced := by
  have hread : ∀ ledger read : SavingsLedger A, SavingsLedger.fromValue ledger.toValue = .ok read →
      ledger.Storable → ledger.Finite → read = ledger := by
    intro ledger read hread hstorable hfinite
    rw [(fromValue_toValue hstorable).mpr hfinite] at hread
    exact (Except.ok.inj hread).symm
  cases h with
  | nothing h => exact absurd h hsaved
  | good h =>
    obtain ⟨ledger, hledger, read, hvalue, hload⟩ := loadResilient_good hparsed h maxDays priced
    exact ⟨ledger, hledger, read, .primary, by rw [hload], (nomatch ·), hvalue,
      hread ledger read hvalue⟩
  | damaged h h' =>
    obtain ⟨ledger, hledger, read, hvalue, hload⟩ :=
      loadResilient_damaged hparsed h h' maxDays priced
    exact ⟨ledger, hledger, read, .recovered, by rw [hload], (nomatch ·), hvalue,
      hread ledger read hvalue⟩

/-- **Crash recovery**: after a safe run with a save, a load returns one of the last two
snapshots. -/
theorem safe_run_restores (files : Files) (events : List (Event A))
    (hsafe : SafeRun parse events ⟨files, []⟩)
    (hparsed : ((World.mk files []).run parse events).Parsed parse)
    (hsaved : ((World.mk files []).run parse events).saved ≠ []) (maxDays : ℕ) (priced : Bool) :
    Restores parse ((World.mk files []).run parse events) maxDays priced :=
  Recoverable.restores (Recoverable.run (.nothing rfl) hsafe hparsed) hparsed hsaved maxDays priced

end Runs

/-- A parser that knows one snapshot. -/
def parserOf (ledger : SavingsLedger A) : Json.Parser := fun content =>
  if content = (document ledger).bytes then some (document ledger) else none

theorem readsWhole_parserOf (ledger : SavingsLedger A) :
    ReadsWhole (parserOf ledger) (document ledger) :=
  ⟨if_pos rfl, fun _ _ hne => if_neg hne⟩

theorem document_bytes_ne_nil (ledger : SavingsLedger A) : (document ledger).bytes ≠ [] := by
  intro hnil
  have hbrace : String.utf8EncodeChar '\x7b' = [0x7b] := by decide
  rw [document, Json.bytes, Json.render, utf8, List.flatMap_cons, hbrace] at hnil
  exact absurd hnil (List.cons_ne_nil _ _)

theorem parserOf_nil (ledger : SavingsLedger A) : parserOf ledger [] = none :=
  if_neg (document_bytes_ne_nil ledger).symm

theorem unreadable_nil (ledger : SavingsLedger A) : Unreadable A (parserOf ledger) (some []) := by
  refine ⟨[], .json, rfl, ?_⟩
  rw [load, parserOf_nil]

/-- A ledger with one turn. -/
def oneTurn : SavingsLedger ℕ :=
  (SavingsLedger.new 7 true).recordAttributed ⟨"fast", 2, 5, 3, 10, 20, false⟩ lastOfJanuary none
    none

/-- Two saves, a damaged file, and a load that is cut short while it copies. -/
theorem two_saves_restore :
    Restores (parserOf oneTurn) ((World.mk ⟨none, none, none, []⟩ []).run (parserOf oneTurn)
      [.save oneTurn, .save oneTurn, .corrupt [], .loadCut 2]) 7 true := by
  refine safe_run_restores ⟨none, none, none, []⟩
    [.save oneTurn, .save oneTurn, .corrupt [], .loadCut 2]
    ⟨trivial, trivial, ⟨unreadable_nil _, fun _ => ?_⟩, fun _ => by decide, trivial⟩ ?_ ?_ 7 true
  · exact ⟨oneTurn, List.mem_cons_self, rfl⟩
  · intro ledger hledger
    obtain rfl : ledger = oneTurn := by
      rcases List.mem_cons.mp hledger with rfl | hledger
      · rfl
      · exact List.mem_singleton.mp hledger
    exact readsWhole_parserOf oneTurn
  · exact List.cons_ne_nil _ _

/-- The first save has no last-good file. When its file is damaged, a load moves it away and
fails, and the next one starts with a new ledger. -/
theorem new_ledger_after_first_save :
    ReadsWhole (parserOf oneTurn) (document oneTurn) ∧
    Unreadable ℕ (parserOf oneTurn) (some []) ∧
    ((World.mk ⟨none, none, none, []⟩ []).run (parserOf oneTurn)
      [.save oneTurn, .corrupt [], .load 400 false]).saved = [oneTurn] ∧
    (loadResilient (parserOf oneTurn) 400 false
      ((World.mk ⟨none, none, none, []⟩ []).run (parserOf oneTurn)
        [.save oneTurn, .corrupt [], .load 400 false]).files).2 =
      .ok ((.new 400 false : SavingsLedger ℕ), .new) := by
  refine ⟨readsWhole_parserOf _, unreadable_nil _, rfl, ?_⟩
  have hload : loadResilient (A := ℕ) (parserOf oneTurn) 400 false ⟨some [], none, none, []⟩ =
      (⟨none, none, none, [[]]⟩, .error .json) := by
    simp [loadResilient, load, parserOf_nil, Files.quarantine]
  show (loadResilient _ _ _ (loadResilient (A := ℕ) _ 400 false ⟨some [], none, none, []⟩).1).2 = _
  rw [hload]
  rfl

end WayfinderRouter.Ledger
