import Mathlib.Data.List.Find
import WayfinderRouter.Evidence.Report
import WayfinderRouter.Fallible
import WayfinderRouter.Ordered.Insertions
import WayfinderRouter.Text

/-!
# The store of quality labels

Labels are kept under a text made of their request, their route and their evaluator. A batch of
labels is stored as a whole or not at all, and the store has room for a fixed number of them.

## Main definitions

- `EvidenceStore` — the labels under their keys, none of them malformed
- `EvidenceStore.insert` — store a batch
- `EvidenceLabel.identity` — what a label is about, and whose it is
- `EvidenceStore.find` — the stored label of an identity

## Main results

- `labelKey_eq_iff` — labels share a key when they have the same identity
- `insert_batches` — what a batch does after any other batches
-/

namespace WayfinderRouter.Evidence

open Ordered

/-- `EvidenceError`, as far as insertions return it. -/
inductive EvidenceError where
  | invalid (message : String)
  | capacity
deriving DecidableEq

/-- `MAX_EVIDENCE_LABELS`. -/
def maxEvidenceLabels : ℕ := 2048

/-- `MAX_EVIDENCE_LABEL_BYTES`. -/
def maxEvidenceLabelBytes : ℕ := 128

/-! ## Labels -/

/-- The checks of one text of a label. -/
def validateText (name value : String) : Except EvidenceError Unit :=
  if value.isEmpty ∨ maxEvidenceLabelBytes < value.utf8ByteSize then
    .error (.invalid (name ++ " must be between 1 and " ++ toString maxEvidenceLabelBytes ++
      " bytes"))
  else if (utf8 value.toList).any fun b => b = 0 || b < 0x20 then
    .error (.invalid (name ++ " contains a control character"))
  else .ok ()

/-- `validate_label`. -/
def validateLabel (label : EvidenceLabel) : Except EvidenceError Unit := do
  validateText "request_id" label.requestId
  validateText "candidate_route" label.candidateRoute
  match label.evaluator with
  | .human => pure ()
  | .automated version => validateText "automated evaluator version" version

/-- `label_key`. -/
def labelKey (label : EvidenceLabel) : String :=
  label.requestId ++ "\x00" ++ label.candidateRoute ++ "\x00" ++ label.evaluator.key

/-- What a label is about, and whose it is. -/
def EvidenceLabel.identity (label : EvidenceLabel) : String × String × EvidenceEvaluator :=
  (label.requestId, label.candidateRoute, label.evaluator)

theorem nul_notMem_of_validateText {name value : String} (h : validateText name value = .ok ()) :
    '\x00' ∉ value.toList := by
  intro hmem
  unfold validateText at h
  split_ifs at h with hlength hcontrol
  apply hcontrol
  rw [List.any_eq_true]
  exact ⟨0, List.mem_flatMap.mpr ⟨_, hmem, by decide⟩, rfl⟩

theorem validateText_of_validateLabel {label : EvidenceLabel} (h : validateLabel label = .ok ()) :
    validateText "request_id" label.requestId = .ok () ∧
      validateText "candidate_route" label.candidateRoute = .ok () := by
  obtain ⟨⟨⟩, hrequest, h⟩ := bind_eq_ok.mp h
  obtain ⟨⟨⟩, hroute, -⟩ := bind_eq_ok.mp h
  exact ⟨hrequest, hroute⟩

theorem evaluatorKey_injective : Function.Injective EvidenceEvaluator.key := by
  intro evaluator evaluator' h
  cases evaluator with
  | human =>
    cases evaluator' with
    | human => rfl
    | automated version =>
      have hfirst := congrArg (fun s : String => s.toList.head?) h
      simp [EvidenceEvaluator.key] at hfirst
  | automated version =>
    cases evaluator' with
    | human =>
      have hfirst := congrArg (fun s : String => s.toList.head?) h
      simp [EvidenceEvaluator.key] at hfirst
    | automated version' =>
      have hversion := congrArg String.toList h
      simp only [EvidenceEvaluator.key, String.toList_append,
        List.append_cancel_left_eq] at hversion
      rw [String.toList_inj.mp hversion]

/-- Two texts that end at the first separator are the same. -/
theorem separated_inj {c : Char} {l₁ l₂ r₁ r₂ : List Char} (h₁ : c ∉ l₁) (h₂ : c ∉ l₂)
    (h : l₁ ++ c :: r₁ = l₂ ++ c :: r₂) : l₁ = l₂ ∧ r₁ = r₂ := by
  induction l₁ generalizing l₂ with
  | nil =>
    cases l₂ with
    | nil => exact ⟨rfl, List.tail_eq_of_cons_eq h⟩
    | cons d l₂ => exact absurd (List.head_eq_of_cons_eq h) (List.ne_of_not_mem_cons h₂)
  | cons d l₁ ih =>
    cases l₂ with
    | nil => exact absurd (List.head_eq_of_cons_eq h).symm (List.ne_of_not_mem_cons h₁)
    | cons d' l₂ =>
      obtain ⟨rfl, hrest⟩ := List.cons.inj h
      obtain ⟨rfl, rfl⟩ := ih (List.not_mem_of_not_mem_cons h₁)
        (List.not_mem_of_not_mem_cons h₂) hrest
      exact ⟨rfl, rfl⟩

/-- Labels that are accepted share a key when they have the same identity. -/
theorem labelKey_eq_iff {label label' : EvidenceLabel} (h : validateLabel label = .ok ())
    (h' : validateLabel label' = .ok ()) :
    labelKey label = labelKey label' ↔ label.identity = label'.identity := by
  constructor
  · intro heq
    obtain ⟨hrequest, hroute⟩ := validateText_of_validateLabel h
    obtain ⟨hrequest', hroute'⟩ := validateText_of_validateLabel h'
    -- the first separator ends the request, the second one the route
    have hchars := congrArg String.toList heq
    simp only [labelKey, String.toList_append, List.append_assoc] at hchars
    obtain ⟨hrequestId, hrest⟩ := separated_inj (nul_notMem_of_validateText hrequest)
      (nul_notMem_of_validateText hrequest') hchars
    obtain ⟨hcandidate, hevaluator⟩ := separated_inj (nul_notMem_of_validateText hroute)
      (nul_notMem_of_validateText hroute') hrest
    rw [EvidenceLabel.identity, EvidenceLabel.identity, String.toList_inj.mp hrequestId,
      String.toList_inj.mp hcandidate, evaluatorKey_injective (String.toList_inj.mp hevaluator)]
  · intro heq
    obtain ⟨hrequest, hrest⟩ := Prod.mk.inj heq
    obtain ⟨hroute, hevaluator⟩ := Prod.mk.inj hrest
    rw [labelKey, labelKey, hrequest, hroute, hevaluator]

/-! ## The store -/

/-- Well-formed labels under their keys, in the order of the keys. -/
structure EvidenceStore where
  labels : List (String × EvidenceLabel)
  maxLabels : ℕ
  sorted : Sorted labels
  keyed : ∀ e ∈ labels, e.1 = labelKey e.2 ∧ validateLabel e.2 = .ok ()
  room : labels.length ≤ maxLabels

theorem keyed_nil : ∀ e ∈ ([] : List (String × EvidenceLabel)),
    e.1 = labelKey e.2 ∧ validateLabel e.2 = .ok () :=
  fun _ he => absurd he List.not_mem_nil

theorem keyed_insertAll {batch : List EvidenceLabel} {labels : List (String × EvidenceLabel)}
    (hkeyed : ∀ e ∈ labels, e.1 = labelKey e.2 ∧ validateLabel e.2 = .ok ())
    (hbatch : ∀ label ∈ batch, validateLabel label = .ok ()) :
    ∀ e ∈ insertAll labelKey batch labels, e.1 = labelKey e.2 ∧ validateLabel e.2 = .ok () := by
  intro e he
  rcases mem_insertAll he with hold | ⟨label, hlabel, rfl⟩
  · exact hkeyed e hold
  · exact ⟨rfl, hbatch label hlabel⟩

theorem room_insertAll {batch : List EvidenceLabel} {labels : List (String × EvidenceLabel)} {n : ℕ}
    (hsorted : Sorted labels) (h : ¬n < labels.length + (newKeys labelKey batch labels).card) :
    (insertAll labelKey batch labels).length ≤ n := by
  rw [length_insertAll hsorted]
  exact not_lt.mp h

namespace EvidenceStore

/-- `EvidenceStore::new`. -/
def new (maxLabels : ℕ) : EvidenceStore :=
  ⟨[], min (max maxLabels 1) maxEvidenceLabels, List.Pairwise.nil, keyed_nil, Nat.zero_le _⟩

/-- `EvidenceStore::insert`. -/
def insert (batch : List EvidenceLabel) (store : EvidenceStore) :
    Except EvidenceError ℕ × EvidenceStore :=
  if store.maxLabels < batch.length then (.error .capacity, store)
  else
    match hbatch : batch.forM validateLabel with
    | .error e => (.error e, store)
    | .ok () =>
      -- the whole batch is checked before the store changes
      if hroom : store.maxLabels <
          store.labels.length + (newKeys labelKey batch store.labels).card then
        (.error .capacity, store)
      else
        (.ok (newKeys labelKey batch store.labels).card,
          { store with
            labels := insertAll labelKey batch store.labels
            sorted := store.sorted.insertAll batch
            keyed := keyed_insertAll store.keyed (forM_eq_ok.mp hbatch)
            room := room_insertAll store.sorted hroom })

/-- The store after batches, accepted or not. -/
def insertBatches (maxLabels : ℕ) (batches : List (List EvidenceLabel)) : EvidenceStore :=
  batches.foldl (fun store batch => (store.insert batch).2) (new maxLabels)

/-- `EvidenceStore::snapshot`. -/
def snapshot (store : EvidenceStore) : List EvidenceLabel := store.labels.map Prod.snd

/-- The stored label of an identity. -/
def find (identity : String × String × EvidenceEvaluator) (store : EvidenceStore) :
    Option EvidenceLabel :=
  store.snapshot.find? fun label => label.identity = identity

/-- The identities of a batch that are not stored. -/
def newIdentities (batch : List EvidenceLabel) (store : EvidenceStore) :
    Finset (String × String × EvidenceEvaluator) :=
  ((batch.map EvidenceLabel.identity).filter fun identity =>
    (store.find identity).isNone).toFinset

variable {store : EvidenceStore} {batch : List EvidenceLabel}

/-- A batch changes nothing, or it is stored. -/
theorem insert_cases (store : EvidenceStore) (batch : List EvidenceLabel) :
    (∃ e, store.insert batch = (.error e, store)) ∨
      (∀ label ∈ batch, validateLabel label = .ok ()) ∧
        (store.insert batch).1 = .ok (newKeys labelKey batch store.labels).card ∧
        (store.insert batch).2.labels = insertAll labelKey batch store.labels ∧
        (store.insert batch).2.maxLabels = store.maxLabels := by
  unfold insert
  split
  · exact .inl ⟨.capacity, rfl⟩
  split
  · next e _ => exact .inl ⟨e, rfl⟩
  · next hbatch =>
    split
    · exact .inl ⟨.capacity, rfl⟩
    · exact .inr ⟨forM_eq_ok.mp hbatch, rfl, rfl, rfl⟩

theorem maxLabels_insert (store : EvidenceStore) (batch : List EvidenceLabel) :
    (store.insert batch).2.maxLabels = store.maxLabels := by
  rcases store.insert_cases batch with ⟨e, h⟩ | ⟨-, -, -, h⟩
  · rw [h]
  · exact h

theorem maxLabels_insertBatches (maxLabels : ℕ) (batches : List (List EvidenceLabel)) :
    (insertBatches maxLabels batches).maxLabels = min (max maxLabels 1) maxEvidenceLabels := by
  induction batches using List.reverseRecOn with
  | nil => rfl
  | append_singleton batches batch ih =>
    rw [insertBatches, List.foldl_concat, maxLabels_insert]
    exact ih

/-! ## Identities -/

/-- An identity is found under the key of a label that has it. -/
theorem find_identity {label : EvidenceLabel} (h : validateLabel label = .ok ()) :
    store.find label.identity = lookup (labelKey label) store.labels := by
  rw [find, snapshot, List.find?_map, lookup_eq_find?]
  congr 1
  apply List.find?_congr
  intro e he
  obtain ⟨hkey, hvalid⟩ := store.keyed e he
  rw [Function.comp, decide_eq_decide, hkey, labelKey_eq_iff hvalid h]

/-- Every stored label is a well-formed one. -/
theorem validateLabel_of_find {identity : String × String × EvidenceEvaluator}
    {label : EvidenceLabel} (h : store.find identity = some label) :
    validateLabel label = .ok () ∧ label.identity = identity := by
  unfold find at h
  have hidentity := List.find?_some h
  obtain ⟨e, he, rfl⟩ := List.mem_map.mp (List.mem_of_find?_eq_some h)
  exact ⟨(store.keyed e he).2, of_decide_eq_true hidentity⟩

/-- The stored labels have different identities. -/
theorem nodup_identities (store : EvidenceStore) :
    (store.snapshot.map EvidenceLabel.identity).Nodup := by
  have hkeys : store.labels.Pairwise fun e e' => e.1 < e'.1 := List.pairwise_map.mp store.sorted
  rw [snapshot, List.map_map, List.Nodup, List.pairwise_map]
  refine hkeys.imp_of_mem ?_
  intro e e' he he' hlt heq
  obtain ⟨hkey, hvalid⟩ := store.keyed e he
  obtain ⟨hkey', hvalid'⟩ := store.keyed e' he'
  rw [hkey, hkey', (labelKey_eq_iff hvalid hvalid').mpr heq] at hlt
  exact lt_irrefl _ hlt

/-- A batch of well-formed labels, found by the key of one of them. -/
theorem find?_labelKey (hbatch : ∀ label ∈ batch, validateLabel label = .ok ())
    {label : EvidenceLabel} (h : validateLabel label = .ok ()) :
    (batch.reverse.find? fun label' => labelKey label' = labelKey label) =
      batch.reverse.find? fun label' => label'.identity = label.identity := by
  apply List.find?_congr
  intro label' hlabel'
  rw [decide_eq_decide]
  exact labelKey_eq_iff (hbatch label' (List.mem_reverse.mp hlabel')) h

/-- What is found after a batch: its last label of the identity, or what was stored. -/
theorem find_insert {n : ℕ} (h : (store.insert batch).1 = .ok n)
    (identity : String × String × EvidenceEvaluator) :
    (store.insert batch).2.find identity =
      (batch.reverse.find? fun label => label.identity = identity).or (store.find identity) := by
  rcases store.insert_cases batch with ⟨e, he⟩ | ⟨hbatch, -, hlabels, -⟩
  · rw [he] at h
    cases h
  by_cases hlabel : ∃ label, validateLabel label = .ok () ∧ label.identity = identity
  · obtain ⟨label, hvalid, rfl⟩ := hlabel
    rw [find_identity hvalid, find_identity hvalid, hlabels, lookup_insertAll store.sorted,
      find?_labelKey hbatch hvalid]
  · -- no well-formed label has the identity
    have hnone : ∀ store : EvidenceStore, store.find identity = none := by
      intro store
      by_contra hsome
      obtain ⟨label, hfind⟩ := Option.ne_none_iff_exists'.mp hsome
      exact hlabel ⟨label, validateLabel_of_find hfind⟩
    have hbatchNone : (batch.reverse.find? fun label => label.identity = identity) = none := by
      rw [List.find?_eq_none]
      intro label hmem heq
      exact hlabel ⟨label, hbatch label (List.mem_reverse.mp hmem), of_decide_eq_true heq⟩
    rw [hnone, hnone, hbatchNone]
    rfl

/-- As many keys are new as identities. -/
theorem card_newKeys (hbatch : ∀ label ∈ batch, validateLabel label = .ok ()) :
    (newKeys labelKey batch store.labels).card = (store.newIdentities batch).card := by
  have hnew : ∀ label ∈ batch, (label.identity ∈ store.newIdentities batch ↔
      labelKey label ∈ newKeys labelKey batch store.labels) := by
    intro label hlabel
    have hvalid := hbatch label hlabel
    simp only [newIdentities, newKeys, List.mem_toFinset, List.mem_filter,
      List.mem_map_of_mem hlabel, true_and, find_identity hvalid]
  symm
  refine Finset.card_bij (fun identity _ => identity.1 ++ "\x00" ++ identity.2.1 ++ "\x00" ++
    identity.2.2.key) ?_ ?_ ?_
  · intro identity hidentity
    obtain ⟨label, hlabel, rfl⟩ := List.mem_map.mp (List.mem_of_mem_filter
      (List.mem_toFinset.mp hidentity))
    exact (hnew label hlabel).mp hidentity
  · intro identity hidentity identity' hidentity' heq
    obtain ⟨label, hlabel, rfl⟩ := List.mem_map.mp (List.mem_of_mem_filter
      (List.mem_toFinset.mp hidentity))
    obtain ⟨label', hlabel', rfl⟩ := List.mem_map.mp (List.mem_of_mem_filter
      (List.mem_toFinset.mp hidentity'))
    exact (labelKey_eq_iff (hbatch label hlabel) (hbatch label' hlabel')).mp heq
  · intro key hkey
    obtain ⟨label, hlabel, rfl⟩ := List.mem_map.mp (List.mem_of_mem_filter
      (List.mem_toFinset.mp hkey))
    exact ⟨label.identity, (hnew label hlabel).mpr hkey, rfl⟩

/-- What a batch does after any other batches. One that is refused changes nothing. One that is
stored gives each of its identities its last label of the identity and leaves the others alone,
and the number is that of the identities that were not stored. -/
theorem insert_batches (maxLabels : ℕ) (batches : List (List EvidenceLabel))
    (batch : List EvidenceLabel) :
    let store := insertBatches maxLabels batches
    (∀ e, (store.insert batch).1 = .error e → (store.insert batch).2 = store) ∧
      (∀ n, (store.insert batch).1 = .ok n →
        n = (store.newIdentities batch).card ∧
          ∀ identity, (store.insert batch).2.find identity =
            (batch.reverse.find? fun label => label.identity = identity).or
              (store.find identity)) ∧
      store.snapshot.length ≤ min (max maxLabels 1) maxEvidenceLabels ∧
      (store.snapshot.map EvidenceLabel.identity).Nodup ∧
      ∀ label label' : EvidenceLabel, validateLabel label = .ok () →
        validateLabel label' = .ok () →
          (labelKey label = labelKey label' ↔ label.identity = label'.identity) := by
  intro store
  refine ⟨?_, ?_, ?_, store.nodup_identities, fun label label' => labelKey_eq_iff⟩
  · intro e h
    rcases store.insert_cases batch with ⟨e', he'⟩ | ⟨-, hok, -⟩
    · rw [he']
    · rw [hok] at h
      cases h
  · intro n h
    refine ⟨?_, find_insert h⟩
    rcases store.insert_cases batch with ⟨e, he⟩ | ⟨hbatch, hok, -⟩
    · rw [he] at h
      cases h
    · rw [← card_newKeys hbatch]
      exact (Except.ok.inj (hok.symm.trans h)).symm
  · rw [snapshot, List.length_map, ← maxLabels_insertBatches maxLabels batches]
    exact store.room

end EvidenceStore

end WayfinderRouter.Evidence
