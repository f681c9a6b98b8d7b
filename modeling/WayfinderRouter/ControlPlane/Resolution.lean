import Mathlib.Data.Prod.Lex
import WayfinderRouter.ControlPlane.Lifecycle
import WayfinderRouter.Fallible.Rules
import WayfinderRouter.Ordered.Insertions

/-!
# The profile of a request

A policy document has profiles, and bindings of keys, workspaces and clients to them. Validation
checks the document and derives tables from it. A request is then resolved to the profile of its
most specific binding, or to the default profile.

The resolution indexes a table without a check. It is a partial function here, and it is total on
what validation has derived.

## Main definitions

- `PolicyDocument.validateShape`, `DraftPolicyVersion.validate` — the checks of a document
- `PolicyDocument.WellFormed` — a document that passes, in terms of its parts
- `PolicyTables.resolve` — the profile of a request
- `PolicyDocument.Governs` — the profile that the bindings of a document mean

## Main results

- `validation_exact` — which documents are validated
- `resolution_exact` — to which profile a request is resolved
-/

namespace WayfinderRouter.ControlPlane

open Config Toml
open Ordered (lookup)

/-! ## Distinct keys -/

section Distinct

variable {ε α K : Type} [DecidableEq K] (key : α → K) (check : α → Except ε Unit)
  (duplicate : α → ε)

/-- A loop that checks each element, and that its key was not seen before. -/
def checkDistinct (seen : List K) : List α → Except ε Unit
  | [] => .ok ()
  | a :: l => do
    check a
    if key a ∈ seen then .error (duplicate a) else checkDistinct (key a :: seen) l

variable {key check duplicate}

theorem yields_checkDistinct {p : α → Prop} (hcheck : ∀ a, Yields (check a) () (p a)) (l : List α) :
    ∀ seen, Yields (checkDistinct key check duplicate seen l) ()
      ((∀ a ∈ l, p a) ∧ (l.map key).Nodup ∧ ∀ a ∈ l, key a ∉ seen) := by
  induction l with
  | nil =>
    intro seen
    rw [checkDistinct]
    exact .done ⟨List.forall_mem_nil _, List.nodup_nil, List.forall_mem_nil _⟩
  | cons a l ih =>
    intro seen
    rw [checkDistinct, List.forall_mem_cons, List.forall_mem_cons, List.map_cons, List.nodup_cons]
    refine (hcheck a).step (fun h => h.1.1) fun ha => ?_
    split_ifs with hseen
    · exact fun _ => iff_of_false (fun h => by cases h) fun h => h.2.2.2.1 hseen
    · refine (ih (key a :: seen)).iff ⟨?_, ?_⟩
      · rintro ⟨hl, hnodup, hunseen⟩
        refine ⟨⟨ha, hl⟩, ⟨?_, hnodup⟩, hseen, fun b hb => ?_⟩
        · intro hmem
          obtain ⟨b, hb, hkey⟩ := List.mem_map.mp hmem
          exact hunseen b hb (hkey ▸ List.mem_cons_self)
        · exact fun hmem => hunseen b hb (List.mem_cons_of_mem _ hmem)
      · rintro ⟨⟨-, hl⟩, ⟨hnew, hnodup⟩, -, hunseen⟩
        refine ⟨hl, hnodup, fun b hb hmem => ?_⟩
        rcases List.mem_cons.mp hmem with heq | hmem
        · exact hnew (heq ▸ List.mem_map_of_mem hb)
        · exact hunseen b hb hmem

end Distinct

/-! ## Documents -/

/-- Return the error unless the condition holds. -/
def check (condition : Bool) (error : PolicyError) : Except PolicyError Unit :=
  if condition then .ok () else .error error

/-- `POLICY_SCHEMA_VERSION`. -/
def policySchemaVersion : String := "wf-policy-v1"

/-- `MAX_PROFILES`. -/
def maxProfiles : ℕ := 256

/-- `MAX_BINDINGS`. -/
def maxBindings : ℕ := 4096

/-- An identifier that `validate_id` accepts. -/
def ValidId (value : String) : Prop :=
  trim value ≠ "" ∧ value.utf8ByteSize ≤ maxIdBytes ∧
    ∀ c ∈ value.toList, 32 ≤ c.toNat ∧ c.toNat ≠ 127

namespace PolicyDocument

variable (document : PolicyDocument)

/-- `default_profile_id`. -/
def defaultProfile : Except PolicyError String :=
  match document.defaultProfileId with
  | some profileId => do
    validateId "default profile id" profileId
    .ok profileId
  | none =>
    match document.profiles with
    | [profile] => .ok profile.id
    | _ => .error .missingDefaultProfile

/-- The checks of one binding. -/
def checkBinding (binding : PolicyBinding) : Except PolicyError Unit := do
  validateId "binding subject" binding.subject
  validateId "binding profile id" binding.profileId
  check (binding.profileId ∈ document.profiles.map PolicyProfile.id)
    (.unknownProfile binding.profileId)

/-- What a binding is about. -/
def target (binding : PolicyBinding) : BindingKind × String := (binding.kind, binding.subject)

/-- `validate_shape`. -/
def validateShape : Except PolicyError Unit := do
  check (document.schemaVersion = policySchemaVersion) (.unsupportedSchema document.schemaVersion)
  check (document.profiles ≠ [] ∧ document.profiles.length ≤ maxProfiles) .invalidProfileCount
  check (document.bindings.length ≤ maxBindings) .tooManyBindings
  checkDistinct PolicyProfile.id (fun profile => validateId "profile id" profile.id)
    (fun profile => .duplicateProfile profile.id) [] document.profiles
  let profileId ← document.defaultProfile
  check (profileId ∈ document.profiles.map PolicyProfile.id) (.unknownDefaultProfile profileId)
  checkDistinct target document.checkBinding (fun binding => .duplicateBinding binding.subject) []
    document.bindings

/-- `PolicyDocument::new_with_default`. -/
def newWithDefault (profiles : List PolicyProfile) (bindings : List PolicyBinding)
    (defaultProfileId : Option String) : Except PolicyError PolicyDocument := do
  let document : PolicyDocument := ⟨policySchemaVersion, profiles, defaultProfileId, bindings⟩
  document.validateShape
  .ok document

/-- `PolicyDocument::new`: the default is the only profile, or the one that is called so. -/
def new (profiles : List PolicyProfile) (bindings : List PolicyBinding) :
    Except PolicyError PolicyDocument :=
  newWithDefault profiles bindings
    (if profiles.length = 1 then profiles.head?.map PolicyProfile.id
    else (profiles.find? fun profile => profile.id = "default").map PolicyProfile.id)

/-- The profile is named as the default, or it is the only one. -/
def IsDefault (profileId : String) : Prop :=
  document.defaultProfileId = some profileId ∨
    document.defaultProfileId = none ∧ ∃ profile, document.profiles = [profile] ∧
      profile.id = profileId

/-- A document that can be a policy, in terms of its parts. -/
structure WellFormed : Prop where
  schemaVersion : document.schemaVersion = policySchemaVersion
  profiles : document.profiles ≠ [] ∧ document.profiles.length ≤ maxProfiles
  bindings : document.bindings.length ≤ maxBindings
  profileIds : ∀ profile ∈ document.profiles, ValidId profile.id
  distinct : (document.profiles.map PolicyProfile.id).Nodup
  default : ∃ profileId, document.IsDefault profileId ∧ ValidId profileId ∧
    profileId ∈ document.profiles.map PolicyProfile.id
  bound : ∀ binding ∈ document.bindings, ValidId binding.subject ∧ ValidId binding.profileId ∧
    binding.profileId ∈ document.profiles.map PolicyProfile.id
  single : (document.bindings.map target).Nodup

end PolicyDocument

/-! ## Validation -/

/-- A draft of a policy. -/
structure DraftPolicyVersion where
  versionId : String
  document : PolicyDocument
  draftedBy : AdministrativeIdentity

/-- `PolicyLifecycle::draft`, for an encoding of documents and the digits of a digest. -/
def draft {α : Type} (encode : PolicyDocument → α) (sha256Hex : α → String)
    (document : PolicyDocument) (actor : AdministrativeIdentity) :
    Except PolicyError DraftPolicyVersion := do
  document.validateShape
  .ok ⟨"wpv1-" ++ sha256Hex (encode document), document, actor⟩

/-- The order in which the kinds are declared. -/
def BindingKind.rank : BindingKind → ℕ
  | .client => 0
  | .workspace => 1
  | .key => 2

instance : LinearOrder BindingKind :=
  LinearOrder.lift' BindingKind.rank fun kind kind' h => by
    cases kind <;> cases kind' <;> first | rfl | cases h

/-- The tables of a validated policy. -/
structure PolicyTables where
  routing : List (String × RoutingConfig)
  bindings : List ((BindingKind ×ₗ String) × String)
  defaultProfileId : String
deriving DecidableEq

/-- `DraftPolicyVersion::validate`. -/
def DraftPolicyVersion.validate (lib : Library) (draft : DraftPolicyVersion) :
    Except PolicyError (ValidatedPolicyVersion × PolicyTables) := do
  draft.document.validateShape
  let routing ← draft.document.profiles.mapM fun profile => do
    let routing ← profile.validate lib
    .ok (profile.id, routing)
  let bindings := draft.document.bindings.map fun binding =>
    (toLex (PolicyDocument.target binding), binding.profileId)
  let defaultProfileId ← draft.document.defaultProfile
  .ok (⟨draft.versionId, draft.document, draft.draftedBy⟩,
    { routing := Ordered.collect routing
      bindings := Ordered.collect bindings
      defaultProfileId })

/-! ## Resolution -/

/-- The identities of a request. -/
structure BindingContext where
  clientId : Option String
  workspaceId : Option String
  keyId : Option String

def BindingContext.subject (context : BindingContext) : BindingKind → Option String
  | .client => context.clientId
  | .workspace => context.workspaceId
  | .key => context.keyId

structure ResolvedPolicyProfile where
  profileId : String
  bindingKind : Option BindingKind
  routing : RoutingConfig
deriving DecidableEq

namespace PolicyTables

variable (tables : PolicyTables)

/-- The profile that an identity of the request is bound to. -/
def boundProfile (context : BindingContext) (kind : BindingKind) : Option String :=
  (context.subject kind).bind fun subject => lookup (toLex (kind, subject)) tables.bindings

/-- The kinds, from the most specific one on. -/
def kinds : List BindingKind := [.key, .workspace, .client]

/-- The first binding of the request, or none. -/
def firstBinding (context : BindingContext) : Option (BindingKind × String) :=
  kinds.findSome? fun kind => (tables.boundProfile context kind).map fun id => (kind, id)

/-- `ValidatedPolicyVersion::resolve`, if the table has the profile. -/
def resolve (context : BindingContext) : Option ResolvedPolicyProfile :=
  match tables.firstBinding context with
  | some (kind, profileId) =>
    (lookup profileId tables.routing).map fun routing => ⟨profileId, some kind, routing⟩
  | none =>
    (lookup tables.defaultProfileId tables.routing).map fun routing =>
      ⟨tables.defaultProfileId, none, routing⟩

end PolicyTables

namespace PolicyDocument

variable (document : PolicyDocument)

/-- The document binds an identity of the request to the profile. -/
def Binds (context : BindingContext) (kind : BindingKind) (profileId : String) : Prop :=
  ∃ subject, context.subject kind = some subject ∧ ⟨kind, subject, profileId⟩ ∈ document.bindings

/-- No identity of the kind is bound. -/
def Unbound (context : BindingContext) (kind : BindingKind) : Prop :=
  ∀ profileId, ¬ document.Binds context kind profileId

/-- The profile of a request: that of its key, else of its workspace, else of its client, else the
default one. -/
inductive Governs (context : BindingContext) : Option BindingKind → String → Prop where
  | key {profileId : String} (h : document.Binds context .key profileId) :
    Governs context (some .key) profileId
  | workspace {profileId : String} (hkey : document.Unbound context .key)
    (h : document.Binds context .workspace profileId) : Governs context (some .workspace) profileId
  | client {profileId : String} (hkey : document.Unbound context .key)
    (hworkspace : document.Unbound context .workspace)
    (h : document.Binds context .client profileId) : Governs context (some .client) profileId
  | default {profileId : String} (hkey : document.Unbound context .key)
    (hworkspace : document.Unbound context .workspace)
    (hclient : document.Unbound context .client) (h : document.IsDefault profileId) :
    Governs context none profileId

end PolicyDocument

/-! ## Checks -/

variable {lib : Library} {document : PolicyDocument}

theorem yields_validateId (kind value : String) :
    Yields (validateId kind value) () (ValidId value) := by
  intro u
  rw [validateId]
  split_ifs with h
  · -- one of the three conditions fails
    refine iff_of_false (fun h => by cases h) fun hvalid => ?_
    obtain ⟨hblank, hsize, hprintable⟩ := hvalid.2
    rcases h with h | h | h
    · exact hblank h
    · omega
    · obtain ⟨c, hc, hcontrol⟩ := List.any_eq_true.mp h
      have hc := hprintable c hc
      simp only [Bool.or_eq_true, decide_eq_true_eq] at hcontrol
      omega
  · rw [not_or, not_or, not_lt, List.any_eq_true] at h
    refine iff_of_true rfl ⟨rfl, h.1, h.2.1, fun c hc => ?_⟩
    by_contra hcontrol
    refine h.2.2 ⟨c, hc, ?_⟩
    simp only [Bool.or_eq_true, decide_eq_true_eq]
    omega

theorem yields_check {p : Prop} [Decidable p] (error : PolicyError) :
    Yields (check (decide p) error) () p := by
  intro u
  rw [check, ite_eq_ok, decide_eq_true_iff]

theorem defaultProfile_eq_ok {profileId : String} :
    document.defaultProfile = .ok profileId ↔
      document.IsDefault profileId ∧ (document.defaultProfileId.isSome → ValidId profileId) := by
  rw [PolicyDocument.defaultProfile, PolicyDocument.IsDefault]
  cases hdefault : document.defaultProfileId with
  | some profileId' =>
    rw [bind_eq_ok]
    constructor
    · rintro ⟨_, hvalid, h⟩
      cases h
      exact ⟨.inl rfl, fun _ => ((yields_validateId _ _ ()).mp hvalid).2⟩
    · rintro ⟨h | h, hvalid⟩
      · cases h
        exact ⟨(), (yields_validateId _ _).eq_ok (hvalid rfl), rfl⟩
      · cases h.1
  | none =>
    cases hprofiles : document.profiles with
    | nil =>
      refine iff_of_false (fun h => by cases h) ?_
      rintro ⟨h | ⟨-, _, h, -⟩, -⟩ <;> cases h
    | cons profile profiles =>
      cases profiles with
      | nil =>
        constructor
        · intro h
          cases h
          exact ⟨.inr ⟨rfl, profile, rfl, rfl⟩, fun h => by cases h⟩
        · rintro ⟨h | ⟨-, _, h, rfl⟩, -⟩
          · cases h
          · cases h
            rfl
      | cons _ _ =>
        refine iff_of_false (fun h => by cases h) ?_
        rintro ⟨h | ⟨-, _, h, -⟩, -⟩ <;> cases h

theorem PolicyDocument.IsDefault.unique {profileId profileId' : String}
    (h : document.IsDefault profileId)
    (h' : document.IsDefault profileId') : profileId = profileId' := by
  rcases h with h | ⟨h, profile, hprofile, rfl⟩
  · rcases h' with h' | ⟨h', -⟩
    · exact Option.some.inj (h.symm.trans h')
    · rw [h] at h'
      cases h'
  · rcases h' with h' | ⟨-, profile', hprofile', rfl⟩
    · rw [h] at h'
      cases h'
    · rw [hprofile] at hprofile'
      cases hprofile'
      rfl

theorem yields_checkBinding (binding : PolicyBinding) :
    Yields (document.checkBinding binding) () (ValidId binding.subject ∧
      ValidId binding.profileId ∧ binding.profileId ∈ document.profiles.map PolicyProfile.id) :=
  (yields_validateId _ _).bind ((yields_validateId _ _).bind (yields_check _))

theorem yields_checkProfiles : Yields (checkDistinct PolicyProfile.id
      (fun profile => validateId "profile id" profile.id)
      (fun profile => PolicyError.duplicateProfile profile.id) [] document.profiles) ()
    ((∀ profile ∈ document.profiles, ValidId profile.id) ∧
      (document.profiles.map PolicyProfile.id).Nodup) := by
  have hcheck : ∀ profile : PolicyProfile,
      Yields (validateId "profile id" profile.id) () (ValidId profile.id) :=
    fun profile => yields_validateId "profile id" profile.id
  exact (yields_checkDistinct hcheck document.profiles []).iff
    ⟨fun h => ⟨h.1, h.2.1⟩, fun h => ⟨h.1, h.2, fun _ _ => List.not_mem_nil⟩⟩

theorem yields_checkBindings : Yields (checkDistinct PolicyDocument.target document.checkBinding
      (fun binding => PolicyError.duplicateBinding binding.subject) [] document.bindings) ()
    ((∀ binding ∈ document.bindings, ValidId binding.subject ∧ ValidId binding.profileId ∧
        binding.profileId ∈ document.profiles.map PolicyProfile.id) ∧
      (document.bindings.map PolicyDocument.target).Nodup) :=
  (yields_checkDistinct yields_checkBinding _ _).iff
    ⟨fun h => ⟨h.1, h.2.1⟩, fun h => ⟨h.1, h.2, fun _ _ => List.not_mem_nil⟩⟩

/-- The checks pass exactly on the well-formed documents. -/
theorem yields_validateShape (document : PolicyDocument) :
    Yields document.validateShape () document.WellFormed := by
  rw [PolicyDocument.validateShape]
  refine (yields_check _).step PolicyDocument.WellFormed.schemaVersion fun hschema => ?_
  refine (yields_check _).step PolicyDocument.WellFormed.profiles fun hprofiles => ?_
  refine (yields_check _).step PolicyDocument.WellFormed.bindings fun hbindings => ?_
  refine yields_checkProfiles.step (fun h => ⟨h.profileIds, h.distinct⟩) fun hids => ?_
  intro u
  rw [bind_eq_ok]
  constructor
  · rintro ⟨profileId, hdefault, h⟩
    obtain ⟨hdefault, -⟩ := defaultProfile_eq_ok.mp hdefault
    obtain ⟨-, hknown, hbound, hsingle⟩ := ((yields_check _).bind yields_checkBindings u).mp h
    -- the default that is not named was checked with the profiles
    have hvalid : ValidId profileId := by
      obtain ⟨profile, hmem, rfl⟩ := List.mem_map.mp hknown
      exact hids.1 profile hmem
    exact ⟨rfl, hschema, hprofiles, hbindings, hids.1, hids.2,
      ⟨profileId, hdefault, hvalid, hknown⟩, hbound, hsingle⟩
  · rintro ⟨rfl, h⟩
    obtain ⟨profileId, hdefault, hvalid, hknown⟩ := h.default
    refine ⟨profileId, defaultProfile_eq_ok.mpr ⟨hdefault, fun _ => hvalid⟩, ?_⟩
    exact ((yields_check _).bind yields_checkBindings).eq_ok ⟨hknown, h.bound, h.single⟩

/-- A new document is well formed. -/
theorem wellFormed_of_newWithDefault {profiles : List PolicyProfile}
    {bindings : List PolicyBinding} {defaultProfileId : Option String}
    (h : PolicyDocument.newWithDefault profiles bindings defaultProfileId = .ok document) :
    document.WellFormed := by
  obtain ⟨_, hshape, h⟩ := bind_eq_ok.mp h
  cases h
  exact ((yields_validateShape _ _).mp hshape).2

/-- The document of a draft is well formed, and another one is not drafted. -/
theorem draft_eq_ok {α : Type} {encode : PolicyDocument → α} {sha256Hex : α → String}
    {actor : AdministrativeIdentity} {drafted : DraftPolicyVersion} :
    draft encode sha256Hex document actor = .ok drafted ↔ document.WellFormed ∧
      drafted = ⟨"wpv1-" ++ sha256Hex (encode document), document, actor⟩ := by
  rw [draft, bind_eq_ok]
  constructor
  · rintro ⟨_, hshape, h⟩
    cases h
    exact ⟨((yields_validateShape _ _).mp hshape).2, rfl⟩
  · rintro ⟨hformed, rfl⟩
    exact ⟨(), (yields_validateShape _).eq_ok hformed, rfl⟩

/-! ## Tables -/

/-- The table of entries with different keys has these entries. -/
theorem lookup_collect_eq_some {K V : Type} [LinearOrder K] {entries : List (K × V)} {k : K} {v : V}
    (hnodup : (entries.map Prod.fst).Nodup) :
    lookup k (Ordered.collect entries) = some v ↔ (k, v) ∈ entries := by
  rw [Ordered.lookup_collect hnodup]
  exact ⟨Ordered.mem_of_lookup, Ordered.lookup_of_mem hnodup⟩

/-- The profile is one of the document, and its text is the canonical one of the configuration. -/
def PolicyDocument.Provides (lib : Library) (document : PolicyDocument) (profileId : String)
    (routing : RoutingConfig) : Prop :=
  ∃ profile ∈ document.profiles, profile.id = profileId ∧ profile.validate lib = .ok routing

/-- The tables say what the document says. -/
structure Tabulates (lib : Library) (document : PolicyDocument) (tables : PolicyTables) :
    Prop where
  routing : ∀ profileId routing, lookup profileId tables.routing = some routing ↔
    document.Provides lib profileId routing
  bindings : ∀ kind subject profileId,
    lookup (toLex (kind, subject)) tables.bindings = some profileId ↔
      ⟨kind, subject, profileId⟩ ∈ document.bindings
  default : document.IsDefault tables.defaultProfileId

variable {draft : DraftPolicyVersion} {version : ValidatedPolicyVersion} {tables : PolicyTables}

/-- The entry of a profile in the table of configurations. -/
theorem profileEntry_eq_ok {profile : PolicyProfile} {e : String × RoutingConfig} :
    (do let routing ← profile.validate lib; .ok (profile.id, routing)) = Except.ok e ↔
      profile.id = e.1 ∧ profile.validate lib = .ok e.2 := by
  rw [bind_eq_ok]
  constructor
  · rintro ⟨routing, hrouting, h⟩
    cases h
    exact ⟨rfl, hrouting⟩
  · rintro ⟨hid, hrouting⟩
    exact ⟨e.2, hrouting, by rw [hid]⟩

theorem tabulates_of_validate (h : draft.validate lib = .ok (version, tables)) :
    Tabulates lib draft.document tables := by
  obtain ⟨_, hshape, h⟩ := bind_eq_ok.mp h
  obtain ⟨routing, hrouting, h⟩ := bind_eq_ok.mp h
  obtain ⟨defaultProfileId, hdefault, h⟩ := bind_eq_ok.mp h
  cases h
  obtain ⟨-, hformed⟩ := (yields_validateShape draft.document _).mp hshape
  refine ⟨fun profileId config => ?_, fun kind subject profileId => ?_,
    (defaultProfile_eq_ok.mp hdefault).1⟩
  · -- no profile is lost, since the ids are distinct
    have hkeys : routing.map Prod.fst = draft.document.profiles.map PolicyProfile.id :=
      map_of_mapM_eq_ok hrouting fun _ _ he => (profileEntry_eq_ok.mp he).1.symm
    rw [lookup_collect_eq_some (hkeys ▸ hformed.distinct), mem_of_mapM_eq_ok hrouting]
    exact exists_congr fun profile => and_congr_right' profileEntry_eq_ok
  · rw [lookup_collect_eq_some, List.mem_map]
    · constructor
      · rintro ⟨⟨_, _, _⟩, hmem, h⟩
        cases h
        exact hmem
      · exact fun hmem => ⟨_, hmem, rfl⟩
    · have hkeys := hformed.single.map toLex.injective
      rw [List.map_map] at hkeys ⊢
      exact hkeys

theorem wellFormed_of_validate {validated : ValidatedPolicyVersion × PolicyTables}
    (h : draft.validate lib = .ok validated) : draft.document.WellFormed ∧
      ∀ profile ∈ draft.document.profiles, ∃ routing, profile.validate lib = .ok routing := by
  obtain ⟨_, hshape, h⟩ := bind_eq_ok.mp h
  obtain ⟨entries, hentries, -⟩ := bind_eq_ok.mp h
  refine ⟨((yields_validateShape draft.document _).mp hshape).2, fun profile hprofile => ?_⟩
  obtain ⟨e, he⟩ := exists_mapM_eq_ok.mp ⟨entries, hentries⟩ profile hprofile
  exact ⟨e.2, (profileEntry_eq_ok.mp he).2⟩

variable {context : BindingContext}

/-- The kind of the first binding, and the profile. -/
def PolicyTables.governing (tables : PolicyTables) (context : BindingContext) :
    Option BindingKind × String :=
  match tables.firstBinding context with
  | some (kind, profileId) => (some kind, profileId)
  | none => (none, tables.defaultProfileId)

theorem resolve_eq_some {resolved : ResolvedPolicyProfile} :
    tables.resolve context = some resolved ↔
      tables.governing context = (resolved.bindingKind, resolved.profileId) ∧
        lookup resolved.profileId tables.routing = some resolved.routing := by
  have hresolve : tables.resolve context = (lookup (tables.governing context).2
      tables.routing).map fun routing =>
        ⟨(tables.governing context).2, (tables.governing context).1, routing⟩ := by
    rw [PolicyTables.resolve, PolicyTables.governing]
    cases tables.firstBinding context <;> rfl
  rw [hresolve, Option.map_eq_some_iff]
  constructor
  · rintro ⟨routing, hrouting, rfl⟩
    exact ⟨rfl, hrouting⟩
  · rintro ⟨hgoverning, hrouting⟩
    rw [hgoverning]
    exact ⟨resolved.routing, hrouting, rfl⟩

theorem Tabulates.boundProfile_eq_some (h : Tabulates lib document tables) {kind : BindingKind}
    {profileId : String} : tables.boundProfile context kind = some profileId ↔
      document.Binds context kind profileId := by
  rw [PolicyTables.boundProfile, Option.bind_eq_some_iff]
  exact exists_congr fun subject => and_congr_right' (h.bindings kind subject profileId)

theorem Tabulates.boundProfile_eq_none (h : Tabulates lib document tables) {kind : BindingKind} :
    tables.boundProfile context kind = none ↔ document.Unbound context kind := by
  rw [Option.eq_none_iff_forall_not_mem]
  exact forall_congr' fun profileId => not_congr h.boundProfile_eq_some

/-- The first binding of the tables is the one that the document means. -/
theorem Tabulates.governs_iff (h : Tabulates lib document tables) {kind : Option BindingKind}
    {profileId : String} : document.Governs context kind profileId ↔
      tables.governing context = (kind, profileId) := by
  rw [PolicyTables.governing, PolicyTables.firstBinding, PolicyTables.kinds, List.findSome?_cons,
    List.findSome?_cons, List.findSome?_cons, List.findSome?_nil]
  constructor
  · intro hgoverns
    cases hgoverns with
    | key hbinds => rw [h.boundProfile_eq_some.mpr hbinds]; rfl
    | workspace hkey hbinds =>
      rw [h.boundProfile_eq_none.mpr hkey, h.boundProfile_eq_some.mpr hbinds]
      rfl
    | client hkey hworkspace hbinds =>
      rw [h.boundProfile_eq_none.mpr hkey, h.boundProfile_eq_none.mpr hworkspace,
        h.boundProfile_eq_some.mpr hbinds]
      rfl
    | default hkey hworkspace hclient hdefault =>
      rw [h.boundProfile_eq_none.mpr hkey, h.boundProfile_eq_none.mpr hworkspace,
        h.boundProfile_eq_none.mpr hclient, hdefault.unique h.default]
      rfl
  · intro hgoverning
    -- the kinds are asked in the order in which they govern
    cases hkey : tables.boundProfile context .key with
    | some keyProfile =>
      rw [hkey] at hgoverning
      cases hgoverning
      exact .key (h.boundProfile_eq_some.mp hkey)
    | none =>
      have hunkeyed := h.boundProfile_eq_none.mp hkey
      cases hworkspace : tables.boundProfile context .workspace with
      | some workspaceProfile =>
        rw [hkey, hworkspace] at hgoverning
        cases hgoverning
        exact .workspace hunkeyed (h.boundProfile_eq_some.mp hworkspace)
      | none =>
        have hunowned := h.boundProfile_eq_none.mp hworkspace
        cases hclient : tables.boundProfile context .client with
        | some clientProfile =>
          rw [hkey, hworkspace, hclient] at hgoverning
          cases hgoverning
          exact .client hunkeyed hunowned (h.boundProfile_eq_some.mp hclient)
        | none =>
          rw [hkey, hworkspace, hclient] at hgoverning
          cases hgoverning
          exact .default hunkeyed hunowned (h.boundProfile_eq_none.mp hclient) h.default

/-- The profile that governs a request is one of a well-formed document. -/
theorem provides_of_governs (hformed : document.WellFormed)
    (hcanonical : ∀ profile ∈ document.profiles, ∃ routing, profile.validate lib = .ok routing)
    {kind : Option BindingKind} {profileId : String}
    (h : document.Governs context kind profileId) : ∃ routing,
      document.Provides lib profileId routing := by
  have hknown : profileId ∈ document.profiles.map PolicyProfile.id := by
    have hbound : ∀ {kind}, document.Binds context kind profileId →
        profileId ∈ document.profiles.map PolicyProfile.id := by
      rintro kind ⟨subject, -, hmem⟩
      exact (hformed.bound _ hmem).2.2
    cases h with
    | key h => exact hbound h
    | workspace _ h => exact hbound h
    | client _ _ h => exact hbound h
    | default _ _ _ h =>
      obtain ⟨profileId', hdefault, -, hknown⟩ := hformed.default
      rw [h.unique hdefault]
      exact hknown
  obtain ⟨profile, hmem, rfl⟩ := List.mem_map.mp hknown
  obtain ⟨routing, hrouting⟩ := hcanonical profile hmem
  exact ⟨routing, profile, hmem, rfl, hrouting⟩

/-- The table has the profile that governs a request. -/
theorem isSome_resolve (h : draft.validate lib = .ok (version, tables))
    (context : BindingContext) : (tables.resolve context).isSome := by
  have htables := tabulates_of_validate h
  obtain ⟨hformed, hcanonical⟩ := wellFormed_of_validate h
  obtain ⟨routing, hrouting⟩ :=
    provides_of_governs hformed hcanonical (htables.governs_iff.mpr rfl)
  rw [Option.isSome_iff_exists]
  exact ⟨⟨_, _, routing⟩, resolve_eq_some.mpr ⟨rfl, (htables.routing ..).mpr hrouting⟩⟩

/-- What a request is resolved to is what the document means. -/
theorem resolve_iff_governs (h : draft.validate lib = .ok (version, tables))
    {resolved : ResolvedPolicyProfile} : tables.resolve context = some resolved ↔
      draft.document.Governs context resolved.bindingKind resolved.profileId ∧
        draft.document.Provides lib resolved.profileId resolved.routing := by
  have htables := tabulates_of_validate h
  rw [resolve_eq_some, htables.governs_iff, htables.routing]

/-- **Every request** is resolved under a validated policy, and always to the profile that the
bindings of the document mean, with the configuration of its text. -/
theorem resolution_exact (h : draft.validate lib = .ok (version, tables))
    (context : BindingContext) :
    (tables.resolve context).isSome ∧
    ∀ resolved, tables.resolve context = some resolved ↔
      draft.document.Governs context resolved.bindingKind resolved.profileId ∧
        draft.document.Provides lib resolved.profileId resolved.routing :=
  ⟨isSome_resolve h context, fun _ => resolve_iff_governs h⟩

/-! ## A night shift -/

/-- A configuration with one tier. -/
def shiftRouting : RoutingConfig := ⟨.default, [⟨0, "fast", none⟩], none, .default⟩

/-- A parser that knows the document of this configuration, and a writer. -/
def shiftLibrary : Library where
  parse _ := .ok (.table [("routing", .table (routingFields shiftRouting).entries)])
  quote text := text

def shiftProfile (id : String) : PolicyProfile := ⟨id, dumpRoutingToml shiftLibrary shiftRouting⟩

/-- Two profiles, and a key that is bound to the second one. -/
def shiftDraft : DraftPolicyVersion where
  versionId := "v1"
  document := ⟨policySchemaVersion, [shiftProfile "day", shiftProfile "night"], some "day",
    [⟨.key, "alice", "night"⟩, ⟨.workspace, "team", "day"⟩]⟩
  draftedBy := ⟨"local", "operator"⟩

def shiftTables : PolicyTables where
  routing := [("day", shiftRouting), ("night", shiftRouting)]
  bindings := [(toLex (.workspace, "team"), "day"), (toLex (.key, "alice"), "night")]
  defaultProfileId := "day"

theorem validate_shiftDraft : shiftDraft.validate shiftLibrary =
    .ok (⟨shiftDraft.versionId, shiftDraft.document, shiftDraft.draftedBy⟩, shiftTables) := by
  decide +kernel

/-- The profile of the key goes before that of its workspace. -/
theorem governs_alice :
    shiftDraft.document.Governs ⟨none, some "team", some "alice"⟩ (some .key) "night" :=
  (((resolution_exact validate_shiftDraft ⟨none, some "team", some "alice"⟩).2
    ⟨"night", some .key, shiftRouting⟩).mp (by decide +kernel)).1

end WayfinderRouter.ControlPlane
