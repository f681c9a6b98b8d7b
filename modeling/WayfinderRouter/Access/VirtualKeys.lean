import WayfinderRouter.Access.Scopes
import WayfinderRouter.Text

/-!
# Virtual keys

A caller presents a virtual key as a bearer token. The configuration holds digests of the keys
only. The hash function is a parameter.

## Main definitions

- `extractBearer`, `matchKey` — the presented token, and the key that it belongs to
- `KeyPolicy` — the keys of an access policy, with `authenticate` and `allowedModels`

## Main results

- `KeyPolicy.presents_of_keyId` — an authenticated key is configured with the digest of the token
-/

namespace WayfinderRouter.Access

/-! ## Tokens and digests -/

/-- `extract_bearer`: a token with or without the scheme. -/
def extractBearer (authorization : Option String) : Option String :=
  match authorization.map trim with
  | none => none
  | some value =>
    if value = "" then none
    else
      let lowercase := value.toList.map Char.toLower
      if lowercase = "bearer".toList ∨ "bearer ".toList.isPrefixOf lowercase then
        (some (trim (String.ofList (value.toList.drop 6)))).filter (· ≠ "")
      else some value

/-- `hex_nibble`. -/
def hexNibble (value : UInt8) : Option UInt8 :=
  if 0x30 ≤ value ∧ value ≤ 0x39 then some (value - 0x30)
  else if 0x61 ≤ value ∧ value ≤ 0x66 then some (value - 0x61 + 10)
  else if 0x41 ≤ value ∧ value ≤ 0x46 then some (value - 0x41 + 10)
  else none

/-- The bytes of pairs of nibbles. -/
def hexPairs : List UInt8 → Option (List UInt8)
  | first :: second :: rest => do
    let high ← hexNibble first
    let low ← hexNibble second
    let rest ← hexPairs rest
    return (16 * high + low) :: rest
  | _ => some []

/-- `parse_digest`. -/
def parseDigest (value : String) : Option (List UInt8) :=
  let bytes := utf8 (trim value).toList
  if bytes.length = 64 then hexPairs bytes else none

/-! ## Policies -/

/-- What authentication reads of a virtual key. -/
structure VirtualKeyPolicy where
  id : String
  digest : String
  allowedModels : List String

/-- What authentication reads of an access policy. -/
structure KeyPolicy where
  keys : List VirtualKeyPolicy
  allowUnauthenticatedDefault : Bool

/-- `match_key`: the last key with the digest of the token. -/
def matchKey (sha256 : List UInt8 → List UInt8) (presented : Option String)
    (keys : List VirtualKeyPolicy) : Option String :=
  match presented.filter (· ≠ "") with
  | none => none
  | some presented =>
    let matched := keys.filter fun key =>
      parseDigest key.digest = some (sha256 (utf8 presented.toList))
    matched.getLast?.map VirtualKeyPolicy.id

namespace KeyPolicy

/-- `AccessPolicy::requires_authentication`. -/
def requiresAuthentication (policy : KeyPolicy) : Bool :=
  !policy.keys.isEmpty && !policy.allowUnauthenticatedDefault

/-- `AccessPolicy::authenticate`. -/
def authenticate (sha256 : List UInt8 → List UInt8) (policy : KeyPolicy)
    (authorization : Option String) : Option AccessGrant :=
  if policy.keys.isEmpty then some ⟨none⟩
  else if authorization.isNone && policy.allowUnauthenticatedDefault then some ⟨none⟩
  else
    (matchKey sha256 (extractBearer authorization) policy.keys).bind fun keyId =>
      (policy.keys.findIdx? fun key => key.id = keyId).map fun index => ⟨some index⟩

/-- `AccessPolicy::key`. -/
def key (policy : KeyPolicy) (grant : AccessGrant) : Option VirtualKeyPolicy :=
  grant.keyIndex.bind fun index => policy.keys[index]?

/-- `AccessPolicy::key_id`. -/
def keyId (policy : KeyPolicy) (grant : AccessGrant) : Option String :=
  (policy.key grant).map VirtualKeyPolicy.id

/-- `AccessPolicy::allowed_models`. -/
def allowedModels (policy : KeyPolicy) (grant : AccessGrant) : List String :=
  ((policy.key grant).map VirtualKeyPolicy.allowedModels).getD []

/-- The caller presented the token of a configured key with the id. -/
def Presents (sha256 : List UInt8 → List UInt8) (policy : KeyPolicy)
    (authorization : Option String) (id : String) : Prop :=
  ∃ token, extractBearer authorization = some token ∧ ∃ key ∈ policy.keys, key.id = id ∧
    parseDigest key.digest = some (sha256 (utf8 token.toList))

/-- An authenticated key is one whose token was presented. -/
theorem presents_of_keyId {sha256 : List UInt8 → List UInt8} {policy : KeyPolicy}
    {authorization : Option String} {grant : AccessGrant} {id : String}
    (h : policy.authenticate sha256 authorization = some grant)
    (hid : policy.keyId grant = some id) : policy.Presents sha256 authorization id := by
  unfold authenticate at h
  -- a grant without a key has no id
  have hkeyless : grant ≠ ⟨none⟩ := by
    rintro rfl
    cases hid
  split_ifs at h with hempty hdefault
  · exact absurd (Option.some_injective _ h).symm hkeyless
  · exact absurd (Option.some_injective _ h).symm hkeyless
  obtain ⟨keyId, hmatch, hindex⟩ := Option.bind_eq_some_iff.mp h
  obtain ⟨index, hfind, rfl⟩ := Option.map_eq_some_iff.mp hindex
  -- the key at the index has the id that was matched
  have hsame : keyId = id := by
    obtain ⟨hlt, hkey, -⟩ := List.findIdx?_eq_some_iff_getElem.mp hfind
    have hkey' : policy.keys[index].id = keyId := by simpa using hkey
    rw [KeyPolicy.keyId, KeyPolicy.key, Option.bind_some, List.getElem?_eq_getElem hlt] at hid
    rw [← hkey']
    exact Option.some_injective _ hid
  subst hsame
  unfold matchKey at hmatch
  split at hmatch
  · cases hmatch
  · rename_i token htoken
    obtain ⟨key, hkey, rfl⟩ := Option.map_eq_some_iff.mp hmatch
    have hmem := List.mem_of_getLast? hkey
    rw [List.mem_filter, decide_eq_true_iff] at hmem
    exact ⟨token, (Option.filter_eq_some_iff.mp htoken).1, key, hmem.1, rfl, hmem.2⟩

end KeyPolicy

end WayfinderRouter.Access
