import WayfinderRouter.Double
import WayfinderRouter.Fallible
import WayfinderRouter.Json

/-!
# Operator tokens

An operator presents a signed token with three segments: a header, claims and a signature. The
keys that may have signed it come from a document of the identity provider. What decodes base64
and JSON and what verifies a signature are parameters.

## Main definitions

- `RsaJwk.tryFromDocument`, `readJwks` — the keys of a document
- `validateClaims` — the actor of acceptable claims
- `readToken` — a token up to its signature

## Main results

- `tokenAccepted_of_readToken` — what a token is whose signature is verified
-/

namespace WayfinderRouter.Operator

inductive OperatorAuthFailure where
  | unauthorized
  | forbidden
  | unavailable
deriving DecidableEq

inductive OperatorMode where
  | oidc
  | both
deriving DecidableEq

structure JwtHeader where
  alg : String
  kid : String

structure JwkDocument where
  kid : String
  kty : String
  alg : Option String
  use : Option String
  n : String
  e : String

/-- The decoders of tokens and documents, and the verification of RSA signatures. -/
structure Decoders where
  base64 : String → Option (List UInt8)
  header : List UInt8 → Option JwtHeader
  claims : Json.Parser
  documents : List UInt8 → Option (List JwkDocument)
  /-- `Value::as_f64`. -/
  asF64 : Json → Option Double
  verify : (modulus exponent message signature : List UInt8) → Bool

/-- What the authenticator is configured with. -/
structure AuthConfig where
  mode : OperatorMode
  issuer : String
  audience : String
  adminClaim : String

variable (d : Decoders) (config : AuthConfig)

/-! ## Keys -/

structure RsaJwk where
  kid : String
  modulus : List UInt8
  exponent : List UInt8

def maxJwkComponentBytes : ℕ := 1024

/-- `RsaJwk::try_from_document`. -/
def RsaJwk.tryFromDocument (document : JwkDocument) : Option RsaJwk :=
  if document.kty ≠ "RSA" ∨ document.kid = "" ∨ 128 < document.kid.utf8ByteSize ∨
      document.alg.any (· ≠ "RS256") ∨ document.use.any (· ≠ "sig") then none
  else do
    let modulus ← d.base64 document.n
    let exponent ← d.base64 document.e
    if modulus = [] ∨ exponent = [] ∨ maxJwkComponentBytes < modulus.length ∨
        maxJwkComponentBytes < exponent.length then none
    else some { kid := document.kid, modulus, exponent }

/-- A response of the identity provider. A chunk that could not be read is missing. -/
structure JwksResponse where
  status : ℕ
  contentLength : Option ℕ
  chunks : List (Option (List UInt8))

def maxJwksBytes : ℕ := 256 * 1024

/-- `append_jwks_chunk`, for all chunks. -/
def readChunks (encoded : List UInt8) : List (Option (List UInt8)) → Option (List UInt8)
  | [] => some encoded
  | none :: _ => none
  | some chunk :: chunks =>
    if maxJwksBytes < encoded.length + chunk.length then none
    else readChunks (encoded ++ chunk) chunks

/-- The keys that `refresh_keys` finds in a response, if there was one. -/
def readJwks (response : Option JwksResponse) : Option (List RsaJwk) :=
  match response with
  | none => none
  | some response =>
    if response.status < 200 ∨ 300 ≤ response.status then none
    else if response.contentLength.any fun length => maxJwksBytes < length then none
    else match (readChunks [] response.chunks).bind d.documents with
    | none => none
    | some documents =>
      let keys := documents.filterMap (RsaJwk.tryFromDocument d)
      if 64 < documents.length ∨ keys.isEmpty then none else some keys

/-- An RSA signing key, as it may stand in a document. -/
structure RsaJwk.Acceptable (key : RsaJwk) (document : JwkDocument) : Prop where
  kid : document.kid = key.kid
  kty : document.kty = "RSA"
  alg : ∀ alg ∈ document.alg, alg = "RS256"
  use : ∀ use ∈ document.use, use = "sig"
  modulus : d.base64 document.n = some key.modulus
  exponent : d.base64 document.e = some key.exponent

theorem RsaJwk.acceptable_of_tryFromDocument {document : JwkDocument} {key : RsaJwk}
    (h : tryFromDocument d document = some key) : key.Acceptable d document := by
  unfold tryFromDocument at h
  split_ifs at h with hrefused
  obtain ⟨modulus, hmodulus, h⟩ := Option.bind_eq_some_iff.mp h
  obtain ⟨exponent, hexponent, h⟩ := Option.bind_eq_some_iff.mp h
  split_ifs at h
  cases h
  simp only [not_or, not_not, Bool.not_eq_true, Option.any_eq_false, decide_eq_false_iff_not]
    at hrefused
  obtain ⟨hkty, -, -, halg, huse⟩ := hrefused
  exact ⟨rfl, hkty, halg, huse, hmodulus, hexponent⟩

theorem acceptable_of_readJwks {response : Option JwksResponse} {keys : List RsaJwk}
    (h : readJwks d response = some keys) :
    ∀ key ∈ keys, ∃ document, key.Acceptable d document := by
  intro key hkey
  unfold readJwks at h
  split at h
  · cases h
  split_ifs at h
  split at h
  · cases h
  rename_i documents _
  dsimp only at h
  split_ifs at h
  cases h
  obtain ⟨document, -, hdocument⟩ := List.mem_filterMap.mp hkey
  exact ⟨document, RsaJwk.acceptable_of_tryFromDocument d hdocument⟩

/-! ## Claims -/

/-- `numeric_value`. -/
def numericValue (value : Json) : Option Double :=
  d.asF64 value <|> value.asU64.map fun n => .finite n

/-- `numeric_claim`: a finite number. -/
def numericClaim (claims : Json) (name : String) : Option ℚ :=
  match (claims.get name).bind (numericValue d) with
  | some (.finite value) => some value
  | _ => none

mutual

/-- `claim_allows_operator`, of a value. -/
def allowsOperator : Json → Bool
  | .bool value => value
  | .string value =>
    [("true".toList), "admin".toList, "operator".toList].contains (value.toList.map Char.toLower)
  | .array values => anyAllowsOperator values
  | _ => false

def anyAllowsOperator : List Json → Bool
  | [] => false
  | value :: values => allowsOperator value || anyAllowsOperator values

end

/-- `claim_allows_operator`. -/
def claimAllowsOperator (value : Option Json) : Bool := value.any allowsOperator

def clockSkewSeconds : ℚ := 60

/-- The audience is named, alone or in a list. -/
def audienceMatches (claims : Json) : Bool :=
  match claims.get "aud" with
  | some (.string value) => value = config.audience
  | some (.array values) => (values.filterMap Json.asStr).any (· = config.audience)
  | _ => false

/-- The token is not used before its time. What is not finite is never reached. -/
def notBeforePassed (now : ℚ) (claims : Json) : Bool :=
  match claims.get "nbf" with
  | none => true
  | some value => match numericValue d value with
    | some (.finite notBefore) => notBefore ≤ now + clockSkewSeconds
    | _ => false

/-- `OperatorAuthenticator::validate_claims`, at a time. -/
def validateClaims (now : ℚ) (claims : Json) : Except OperatorAuthFailure String :=
  if (claims.get "iss").bind Json.asStr ≠ some config.issuer then .error .unauthorized
  else if !audienceMatches config claims then .error .unauthorized
  else match numericClaim d claims "exp" with
    | none => .error .unauthorized
    | some expires =>
      if expires ≤ now then .error .unauthorized
      else if !notBeforePassed d now claims then .error .unauthorized
      else match ((claims.get "sub").bind Json.asStr).filter (· ≠ "") with
        | none => .error .unauthorized
        | some subject =>
          if !claimAllowsOperator (claims.get config.adminClaim) then .error .forbidden
          else .ok subject

/-- Claims that name an operator at a time. -/
structure ClaimsAccepted (now : ℚ) (claims : Json) (actor : String) : Prop where
  issuer : (claims.get "iss").bind Json.asStr = some config.issuer
  audience : audienceMatches config claims
  expires : ∃ expires, numericClaim d claims "exp" = some expires ∧ now < expires
  notBefore : notBeforePassed d now claims
  subject : (claims.get "sub").bind Json.asStr = some actor
  actor_ne_empty : actor ≠ ""
  admin : claimAllowsOperator (claims.get config.adminClaim)

theorem claimsAccepted_of_validateClaims {now : ℚ} {claims : Json} {actor : String}
    (h : validateClaims d config now claims = .ok actor) :
    ClaimsAccepted d config now claims actor := by
  unfold validateClaims at h
  split at h
  · cases h
  rename_i hissuer
  split at h
  · cases h
  rename_i haudience
  split at h
  · cases h
  rename_i expires hexpires
  split at h
  · cases h
  rename_i hlate
  split at h
  · cases h
  rename_i hbefore
  split at h
  · cases h
  rename_i subject hsubject
  split at h
  · cases h
  rename_i hadmin
  cases h
  obtain ⟨hsub, hne⟩ := Option.filter_eq_some_iff.mp hsubject
  exact ⟨not_not.mp hissuer, by simpa using haudience, ⟨expires, hexpires, not_le.mp hlate⟩,
    by simpa using hbefore, hsub, by simpa using hne, by simpa using hadmin⟩

/-! ## Tokens -/

/-- `bearer_token`. -/
def bearerToken (authorization : Option String) : Option String :=
  match authorization.map trim with
  | none => none
  | some value =>
    let scheme := value.toList.takeWhile (· ≠ ' ')
    match value.toList.dropWhile (· ≠ ' ') with
    | [] => none
    | _ :: rest =>
      if scheme.map Char.toLower = "bearer".toList then
        (some (trim (String.ofList rest))).filter (· ≠ "")
      else none

/-- The segments of a token. -/
def segments (token : String) : List String := (token.toList.splitOn '.').map String.ofList

def maxTokenBytes : ℕ := 16 * 1024

/-- A token whose signature is to be verified. -/
structure SignedToken where
  kid : String
  actor : String
  message : String
  signature : List UInt8

/-- `OperatorAuthenticator::verify`, up to the lookup of the keys. -/
def readToken (now : ℚ) (token : String) : Except OperatorAuthFailure SignedToken :=
  if maxTokenBytes < token.utf8ByteSize then .error .unauthorized
  else match segments token with
  | [headerSegment, claimsSegment, signatureSegment] =>
    if [headerSegment, claimsSegment, signatureSegment].any fun segment =>
        segment = "" ∨ maxTokenBytes < segment.utf8ByteSize then .error .unauthorized
    else match (d.base64 headerSegment).bind d.header with
    | none => .error .unauthorized
    | some header =>
      if header.alg ≠ "RS256" ∨ header.kid = "" ∨ 128 < header.kid.utf8ByteSize then
        .error .unauthorized
      else match (d.base64 claimsSegment).bind d.claims with
      | none => .error .unauthorized
      | some claims => match validateClaims d config now claims with
        | .error e => .error e
        | .ok actor => match d.base64 signatureSegment with
          | none => .error .unauthorized
          | some signature =>
            .ok ⟨header.kid, actor, headerSegment ++ "." ++ claimsSegment, signature⟩
  | _ => .error .unauthorized

/-- A well-formed token with accepted claims. -/
structure TokenAccepted (now : ℚ) (token : String) (signed : SignedToken)
    (headerSegment claimsSegment signatureSegment : String) : Prop where
  segments : segments token = [headerSegment, claimsSegment, signatureSegment]
  nonempty : headerSegment ≠ "" ∧ claimsSegment ≠ "" ∧ signatureSegment ≠ ""
  header : (d.base64 headerSegment).bind d.header = some ⟨"RS256", signed.kid⟩
  claims : ∃ claims, (d.base64 claimsSegment).bind d.claims = some claims ∧
    ClaimsAccepted d config now claims signed.actor
  message : signed.message = headerSegment ++ "." ++ claimsSegment
  signature : d.base64 signatureSegment = some signed.signature

theorem tokenAccepted_of_readToken {now : ℚ} {token : String} {signed : SignedToken}
    (h : readToken d config now token = .ok signed) :
    ∃ headerSegment claimsSegment signatureSegment, TokenAccepted d config now token signed
      headerSegment claimsSegment signatureSegment := by
  unfold readToken at h
  split at h
  · cases h
  split at h
  · rename_i headerSegment claimsSegment signatureSegment hsegments
    split at h
    · cases h
    rename_i hnonempty
    split at h
    · cases h
    rename_i header hheader
    split at h
    · cases h
    rename_i halg
    split at h
    · cases h
    rename_i claims hclaims
    split at h
    · cases h
    rename_i actor hactor
    split at h
    · cases h
    rename_i signature hsignature
    cases h
    simp only [List.any_cons, List.any_nil, Bool.or_false, Bool.or_eq_true, decide_eq_true_eq,
      not_or] at hnonempty
    obtain ⟨⟨hhead, -⟩, ⟨hclaim, -⟩, ⟨hsig, -⟩⟩ := hnonempty
    rw [not_or, not_not] at halg
    refine ⟨headerSegment, claimsSegment, signatureSegment, hsegments, ⟨hhead, hclaim, hsig⟩, ?_,
      ⟨claims, hclaims, claimsAccepted_of_validateClaims d config hactor⟩, rfl, hsignature⟩
    rw [hheader, ← halg.1]
  · cases h

end WayfinderRouter.Operator
