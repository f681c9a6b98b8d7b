import WayfinderRouter.Gateway.Destination
import WayfinderRouter.Json

/-!
# What a request says

The headers of a request decide whether it is offline, what its privacy posture is, and whether it
agrees to be compared with other providers. Its body decides what a destination has to support.

## Main definitions

- `HeaderMap`, `requestHeader` — the headers, and how one is read
- `offlineOverride`, `parsePrivacyPosture`, `providerConsent` — what they say
- `requestRequirements` — what the body requires
- `routingRequest` — the request that is routed
-/

namespace WayfinderRouter.Gateway

/-- The headers of a request by their lower-case names. -/
structure HeaderMap where
  entries : List (String × List UInt8)

/-- The first value of a name. -/
def HeaderMap.get (headers : HeaderMap) (name : String) : Option (List UInt8) :=
  Ordered.lookup name headers.entries

/-- `HeaderValue::to_str`: only visible ASCII characters, blanks and tabs are text. -/
def headerText (value : List UInt8) : Option String :=
  if value.all fun b => b = 9 || (32 ≤ b && b < 127) then
    some (String.ofList (value.map fun b => Char.ofNat b.toNat))
  else none

/-- `request_header`. -/
def requestHeader (headers : HeaderMap) (name : String) : Except String (Option String) :=
  match headers.get name with
  | none => .ok none
  | some value =>
    match headerText value with
    | none => .error (name ++ ": must contain valid visible ASCII")
    | some text => .ok (some text)

/-- `str::to_lowercase` of an ASCII text. -/
def lowercase (text : String) : String := String.ofList (text.toList.map Char.toLower)

/-- The words that switch an option on. -/
def affirmative (value : String) : Bool := lowercase (trim value) ∈ ["1", "true", "yes"]

/-- An option that a header switches on. -/
def switchedOn (headers : HeaderMap) (name : String) : Bool :=
  match requestHeader headers name with
  | .ok (some value) => affirmative value
  | _ => false

/-- `offline_override`. -/
def offlineOverride (headers : HeaderMap) : Bool := switchedOn headers "x-wayfinder-offline"

/-- `provider_consent`. -/
def providerConsent (headers : HeaderMap) : Bool :=
  ((headers.get "x-wayfinder-shadow-provider-consent").bind headerText).any affirmative

/-- How a character of an ASCII text is shown in quotes. -/
def debugChar (c : Char) : List Char :=
  if c = '"' then ['\\', '"']
  else if c = '\\' then ['\\', '\\']
  else if c = '\t' then ['\\', 't']
  else [c]

/-- An ASCII text in quotes. -/
def debugText (text : String) : String :=
  String.ofList ('"' :: (text.toList.flatMap debugChar ++ ['"']))

/-- `PRIVACY_POSTURE_HEADER`. -/
def privacyPostureHeader : String := "x-wayfinder-privacy-posture"

/-- `parse_privacy_posture`. -/
def parsePrivacyPosture (headers : HeaderMap) (offline : Bool) : Except String PrivacyPosture :=
  if offline then .ok .onDeviceOnly
  else
    match requestHeader headers privacyPostureHeader with
    | .error message => .error message
    | .ok none => .ok .hostedAllowed
    | .ok (some value) =>
      let value := trim value
      if value = "on-device-only" then .ok .onDeviceOnly
      else if value = "local-devices" then .ok .localDevices
      else if value = "hosted-allowed" then .ok .hostedAllowed
      else .error (privacyPostureHeader ++
        ": expected on-device-only, local-devices, or hosted-allowed; got " ++ debugText value)

/-- The caller agrees when the consent header is a text that switches an option on. -/
theorem providerConsent_iff {headers : HeaderMap} :
    providerConsent headers = true ↔ ∃ value text,
      headers.get "x-wayfinder-shadow-provider-consent" = some value ∧
        headerText value = some text ∧ lowercase (trim text) ∈ ["1", "true", "yes"] := by
  rw [providerConsent, Option.any_eq_true]
  constructor
  · rintro ⟨text, htext, h⟩
    obtain ⟨value, hvalue, htext⟩ := Option.bind_eq_some_iff.mp htext
    exact ⟨value, text, hvalue, htext, of_decide_eq_true h⟩
  · rintro ⟨value, text, hvalue, htext, h⟩
    exact ⟨text, Option.bind_eq_some_iff.mpr ⟨value, hvalue, htext⟩, decide_eq_true h⟩

/-! ## The body -/

/-- The kinds of content parts that are images. -/
def isImageKind (kind : String) : Bool := kind ∈ ["image_url", "input_image", "image"]

mutual

/-- `contains_image`. -/
def containsImage : Json → Bool
  | .array values => anyImage values
  | .object entries => (((Json.object entries).getStr "type").any isImageKind) || entryImage entries
  | _ => false

def anyImage : List Json → Bool
  | [] => false
  | value :: values => containsImage value || anyImage values

def entryImage : List (String × Json) → Bool
  | [] => false
  | (_, value) :: entries => containsImage value || entryImage entries

end

/-- `request_requires_tools`. -/
def requestRequiresTools (body : Json) : Bool :=
  ["tools", "functions"].any fun field =>
    ((body.get field).bind Json.asArray).any fun values => !values.isEmpty

/-- `requested_output_tokens`. -/
def requestedOutputTokens (body : Json) : ℕ :=
  (["max_tokens", "max_completion_tokens"].filterMap fun field =>
    (body.get field).bind Json.asU64).foldl max 0

/-- The request is streamed. -/
def requestsStream (body : Json) : Bool := (body.get "stream").bind Json.asBool = some true

/-- `request_requirements`. -/
def requestRequirements (body : Json) (promptEstimate : ℕ) : RoutingRequirements where
  contextTokens :=
    if 0 < requestedOutputTokens body then
      some (U64.saturatingAdd promptEstimate (requestedOutputTokens body))
    else none
  imageInput := containsImage ((body.get "messages").getD .null)
  tools := requestRequiresTools body
  streaming := requestsStream body
  surface := .text

/-- The routing request of a chat request. -/
def routingRequest (stateOffline : Bool) (headers : HeaderMap) (requestId prompt : String)
    (body : Json) (promptEstimate : ℕ) : Except String RoutingRequest :=
  (parsePrivacyPosture headers (stateOffline || offlineOverride headers)).map fun posture =>
    ⟨requestId, prompt, posture, requestRequirements body promptEstimate⟩

end WayfinderRouter.Gateway
