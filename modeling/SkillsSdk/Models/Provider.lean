/-
SkillsSdk/Models/Provider.lean

The identity of an external provider and its adapter.
-/
import SkillsSdk.Digests
import SkillsSdk.Models.PublicText

namespace SkillsSdk

open Rx Rx.Regex

/-! ### Identity texts -/

/-- `[A-Za-z0-9][A-Za-z0-9._:+-]*`. -/
def identityPattern : Regex Char :=
  seq (cls isAlnum) (many (cls fun c => isAlnum c || oneOf "._:+-" c))

/-- `[A-Za-z0-9][A-Za-z0-9._:+-]*(?:/[A-Za-z0-9][A-Za-z0-9._:+-]*)*`. -/
def modelIdentityPattern : Regex Char :=
  seq identityPattern (many (seq (word "/") identityPattern))

/-- `ProviderSlug`. -/
def isProviderSlug (t : Text) : Bool := isIdentifier t && decide (t.length ≤ 64)

/-- `IdentityText`. -/
def isIdentityText (t : Text) : Bool := fullmatch identityPattern t && decide (t.length ≤ 128)

/-- `ModelIdentityText`. -/
def isModelIdentityText (t : Text) : Bool := fullmatch modelIdentityPattern t && decide (t.length ≤ 128)

/-- `_V2_CREDENTIAL_COMPONENT_PATTERN`. -/
def providerCredentialPattern : Regex Char :=
  seq (guard (oneOf "._:+/-")) (union (credentialPrefixes.map unicodeWord))

/-- `_URI_SCHEME_PATTERN`. -/
def uriSchemePattern : Regex Char :=
  concat [cls isAlpha, many (cls fun c => isAlnum c || oneOf "+.-" c), word ":"]

/-- `re.match(…) is not None`. -/
def matchesPrefix (r : Regex Char) (t : Text) : Bool := accepts r ⟨true, t⟩ fun _ => true

/-! ### Provider identity -/

inductive ProviderKind where
  | llm
  | agent
  | external
  deriving DecidableEq

def ProviderKind.value : ProviderKind → String
  | llm => "llm"
  | agent => "agent"
  | external => "external"

structure ProviderIdentityV2Data where
  providerId : Text
  providerKind : ProviderKind
  modelId : Text
  versionOrDigest : Text
  adapterId : Text
  adapterVersionOrDigest : Text
  deriving DecidableEq

namespace ProviderIdentityV2Data

/-- `identity_text_is_redaction_safe`, and the pattern of the field. -/
def identityTextErrors (name : String) (ok : Text → Bool) (value : Text) : List (Text × Text) :=
  if value ≠ strip value then
    check false name "provider identity text must not contain surrounding whitespace"
  else if search providerCredentialPattern value then
    check false name "provider identity text must not contain credential-shaped values"
  else check (ok value) name "String should match pattern"

/-- The same of `model_id`, with `model_id_is_not_a_uri` between the two checks. -/
def modelIdErrors (value : Text) : List (Text × Text) :=
  identityTextErrors "model_id" (fun _ => true) value ++
    if identityTextErrors "model_id" (fun _ => true) value ≠ [] then []
    else if matchesPrefix uriSchemePattern value then
      check false "model_id" "provider model_id must not be a URI"
    else check (isModelIdentityText value) "model_id" "String should match pattern"

def validate (p : ProviderIdentityV2Data) : Except ValidationError Unit :=
  validateWith "ProviderIdentityV2"
    (identityTextErrors "provider_id" isProviderSlug p.providerId ++
      modelIdErrors p.modelId ++
      identityTextErrors "version_or_digest" isIdentityText p.versionOrDigest ++
      identityTextErrors "adapter_id" isProviderSlug p.adapterId ++
      identityTextErrors "adapter_version_or_digest" isIdentityText p.adapterVersionOrDigest) []

def toJson (p : ProviderIdentityV2Data) : Json :=
  .obj [field "schema_version" (jsonLit "provider-identity/v2"),
    field "provider_id" (jsonText p.providerId),
    field "provider_kind" (jsonLit p.providerKind.value),
    field "model_id" (jsonText p.modelId),
    field "version_or_digest" (jsonText p.versionOrDigest),
    field "adapter_id" (jsonText p.adapterId),
    field "adapter_version_or_digest" (jsonText p.adapterVersionOrDigest)]

end ProviderIdentityV2Data

abbrev ProviderIdentityV2 := Accepted ProviderIdentityV2Data.validate

end SkillsSdk
