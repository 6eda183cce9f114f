import EnclaveFleet.Json.Reader
import EnclaveFleet.Run

/-!
# Checks before a deployment

* `Preflight.checkSecret`: the secret exists and holds a value for every configured key
* `Preflight.checkInstanceType`: the region offers the instance type and it can hold enclaves
* `Preflight.run`: both checks; one that fails does not keep the other from being made

Nothing is changed in the account. The values of the secret are looked at only for being there;
they reach neither a result nor the log.
-/
namespace EnclaveFleet
set_option autoImplicit false

inductive Check where
  | secret
  | instanceType
deriving DecidableEq

def Check.name : Check → String
  | .secret => "secret"
  | .instanceType => "instance_type"

structure CheckResult where
  name : String
  passed : Bool
  detail : String
deriving DecidableEq

namespace Preflight

variable {α : Type}

def refuse (r : Refusal) : Run α := .fail (.preflight r)

/-! ## Asking -/

def connect (service : Service) (region : Option String) (access : Access α) : Run α :=
  match access with
  | .given client => .pure client
  | .made outcome => .call (.client service region) (outcome.mapError .cloud)

/-- A call whose rejection is a refusal of the check. -/
def ask (c : Call) (reply : Reply) (refusal : (code : String) → Refusal) : Run Json :=
  .call c (match reply with
    | .ok body => .ok body
    | .error (.rejected r) => .error (.preflight (refusal r.code.display))
    | .error fault => .error (.cloud fault))

/-- A field of a reply, null where the reply does not have it. -/
def field (body : Json) (name : String) (default : Json) : Run Json :=
  match body with
  | .object _ => .pure ((body.get? name).getD default)
  | other => .fail (.reply (.noFields other.typeName))

def firstItem (j : Json) : Run Json :=
  match j with
  | .array (item :: _) => .pure item
  | .text s => .pure (.text (String.ofPoints (s.points.take 1)))
  | .object _ => .fail (.reply .noFirstKey)
  | other => .fail (.reply (.noItems other.typeName))

/-! ## The secret -/

def secretRefusal (s : Settings) (code : String) : Refusal :=
  if code = "ResourceNotFoundException" then .secretNotFound s.secretName s.regionText
  else .secretUnreadable s.secretName code

/-- The fields of the secret's text, which must be an object. It is read as far as its arrays and
objects lie in each other no deeper than so many levels, which the caller leaves. -/
def secretFields (levels : Nat) (s : Settings) (text : Json) : Run (List (String × Json)) :=
  match text with
  | .null => refuse (.secretWithoutText s.secretName)
  | .text text =>
    match Json.parseWithin levels text.toList with
    | .error .malformed => refuse (.secretNotJson s.secretName)
    | .error (.numeralTooLong digits) => .fail (.numeralTooLong digits)
    | .error (.tooDeep container) => .fail (.tooDeep container)
    | .ok (.object fields) => .pure fields
    | .ok _ => refuse (.secretNotObject s.secretName)
  | other => .fail (.reply (.secretNotText other.typeName))

def hasKey (fields : List (String × Json)) (key : String) : Bool :=
  (Json.getLast? key fields).any Json.isFilled

def checkSecret (levels : Nat) (s : Settings) (access : Access SecretStore) : Run CheckResult := do
  let store ← connect .secrets s.region access
  let body ← ask (.getSecretValue s.secretName) store.secretValue (secretRefusal s)
  let text ← field body "SecretString" .null
  let fields ← secretFields levels s text
  let missing := s.secretKeys.filter (!hasKey fields ·)
  if missing.isEmpty then
    let keys := ", ".intercalate s.secretKeys
    Run.log .preflight .info s!"✅ Secret {s.secretName} has keys {keys}"
    return ⟨Check.secret.name, true, s!"{s.secretName} has {s.secretKeys.length} required key(s)"⟩
  else refuse (.missingKeys s.secretName missing)

/-! ## The instance type -/

def checkInstanceType (s : Settings) (access : Access InstanceCatalogue) : Run CheckResult := do
  let catalogue ← connect .instances s.region access
  let name := s.instanceType
  let body ← ask (.describeInstanceTypes name) catalogue.instanceTypes (.typeRejected name)
  let types ← field body "InstanceTypes" (.array [])
  if !types.isFilled then refuse (.typeUnavailable name s.regionText)
  else
    let first ← firstItem types
    let support ← field first "NitroEnclavesSupport" (.text "unsupported")
    if !support.isText "supported" then refuse (.noEnclaves name)
    else
      let body ← ask (.describeOfferings name) catalogue.offerings (.offeringsUnlisted name)
      let offerings ← field body "InstanceTypeOfferings" .null
      if !offerings.isFilled then refuse (.notOffered name s.regionText)
      else
        Run.log .preflight .info s!"✅ {name} supports Nitro Enclaves in {s.regionText}"
        return ⟨Check.instanceType.name, true, s!"{name} supports Nitro Enclaves"⟩

/-! ## Both -/

/-- A check that fails gives a result too, unless the failure is none that was foreseen. -/
def settle (check : Check) (r : Run CheckResult) : Run CheckResult :=
  r.orElse fun e =>
    match e with
    | .preflight refusal => do
      Run.log .preflight .warning ("❌ " ++ refusal.message)
      return ⟨check.name, false, refusal.message⟩
    | e =>
      if e.isCloud then do
        Run.log .preflight .error ("AWS error during check_" ++ check.name ++ ": " ++ e.message)
        return ⟨check.name, false, "AWS error: " ++ e.message⟩
      else .fail e

def run (levels : Nat) (s : Settings) (cloud : Cloud) : Run (List CheckResult) := do
  let secret ← settle .secret (checkSecret levels s cloud.secrets)
  let instanceType ← settle .instanceType (checkInstanceType s cloud.instances)
  return [secret, instanceType]

end Preflight
end EnclaveFleet
