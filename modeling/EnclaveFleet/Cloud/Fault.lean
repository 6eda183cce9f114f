import EnclaveFleet.Json.Display
import EnclaveFleet.Text.Split

/-!
# Faults of the cloud services

* `ReplyDefect`: a reply of a shape that no service sends
* `Rejection`: a service answered a call with an error
* `ConnectionFault`: the service was not reached
* `CloudFault`: either of them, or an accident that belongs to neither family
* `CloudFault.ofResponse`: the fault that the response to a call tells of
-/
namespace EnclaveFleet
set_option autoImplicit false

/-- The names are those of `Json.typeName`. -/
inductive ReplyDefect where
  /-- A field is looked up in something that is no object. -/
  | noFields (typeName : String)
  /-- The first item is taken of something that has none. -/
  | noItems (typeName : String)
  /-- The first item is taken of an object. -/
  | noFirstKey
  /-- A response is neither an object nor anything else to look a name up in. -/
  | notSearchable (typeName : String)
  /-- A response is a text that a name occurs in. -/
  | nameInText
  /-- A response is an array that a name is an item of. -/
  | nameInArray
  /-- The text of a secret is no text. -/
  | secretNotText (typeName : String)
deriving DecidableEq

def ReplyDefect.message : ReplyDefect → String
  | .noFields typeName => s!"'{typeName}' object has no attribute 'get'"
  | .noItems typeName => s!"'{typeName}' object is not subscriptable"
  | .noFirstKey => "0"
  | .notSearchable typeName => s!"argument of type '{typeName}' is not iterable"
  | .nameInText => "string indices must be integers, not 'str'"
  | .nameInArray => "list indices must be integers or slices, not str"
  | .secretNotText typeName => s!"the JSON object must be str, bytes or bytearray, not {typeName}"

/-- What a service says about its answer beside the answer. -/
def metadataName : String := "ResponseMetadata"

structure Rejection where
  operation : String
  response : Json

namespace Rejection

def errorField (r : Rejection) (name : String) : Json :=
  ((r.response.get? "Error").bind (·.get? name)).getD (.text "Unknown")

def code (r : Rejection) : Json := r.errorField "Code"

/-- The number of retries, where the response says that there were no more to come. -/
def retryNote (r : Rejection) : String :=
  let note := do
    let metadata ← r.response.get? metadataName
    let reached ← metadata.get? "MaxAttemptsReached"
    let attempts ← metadata.get? "RetryAttempts"
    if reached.isFilled then some attempts else none
  match note with
  | some attempts => " (reached max retries: " ++ attempts.display ++ ")"
  | none => ""

def message (r : Rejection) : String :=
  "An error occurred (" ++ r.code.display ++ ") when calling the " ++ r.operation ++ " operation" ++
    r.retryNote ++ ": " ++ (r.errorField "Message").display

end Rejection

inductive ConnectionFault where
  | unspecified
  | noCredentials
  | noRegion
  | unreachable (url : String)
  | connectTimeout (url : String)
  | readTimeout (url : String)
  | partialCredentials (provider missing : String)
  | noProfile (profile : String)
deriving DecidableEq

def ConnectionFault.message : ConnectionFault → String
  | .unspecified => "An unspecified error occurred"
  | .noCredentials => "Unable to locate credentials"
  | .noRegion => "You must specify a region."
  | .unreachable url => "Could not connect to the endpoint URL: \"" ++ url ++ "\""
  | .connectTimeout url => "Connect timeout on endpoint URL: \"" ++ url ++ "\""
  | .readTimeout url => "Read timeout on endpoint URL: \"" ++ url ++ "\""
  | .partialCredentials provider missing =>
    s!"Partial credentials found in {provider}, missing: {missing}"
  | .noProfile profile => s!"The config profile ({profile}) could not be found"

inductive CloudFault where
  | rejected (r : Rejection)
  | connection (c : ConnectionFault)
  /-- A response that no fault can be read from. -/
  | malformed (defect : ReplyDefect)
  /-- An accident with a text. -/
  | accident (text : String)
  /-- An accident with a key. -/
  | missingKey (key : String)

namespace CloudFault

def message : CloudFault → String
  | .rejected r => r.message
  | .connection c => c.message
  | .malformed defect => defect.message
  | .accident text => text
  | .missingKey key => key.quotedText

/-- What keeps a field of a response from being looked into. -/
def fieldDefect? (response : Json) (name : String) : Option ReplyDefect :=
  match response.get? name with
  | none | some (.object _) => none
  | some other => some (.noFields other.typeName)

def responseDefect? (response : Json) : Option ReplyDefect :=
  match response with
  | .object _ => (fieldDefect? response metadataName).or (fieldDefect? response "Error")
  | .text s =>
    if Text.holds metadataName.toList s.toList then some .nameInText
    else some (.noFields response.typeName)
  | .array items =>
    if items.any (·.isText metadataName) then some .nameInArray
    else some (.noFields response.typeName)
  | _ => some (.notSearchable response.typeName)

def ofResponse (operation : String) (response : Json) : CloudFault :=
  match responseDefect? response with
  | some defect => .malformed defect
  | none => .rejected ⟨operation, response⟩

end CloudFault
end EnclaveFleet
