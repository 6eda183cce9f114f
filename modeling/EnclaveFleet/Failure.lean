import EnclaveFleet.Cloud.Service
import EnclaveFleet.Deferred.Marker
import EnclaveFleet.Json.Reader
import EnclaveFleet.Settings.Problem
import EnclaveFleet.Text.Echo
import EnclaveFleet.Text.Numeral

/-!
# Failures

* `Refusal`: why a preflight check does not pass
* `Failure`: everything that ends a run; `Failure.message` is its text
-/
namespace EnclaveFleet
set_option autoImplicit false

inductive Refusal where
  /-- Something that was put into words before. -/
  | noted (text : String)
  | secretNotFound (name region : String)
  | secretUnreadable (name code : String)
  | secretWithoutText (name : String)
  | secretNotJson (name : String)
  | secretNotObject (name : String)
  | missingKeys (name : String) (keys : List String)
  | typeRejected (instanceType code : String)
  | typeUnavailable (instanceType region : String)
  | noEnclaves (instanceType : String)
  | offeringsUnlisted (instanceType code : String)
  | notOffered (instanceType region : String)
deriving DecidableEq

def Refusal.message : Refusal → String
  | .noted text => text
  | .secretNotFound name region => s!"Secret {name} not found in {region}"
  | .secretUnreadable name code => s!"Cannot read secret {name}: {code}"
  | .secretWithoutText name =>
    s!"Secret {name} has no SecretString (binary secrets are not supported)"
  | .secretNotJson name => s!"Secret {name} is not valid JSON"
  | .secretNotObject name => s!"Secret {name} must be a JSON object"
  | .missingKeys name keys =>
    s!"Secret {name} is missing key(s): " ++ ", ".intercalate keys
  | .typeRejected instanceType code => s!"Instance type {instanceType} rejected by EC2: {code}"
  | .typeUnavailable instanceType region =>
    s!"Instance type {instanceType} not available in {region}"
  | .noEnclaves instanceType => s!"Instance type {instanceType} does not support Nitro Enclaves"
  | .offeringsUnlisted instanceType code => s!"Cannot list offerings for {instanceType}: {code}"
  | .notOffered instanceType region => s!"Instance type {instanceType} is not offered in {region}"

/-- What was to be done to a setting in place. -/
inductive FieldChange where
  | assign
  | delete
deriving DecidableEq

def FieldChange.verb : FieldChange → String
  | .assign => "assign to"
  | .delete => "delete"

inductive Failure where
  | configuration (problems : List Problem)
  | preflight (refusal : Refusal)
  /-- A failure of the fleet in general. -/
  | fleet (text : String)
  | cloud (fault : CloudFault)
  | reply (defect : ReplyDefect)
  /-- An integer of so many digits in the text of a secret. -/
  | numeralTooLong (digits : Nat)
  /-- A value lies too deep in the text of a secret. -/
  | tooDeep (container : Json.Container)
  | file (fault : FileFault) (path : String)
  /-- A text that was to leave the program has no bytes. -/
  | unencodable (fault : EncodingFault)
  /-- A path or a variable has a NUL in it. -/
  | nulByte
  /-- The name of a variable has an equals sign in it. -/
  | variableName
  /-- A variable without a name. -/
  | variableUnnamed
  | variableUnset (name : String)
  /-- The text of a number is none. -/
  | notInteger (text : String)
  /-- There is no word where one is needed. -/
  | noWord
  /-- The position where hexadecimal digits were to be. -/
  | notHex (position : Nat)
  | stackName (name : String)
  | noStackId
  /-- Nothing can be declared under this label. -/
  | stackNameTaken (label : String)
  /-- A text of the template holds a marker and cannot be completed; it is wrapped up in as many
  values. -/
  | marker (fault : MarkerFault) (wraps : Nat)
  /-- The account and region do not name an environment. -/
  | environment (account region : String)
  | outputNotDirectory (path : String)
  /-- The directory of the assembly cannot be made. -/
  | outputNotMade (fault : FileFault) (path : String)
  /-- The path of the assembly has a NUL in it. -/
  | nulInOutput (path : String)
  /-- A file of the assembly cannot be written. -/
  | outputNotWritten (fault : FileFault) (path : String)
  /-- The assembly holds no stack of this id. -/
  | noArtifact (id : String)
  | logLevel (name : String)
  /-- There is no setting of this name. -/
  | unknownField (name : String)
  /-- The name of a field that stands for the settings themselves. -/
  | reservedField (name : String)
  /-- Settings do not change once they are made. -/
  | frozenField (change : FieldChange) (name : String)
  /-- No settings were kept under this name. -/
  | noSlot (name : String)

namespace Failure

/-- A text that is no number is repeated up to this length. -/
def maxEchoed : Nat := 200

def message : Failure → String
  | .configuration problems => Problem.report problems
  | .preflight refusal => refusal.message
  | .fleet text => text
  | .cloud fault => fault.message
  | .reply defect => defect.message
  | .numeralTooLong digits =>
    s!"Exceeds the limit ({Text.Numeral.maxDigits} digits) for integer string conversion: " ++
      s!"value has {digits} digits; use sys.set_int_max_str_digits() to increase the limit"
  | .tooDeep container =>
    "maximum recursion depth exceeded while decoding a JSON " ++ container.name ++
      " from a unicode string"
  | .file fault path => fault.message path
  | .unencodable fault => fault.message
  | .nulByte => "embedded null byte"
  | .variableName => "illegal environment variable name"
  | .variableUnnamed => FileFault.invalid.text
  | .variableUnset name => name.quotedText
  | .notInteger text => "invalid literal for int() with base 10: " ++
      String.ofList (text.quotedText.toList.take maxEchoed)
  | .noWord => "list index out of range"
  | .notHex position => s!"non-hexadecimal number found in fromhex() arg at position {position}"
  | .stackName name =>
    "Stack name must match the regular expression: /^[A-Za-z][A-Za-z0-9-]*$/, got '" ++
      name.paired ++ "'"
  | .noStackId => "Only root constructs may have an empty ID"
  | .stackNameTaken label => "There is already a Construct with name '" ++ label ++ "' in App"
  | .marker fault wraps => fault.name ++ ": " ++
      String.join (List.replicate wraps "Resolution error: ") ++ fault.reason ++
      String.join (List.replicate wraps ".")
  | .environment account region =>
    "CloudAssemblyError: Unable to parse environment specification \"aws://" ++ account.paired ++
      "/" ++ region.paired ++ "\". Expected format: aws://account/region"
  | .outputNotDirectory path => path ++ " must be a directory"
  | .outputNotMade fault path => fault.code ++ ", mkdir '" ++ path ++ "'"
  | .nulInOutput path =>
    "The argument 'path' must be a string, Uint8Array, or URL without null bytes. Received " ++
      path.echo
  | .outputNotWritten fault path => "Error: " ++ fault.code ++ ", open '" ++ path ++ "'"
  | .noArtifact id => "CloudAssemblyError: Unable to find artifact with id \"" ++ id.paired ++ "\""
  | .logLevel name => s!"Unknown level: {name.quotedText}"
  | .unknownField name =>
    "FleetSettings.__init__() got an unexpected keyword argument '" ++ name ++ "'"
  | .reservedField name =>
    "FleetSettings.__init__() got multiple values for argument '" ++ name ++ "'"
  | .frozenField change name => s!"cannot {change.verb} field {name.quotedText}"
  | .noSlot name => name.quotedText

/-- The failures that the fleet foresees; the command line reports them without more ado. -/
def isForeseen : Failure → Bool
  | .configuration _ | .preflight _ | .fleet _ => true
  | _ => false

/-- The failures of the provider. -/
def isCloud : Failure → Bool
  | .cloud (.rejected _) | .cloud (.connection _) => true
  | _ => false

end Failure
end EnclaveFleet
