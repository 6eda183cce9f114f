import EnclaveFleet.Json.Basic
import EnclaveFleet.Template.Basic
import EnclaveFleet.Text.Encoding

/-!
# Templates as documents

* `Template.Value.document`: a value, with the functions that the deployment evaluates
* `Template.document`: the whole template; sections with nothing in them are left out

In a document neighbouring surrogates are one code point. Every document has the rule that the
account must be prepared well enough for a deployment.
-/
namespace EnclaveFleet.Template
set_option autoImplicit false

/-- A function that the deployment evaluates. -/
def intrinsic (function : String) (argument : Json) : Json :=
  .object [(function, argument)]

def reference (id : String) : Json := intrinsic "Ref" (.text id)

def pieceDocument : Piece → Json
  | .literal s => .text s.paired
  | .parameter p => reference p.name

/-- Pieces are joined by the deployment only where there is more than one. -/
def deferredDocument (d : Deferred) : Json :=
  match d.normal with
  | [] => .text ""
  | [piece] => pieceDocument piece
  | pieces => intrinsic "Fn::Join" (.array [.text "", .array (pieces.map pieceDocument)])

namespace Value

mutual

def document : Value → Json
  | .text s => .text s.paired
  | .number n => .int n
  | .flag b => .bool b
  | .list items => .array (documents items)
  | .record fields => .object (fieldDocuments fields)
  | .ref id => reference id
  | .attribute id name => intrinsic "Fn::GetAtt" (.array [.text id, .text name])
  | .deferred d => deferredDocument d
  | .encoded d => intrinsic "Fn::Base64" (deferredDocument d)
  | .zoneAt position =>
    intrinsic "Fn::Select" (.array [.int position, intrinsic "Fn::GetAZs" (.text "")])

def documents : List Value → List Json
  | [] => []
  | v :: vs => v.document :: documents vs

def fieldDocuments : List (String × Value) → List (String × Json)
  | [] => []
  | (name, v) :: fields => (name, v.document) :: fieldDocuments fields

end

end Value

def chapter? (name : String) (fields : List (String × Json)) : List (String × Json) :=
  if fields.isEmpty then [] else [(name, .object fields)]

def textField? (name : String) (value : Option String) : List (String × Json) :=
  value.toList.map fun s => (name, .text s)

def Resource.document (r : Resource) : Json :=
  .object ([("Type", .text r.kind.name)] ++
    (if r.dependsOn.isEmpty then [] else [("DependsOn", .array (r.dependsOn.map .text))]) ++
    [("Properties", (Value.record r.properties).document)] ++
    (if r.updatePolicy.isEmpty then []
      else [("UpdatePolicy", (Value.record r.updatePolicy).document)]))

def Parameter.document (p : Parameter) : Json :=
  .object ([("Type", .text p.type), ("Default", .text p.default)] ++
    textField? "Description" p.description)

def Output.document (o : Output) : Json :=
  .object (("Value", o.value.document) :: textField? "Description" o.description)

/-! ## The preparation of the account -/

def preparation : Parameter where
  id := "BootstrapVersion"
  type := "AWS::SSM::Parameter::Value<String>"
  default := "/cdk-bootstrap/hnb659fds/version"
  description := some ("Version of the CDK Bootstrap resources in this environment, automatically " ++
    "retrieved from SSM Parameter Store. [cdk:skip]")

/-- The versions of the preparation that are too old. -/
def oldVersions : List String := ["1", "2", "3", "4", "5"]

def preparationRule : Json :=
  let isOld := intrinsic "Fn::Contains"
    (.array [.array (oldVersions.map .text), reference preparation.id])
  .object [("Assertions", .array [.object [
    ("Assert", intrinsic "Fn::Not" (.array [isOld])),
    ("AssertDescription", .text ("CDK bootstrap stack version 6 required. " ++
      "Please run 'cdk bootstrap' with a recent version of the CDK CLI."))]])]

def document (t : Template) : Json :=
  .object (textField? "Description" t.description ++
    chapter? "Parameters" ((preparation :: t.parameters).map fun p => (p.id, p.document)) ++
    chapter? "Resources" (t.resources.map fun r => (r.id, r.document)) ++
    chapter? "Outputs" (t.outputs.map fun o => (o.id, o.document)) ++
    [("Rules", .object [("CheckBootstrapVersion", preparationRule)])])

end EnclaveFleet.Template
