import EnclaveFleet.Cloud.Fault

/-!
# The cloud services that are asked

* `Reply`: what a service answers to a call
* `SecretStore`, `InstanceCatalogue`: a client of each service, by its replies
* `Access`: a client at hand, or the outcome of making one
* `Call`: what is asked of the provider; every question only reads
-/
namespace EnclaveFleet
set_option autoImplicit false

abbrev Reply := Except CloudFault Json

structure SecretStore where
  secretValue : Reply

structure InstanceCatalogue where
  instanceTypes : Reply
  offerings : Reply

inductive Access (client : Type) where
  | given (c : client)
  | made (outcome : Except CloudFault client)

structure Cloud where
  secrets : Access SecretStore
  instances : Access InstanceCatalogue

inductive Service where
  | secrets
  | instances
deriving DecidableEq

def Service.name : Service → String
  | .secrets => "secretsmanager"
  | .instances => "ec2"

inductive Call where
  | client (service : Service) (region : Option String)
  | getSecretValue (secret : String)
  | describeInstanceTypes (instanceType : String)
  | describeOfferings (instanceType : String)
deriving DecidableEq

namespace Call

def name : Call → String
  | .client service _ => "client." ++ service.name
  | .getSecretValue _ => "secretsmanager.get_secret_value"
  | .describeInstanceTypes _ => "ec2.describe_instance_types"
  | .describeOfferings _ => "ec2.describe_instance_type_offerings"

def arguments : Call → Json
  | .client _ region =>
    .object [("region_name", match region with | some r => .text r | none => .null)]
  | .getSecretValue secret => .object [("SecretId", .text secret)]
  | .describeInstanceTypes instanceType =>
    .object [("InstanceTypes", .array [.text instanceType])]
  | .describeOfferings instanceType =>
    .object [("LocationType", .text "region"),
      ("Filters", .array [.object [("Name", .text "instance-type"),
        ("Values", .array [.text instanceType])]])]

end Call
end EnclaveFleet
