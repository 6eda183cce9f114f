import EnclaveFleet.Bootstrap.Commands
import EnclaveFleet.Settings.Acceptance
import EnclaveFleet.Stack.Hosts

/-!
# Building the stack

* `Stack.template`: the template for given user data
* `Stack.build`: the settings are checked before anything is declared, and the log tells of the
  build only then
* `Stack.buildFleet`: the stack at the place that the settings name
-/
namespace EnclaveFleet.Stack
set_option autoImplicit false

open Template

/-! ## The load balancer -/

/-- The load balancer is seen from the network only and hands on what comes in at one port. -/
def balancerResources (s : Settings) (p : Placement) : List Resource := [
  Part.declare .loadBalancer [
    ("LoadBalancerAttributes", .list [Network.tag "deletion_protection.enabled" "false"]),
    ("Scheme", .text "internal"),
    ("Subnets", Network.publicSubnetRefs p),
    ("Type", .text "network")],
  Part.declare .targetGroup [
    ("Port", .number s.listenerPort),
    ("Protocol", .text "TCP"),
    ("TargetType", .text "instance"),
    ("VpcId", .ref Network.id)],
  Part.declare .listener [
    ("DefaultActions", .list [.record [
      ("TargetGroupArn", .ref (Part.id .targetGroup)), ("Type", .text "forward")]]),
    ("LoadBalancerArn", .ref (Part.id .loadBalancer)),
    ("Port", .number s.listenerPort),
    ("Protocol", .text "TCP")]
]

/-! ## The stack -/

def outputs : List Output := [
  { id := "LoadBalancerDnsName"
    value := .attribute (Part.id .loadBalancer) "DNSName"
    description := some "Internal DNS name of the enclave host load balancer" },
  { id := "AutoScalingGroupName", value := .ref (Part.id .scalingGroup) },
  { id := "VpcId", value := .ref Network.id }
]

def template (s : Settings) (p : Placement) (userData : Deferred) : Template where
  description := p.description
  parameters := [machineImage]
  resources := Network.resources s p ++ hostResources s p userData ++ balancerResources s p
  outputs := outputs

def buildingMessage (s : Settings) (p : Placement) : String :=
  s!"🏗️  Building {p.id}: {s.fleetSize} x {s.instanceType}, user data mode={s.bootMode}"

def build (s : Settings) (files : Tree) (p : Placement) : Run Template := do
  Run.ofExcept (s.check files)
  Run.ofExcept p.checkName
  Run.log .stack .info (buildingMessage s p)
  let userData ← Bootstrap.userData s files (secretArn s p) p.region
  return template s p userData

def buildFleet (s : Settings) (files : Tree) (known : Lookup) : Run Template := do
  let t ← build s files ((Placement.ofSettings s).knowing known)
  Run.log .app .debug s!"App assembled with stack {s.stackId}"
  return t

end EnclaveFleet.Stack
