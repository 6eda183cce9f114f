import EnclaveFleet.Stack.LogicalId
import EnclaveFleet.Template.Basic

/-!
# The parts of a stack

* `Plot`: where a subnet is, `Fitting`: what belongs to it
* `Part`: all that a stack can declare
* `Part.path`, `Part.id`: where a part stands below its stack, and the id that it gets from there
* `Part.kind`, `Part.declare`: what a part is declared as

A part stands at the same path in every stack.
-/
namespace EnclaveFleet.Stack
set_option autoImplicit false

open Template

/-! ## Subnets -/

inductive Reach where
  /-- Reached from the internet. -/
  | outer
  | inner
deriving DecidableEq

namespace Reach

def name : Reach → String
  | .outer => "public"
  | .inner => "private"

def type : Reach → String
  | .outer => "Public"
  | .inner => "Private"

end Reach

structure Plot where
  reach : Reach
  /-- Of the zone among those of the network. -/
  position : Nat
deriving DecidableEq

def Plot.title (n : Plot) : String :=
  n.reach.name ++ "Subnet" ++ toString (n.position + 1)

inductive Fitting where
  | subnet
  | routeTable
  | association
  | defaultRoute
  | address
  | natGateway
deriving DecidableEq

namespace Fitting

def label : Fitting → String
  | .subnet => "Subnet"
  | .routeTable => "RouteTable"
  | .association => "RouteTableAssociation"
  | .defaultRoute => "DefaultRoute"
  | .address => "EIP"
  | .natGateway => "NATGateway"

def kind : Fitting → Kind
  | .subnet => .subnet
  | .routeTable => .routeTable
  | .association => .routeTableAssociation
  | .defaultRoute => .route
  | .address => .address
  | .natGateway => .natGateway

end Fitting

/-! ## Parts -/

inductive Part where
  | network
  | internetGateway
  | attachment
  | fitting (n : Plot) (f : Fitting)
  | role
  | policy
  | instanceProfile
  | securityGroup
  | launchTemplate
  | scalingGroup
  | loadBalancer
  | targetGroup
  | listener
deriving DecidableEq

namespace Part

def networkLabel : String := "SP1_TEE_VPC"

def roleLabel : String := "SP1_TEE_InstanceSSM"

def launchTemplateLabel : String := "SP1_TEE_LaunchTemplate"

def loadBalancerLabel : String := "SP1_TEE_NetworkLoadBalancer"

def path : Part → List String
  | .network => [networkLabel, "Resource"]
  | .internetGateway => [networkLabel, "IGW"]
  | .attachment => [networkLabel, "VPCGW"]
  | .fitting n f => [networkLabel, n.title, f.label]
  | .role => [roleLabel, "Resource"]
  | .policy => [roleLabel, "DefaultPolicy", "Resource"]
  | .instanceProfile => [launchTemplateLabel, "Profile"]
  | .securityGroup => ["SP1_TEE_SecurityGroup", "Resource"]
  | .launchTemplate => [launchTemplateLabel, "Resource"]
  | .scalingGroup => ["SP1_TEE_AutoScalingGroup", "ASG"]
  | .loadBalancer => [loadBalancerLabel, "Resource"]
  | .targetGroup => ["SP1_TEE_NetworkLoadBalancer_AutoScalingGroupTarget", "Resource"]
  | .listener => [loadBalancerLabel, "SP1_TEE_NetworkLoadBalancer_HTTPSListener", "Resource"]

def id (x : Part) : String := LogicalId.ofPath x.path

def kind : Part → Kind
  | .network => .network
  | .internetGateway => .internetGateway
  | .attachment => .gatewayAttachment
  | .fitting _ f => f.kind
  | .role => .role
  | .policy => .policy
  | .instanceProfile => .instanceProfile
  | .securityGroup => .securityGroup
  | .launchTemplate => .launchTemplate
  | .scalingGroup => .scalingGroup
  | .loadBalancer => .loadBalancer
  | .targetGroup => .targetGroup
  | .listener => .listener

def declare (x : Part) (properties : List (String × Value)) : Resource where
  id := x.id
  kind := x.kind
  properties := properties

end Part
end EnclaveFleet.Stack
