import EnclaveFleet.Deferred

/-!
# Templates

A template declares the resources of a stack and how they refer to each other.

* `Template.Value`: the value of a property
* `Template.Kind`, `Template.Resource`: what is declared
* `Template.ofKind`: the resources of a kind
-/
namespace EnclaveFleet
set_option autoImplicit false

namespace Template

inductive Value where
  | text (s : String)
  | number (n : Int)
  | flag (b : Bool)
  | list (items : List Value)
  | record (fields : List (String × Value))
  /-- The resource or parameter of an id. -/
  | ref (id : String)
  /-- What the resource of an id is known by once it is there. -/
  | attribute (id name : String)
  /-- A text that the deployment completes. -/
  | deferred (d : Deferred)
  /-- Such a text in base64. -/
  | encoded (d : Deferred)
  /-- A zone of the region of the deployment, by its position. -/
  | zoneAt (position : Nat)

inductive Kind where
  | network
  | internetGateway
  | gatewayAttachment
  | subnet
  | routeTable
  | routeTableAssociation
  | route
  | address
  | natGateway
  | role
  | policy
  | instanceProfile
  | securityGroup
  | launchTemplate
  | loadBalancer
  | scalingGroup
  | targetGroup
  | listener
deriving DecidableEq

def Kind.name : Kind → String
  | .network => "AWS::EC2::VPC"
  | .internetGateway => "AWS::EC2::InternetGateway"
  | .gatewayAttachment => "AWS::EC2::VPCGatewayAttachment"
  | .subnet => "AWS::EC2::Subnet"
  | .routeTable => "AWS::EC2::RouteTable"
  | .routeTableAssociation => "AWS::EC2::SubnetRouteTableAssociation"
  | .route => "AWS::EC2::Route"
  | .address => "AWS::EC2::EIP"
  | .natGateway => "AWS::EC2::NatGateway"
  | .role => "AWS::IAM::Role"
  | .policy => "AWS::IAM::Policy"
  | .instanceProfile => "AWS::IAM::InstanceProfile"
  | .securityGroup => "AWS::EC2::SecurityGroup"
  | .launchTemplate => "AWS::EC2::LaunchTemplate"
  | .loadBalancer => "AWS::ElasticLoadBalancingV2::LoadBalancer"
  | .scalingGroup => "AWS::AutoScaling::AutoScalingGroup"
  | .targetGroup => "AWS::ElasticLoadBalancingV2::TargetGroup"
  | .listener => "AWS::ElasticLoadBalancingV2::Listener"

structure Resource where
  id : String
  kind : Kind
  /-- The resources that have to be there first, beside those that are referred to. -/
  dependsOn : List String := []
  properties : List (String × Value)
  updatePolicy : List (String × Value) := []

/-- A value that is looked up when the stack is deployed. -/
structure Parameter where
  id : String
  type : String
  default : String
  description : Option String := none

structure Output where
  id : String
  value : Value
  description : Option String := none

end Template

structure Template where
  description : Option String
  parameters : List Template.Parameter
  resources : List Template.Resource
  outputs : List Template.Output

namespace Template

def ofKind (t : Template) (kind : Kind) : List Resource :=
  t.resources.filter (·.kind = kind)

/-- How many resources there are of each kind that occurs. -/
def kindCounts (t : Template) : List (Kind × Nat) :=
  let kinds := t.resources.map (·.kind)
  kinds.eraseDups.map fun kind => (kind, kinds.count kind)

end Template
end EnclaveFleet
