import EnclaveFleet.Number.Layout
import EnclaveFleet.Stack.Network

/-!
# The hosts of a fleet

* `secretArn`: the address of the secret; `roleResources` lets the hosts read it and nothing else
* `IngressRule`, `ingressRules`: what traffic reaches the hosts
* `capacityText`: the number of hosts as the group of hosts is told it
* `hostResources`: the role, the security group, the launch template and the group of hosts
-/
namespace EnclaveFleet.Stack
set_option autoImplicit false

open Template

/-! ## The role -/

def secretArn (s : Settings) (p : Placement) : Deferred :=
  [.literal "arn:", .parameter .partition, .literal ":secretsmanager:"] ++ p.region ++
    [.literal ":"] ++ p.account ++ [.literal (":secret:" ++ s.secretName)]

/-- The address in a policy; the service ends it in six characters of its own. -/
def secretPattern (s : Settings) (p : Placement) : Deferred :=
  secretArn s p ++ [.literal "-??????"]

def managedPolicy : Deferred :=
  [.literal "arn:", .parameter .partition,
    .literal ":iam::aws:policy/service-role/AmazonEC2RoleforSSM"]

/-- A policy of one statement that allows something. -/
def allowing (fields : List (String × Value)) : Value :=
  .record [("Statement", .list [.record (("Effect", .text "Allow") :: fields)]),
    ("Version", .text "2012-10-17")]

def roleResources (s : Settings) (p : Placement) : List Resource := [
  Part.declare .role [
    ("AssumeRolePolicyDocument", allowing [
      ("Action", .text "sts:AssumeRole"),
      ("Principal", .record [("Service", .text "ec2.amazonaws.com")])]),
    ("ManagedPolicyArns", .list [.deferred managedPolicy])],
  Part.declare .policy [
    ("PolicyDocument", allowing [
      ("Action", .list [.text "secretsmanager:GetSecretValue",
        .text "secretsmanager:DescribeSecret"]),
      ("Resource", .deferred (secretPattern s p))]),
    ("PolicyName", .text (Part.id .policy)),
    ("Roles", .list [.ref (Part.id .role)])],
  Part.declare .instanceProfile [("Roles", .list [.ref (Part.id .role)])]
]

/-! ## The security group -/

inductive TrafficSource where
  | anywhere
  /-- The addresses of the fleet's own network. -/
  | network
deriving DecidableEq

def TrafficSource.value : TrafficSource → Value
  | .anywhere => .text Network.anywhere
  | .network => .attribute Network.id "CidrBlock"

/-- Lets traffic in at one port. -/
structure IngressRule where
  source : TrafficSource
  port : Int
  purpose : String
deriving DecidableEq

def IngressRule.value (r : IngressRule) : Value :=
  .record [
    ("CidrIp", r.source.value),
    ("Description", .text r.purpose),
    ("FromPort", .number r.port),
    ("IpProtocol", .text "tcp"),
    ("ToPort", .number r.port)]

def sshPort : Int := 22

def ingressRules (s : Settings) : List IngressRule :=
  ⟨.anywhere, sshPort, "Allow SSH access"⟩ ::
    if s.allowVpcHttps then
      [⟨.network, s.listenerPort, "Allow load balancer traffic from the VPC"⟩]
    else []

def securityGroup (s : Settings) : Resource :=
  Part.declare .securityGroup [
    ("GroupDescription", .text "Private SG for SP1 TEE enclaves"),
    ("SecurityGroupEgress", .list [.record [
      ("CidrIp", .text Network.anywhere),
      ("Description", .text "Allow all outbound traffic by default"),
      ("IpProtocol", .text "-1")]]),
    ("SecurityGroupIngress", .list ((ingressRules s).map IngressRule.value)),
    ("VpcId", .ref Network.id)]

/-! ## The launch template -/

/-- Where the newest image of the system is named, for one architecture. -/
def imagePath : String :=
  "/aws/service/ami-amazon-linux-latest/al2023-ami-kernel-6.1-x86_64"

/-- The label that a value gets which is looked up at a path. -/
def lookupLabel (path : String) : String :=
  "SsmParameterValue:" ++ path ++ ":C96584B6-F00A-464E-AD19-53AFF4B05118.Parameter"

def machineImage : Parameter where
  id := LogicalId.ofPath [lookupLabel imagePath]
  type := "AWS::SSM::Parameter::Value<AWS::EC2::Image::Id>"
  default := imagePath

/-- The names that something gets when it is made from the launch template. -/
def namedAfterTemplate (p : Placement) (type : String) : Value :=
  .record [("ResourceType", .text type),
    ("Tags", .list [Network.tag "Name" (p.label ++ "/" ++ Part.launchTemplateLabel)])]

def launchTemplate (s : Settings) (p : Placement) (userData : Deferred) : Resource :=
  { Part.declare .launchTemplate [
      ("LaunchTemplateData", .record [
        ("EnclaveOptions", .record [("Enabled", .flag true)]),
        ("IamInstanceProfile", .record [("Arn", .attribute (Part.id .instanceProfile) "Arn")]),
        ("ImageId", .ref machineImage.id),
        ("InstanceType", .text s.instanceType),
        ("SecurityGroupIds", .list [.attribute (Part.id .securityGroup) "GroupId"]),
        ("TagSpecifications",
          .list [namedAfterTemplate p "instance", namedAfterTemplate p "volume"]),
        ("UserData", .encoded userData)]),
      ("TagSpecifications", .list [namedAfterTemplate p "launch-template"])] with
    dependsOn := [Part.id .policy, Part.id .role] }

/-! ## The group of hosts -/

/-- The number of hosts goes through double precision, which holds it exactly up to 2^53. -/
def capacityText (n : Int) : String :=
  if n.natAbs ≤ Nat.pow 2 53 then toString n
  else
    let size := match Double.nearest n.natAbs 1 with
      | some x => Layout.plain.write x.shortest
      | none => "Infinity"
    if n < 0 then "-" ++ size else size

/-- What rests while hosts are replaced one after the other. -/
def suspendedProcesses : List String := ["HealthCheck", "ReplaceUnhealthy", "AZRebalance",
  "AlarmNotification", "ScheduledActions", "InstanceRefresh"]

def scalingGroup (s : Settings) (p : Placement) : Resource :=
  { Part.declare .scalingGroup [
      ("LaunchTemplate", .record [
        ("LaunchTemplateId", .ref (Part.id .launchTemplate)),
        ("Version", .attribute (Part.id .launchTemplate) "LatestVersionNumber")]),
      ("MaxSize", .text (capacityText s.fleetSize)),
      ("MinSize", .text (capacityText s.fleetSize)),
      ("TargetGroupARNs", .list [.ref (Part.id .targetGroup)]),
      ("VPCZoneIdentifier", Network.publicSubnetRefs p)] with
    updatePolicy := [
      ("AutoScalingRollingUpdate", .record [
        ("SuspendProcesses", .list (suspendedProcesses.map .text))]),
      ("AutoScalingScheduledAction", .record [
        ("IgnoreUnmodifiedGroupSizeProperties", .flag true)])] }

def hostResources (s : Settings) (p : Placement) (userData : Deferred) : List Resource :=
  roleResources s p ++ [securityGroup s, launchTemplate s p userData, scalingGroup s p]

end EnclaveFleet.Stack
