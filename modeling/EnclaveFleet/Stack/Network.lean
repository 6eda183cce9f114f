import EnclaveFleet.Stack.Part
import EnclaveFleet.Stack.Placement

/-!
# The network of a fleet

A public and a private subnet in each zone, for three zones at most. The public ones have a route to
the internet; the private ones reach it through gateways in the first public subnets, if there are
any.

* `Zone`, `availableZones`: the zones that a placement has, and `zones` those that are used
* `gatewayCount`: how many gateways there are for the private subnets
* `Plot.block`: the addresses of a subnet
* `Network.resources`: all of it
-/
namespace EnclaveFleet.Stack
set_option autoImplicit false

open Template

/-! ## Zones -/

inductive Zone where
  | named (name : String)
  /-- A zone of the region of the deployment, by its position. -/
  | chosen (position : Nat)
deriving DecidableEq

def Zone.value : Zone → Value
  | .named name => .text name
  | .chosen position => .zoneAt position

/-- Stand for the zones of a region until it is asked for them. -/
def placeholders : ZoneNames := ⟨"dummy1a", ["dummy1b", "dummy1c"]⟩

/-- Two zones are there in every region; more are known only where the region is. -/
def availableZones (p : Placement) : List Zone :=
  if p.isConcrete then (p.zoneNames?.getD placeholders).all.map .named
  else [.chosen 0, .chosen 1]

/-- A network is not laid out over more zones than these unless that is asked for. -/
def maxZones : Nat := 3

def zones (p : Placement) : List Zone := (availableZones p).take maxZones

/-- There is one gateway to a zone at most. -/
def gatewayCount (s : Settings) (p : Placement) : Nat :=
  min s.natGateways.toNat (zones p).length

/-! ## Subnets -/

namespace Plot

/-- The number of subnets as a power of two, rounded up. -/
def blockBits (zoneCount : Nat) : Nat := (2 * zoneCount - 1).log2 + 1

/-- The addresses of the subnets have the same size; the public ones come first. -/
def block (zoneCount : Nat) (n : Plot) : String :=
  let bits := blockBits zoneCount
  let position := n.position + match n.reach with
    | .outer => 0
    | .inner => zoneCount
  s!"10.0.{position * Nat.pow 2 (8 - bits)}.0/{16 + bits}"

def id (n : Plot) (f : Fitting) : String := Part.id (.fitting n f)

end Plot

def outer (position : Nat) : Plot := ⟨.outer, position⟩

def inner (position : Nat) : Plot := ⟨.inner, position⟩

namespace Network

def id : String := Part.id .network

def anywhere : String := "0.0.0.0/0"

def tag (key value : String) : Value :=
  .record [("Key", .text key), ("Value", .text value)]

def path (p : Placement) : String := p.label ++ "/" ++ Part.networkLabel

def nameTag (p : Placement) : Value := tag "Name" (path p)

def subnetNameTag (p : Placement) (n : Plot) : Value :=
  tag "Name" (path p ++ "/" ++ n.title)

/-- The network itself and its way to the internet. -/
def frame (p : Placement) : List Resource := [
  Part.declare .network [
    ("CidrBlock", .text "10.0.0.0/16"),
    ("EnableDnsHostnames", .flag true),
    ("EnableDnsSupport", .flag true),
    ("InstanceTenancy", .text "default"),
    ("Tags", .list [nameTag p])],
  Part.declare .internetGateway [("Tags", .list [nameTag p])],
  Part.declare .attachment [
    ("InternetGatewayId", .ref (Part.id .internetGateway)), ("VpcId", .ref id)]
]

/-- A subnet and its table of routes, which has no routes of its own yet. -/
def subnet (p : Placement) (n : Plot) (z : Zone) : List Resource := [
  Part.declare (.fitting n .subnet) [
    ("AvailabilityZone", z.value),
    ("CidrBlock", .text (n.block (zones p).length)),
    ("MapPublicIpOnLaunch", .flag (n.reach = .outer)),
    ("Tags", .list [tag "aws-cdk:subnet-name" n.reach.name,
      tag "aws-cdk:subnet-type" n.reach.type, subnetNameTag p n]),
    ("VpcId", .ref id)],
  Part.declare (.fitting n .routeTable) [
    ("Tags", .list [subnetNameTag p n]), ("VpcId", .ref id)],
  Part.declare (.fitting n .association) [
    ("RouteTableId", .ref (n.id .routeTable)), ("SubnetId", .ref (n.id .subnet))]
]

def publicRoute (n : Plot) : Resource :=
  { Part.declare (.fitting n .defaultRoute) [
      ("DestinationCidrBlock", .text anywhere),
      ("GatewayId", .ref (Part.id .internetGateway)),
      ("RouteTableId", .ref (n.id .routeTable))] with
    dependsOn := [Part.id .attachment] }

def privateRoute (n : Plot) (gateway : Nat) : Resource :=
  Part.declare (.fitting n .defaultRoute) [
    ("DestinationCidrBlock", .text anywhere),
    ("NatGatewayId", .ref ((outer gateway).id .natGateway)),
    ("RouteTableId", .ref (n.id .routeTable))]

/-- A gateway for the private subnets, in a public subnet. -/
def gateway (p : Placement) (home : Plot) : List Resource := [
  Part.declare (.fitting home .address) [
    ("Domain", .text "vpc"), ("Tags", .list [subnetNameTag p home])],
  { Part.declare (.fitting home .natGateway) [
      ("AllocationId", .attribute (home.id .address) "AllocationId"),
      ("SubnetId", .ref (home.id .subnet)),
      ("Tags", .list [subnetNameTag p home])] with
    dependsOn := [home.id .defaultRoute, home.id .association] }
]

/-- The private subnets take the gateways in turn. -/
def gatewayOf? (s : Settings) (p : Placement) (n : Plot) : Option Nat :=
  if gatewayCount s p = 0 then none else some (n.position % gatewayCount s p)

def publicSide (p : Placement) (n : Plot) (z : Zone) : List Resource :=
  subnet p n z ++ [publicRoute n]

def privateSide (s : Settings) (p : Placement) (n : Plot) (z : Zone) : List Resource :=
  subnet p n z ++ ((gatewayOf? s p n).map (privateRoute n)).toList

/-- What there is for each zone, by its position. -/
def alongZones (p : Placement) (side : Nat → Zone → List Resource) : List Resource :=
  (zones p).zipIdx.flatMap fun place => side place.2 place.1

def resources (s : Settings) (p : Placement) : List Resource :=
  frame p ++ alongZones p (fun position => publicSide p (outer position)) ++
    (List.range (gatewayCount s p)).flatMap (fun position => gateway p (outer position)) ++
    alongZones p (fun position => privateSide s p (inner position))

/-- The public subnets as others refer to them. -/
def publicSubnetRefs (p : Placement) : Value :=
  .list ((List.range (zones p).length).map fun position => .ref ((outer position).id .subnet))

end Network
end EnclaveFleet.Stack
