import EnclaveFleet.Proofs.Stack.PartIds
import EnclaveFleet.Proofs.Template.Lookup
import EnclaveFleet.Stack.Build

/-!
# The layout of a stack

Which parts a stack has is settled by the number of its zones and by the number of its gateways.
Settings change what stands in the resources and not which ones there are.

* `layout`: the parts for so many zones and gateways
* `entries_template`: the resources of a template are those of its layout
* `upTo_layout`, `nodup_ids`: no part is there twice, and no two have the same id
* `select_layout`: what is not part of every subnet does not depend on the zones
* `filter_network`: the network has resources of its own kinds only
* `typesById_template`, `idsOf_template`, `length_resourcesOf`: what a document shows of the layout
-/
namespace EnclaveFleet.Stack
set_option autoImplicit false

open Template

/-! ## Layouts -/

def subnetParts (n : Plot) : List Part :=
  [.fitting n .subnet, .fitting n .routeTable, .fitting n .association]

def frameParts : List Part := [.network, .internetGateway, .attachment]

def publicParts (position : Nat) : List Part :=
  subnetParts (outer position) ++ [.fitting (outer position) .defaultRoute]

def gatewayParts (position : Nat) : List Part :=
  [.fitting (outer position) .address, .fitting (outer position) .natGateway]

/-- A private subnet has a route out if there is a gateway at all. -/
def privateParts (gatewayCount position : Nat) : List Part :=
  subnetParts (inner position) ++
    if gatewayCount = 0 then [] else [.fitting (inner position) .defaultRoute]

def networkParts (zoneCount gatewayCount : Nat) : List Part :=
  frameParts ++ (List.range zoneCount).flatMap publicParts ++
    (List.range gatewayCount).flatMap gatewayParts ++
    (List.range zoneCount).flatMap (privateParts gatewayCount)

def hostParts : List Part :=
  [.role, .policy, .instanceProfile, .securityGroup, .launchTemplate, .scalingGroup]

def balancerParts : List Part := [.loadBalancer, .targetGroup, .listener]

def layout (zoneCount gatewayCount : Nat) : List Part :=
  networkParts zoneCount gatewayCount ++ (hostParts ++ balancerParts)

def layoutOf (s : Settings) (p : Placement) : List Part :=
  layout (zones p).length (gatewayCount s p)

/-! ## The layout of a template -/

def entry (r : Resource) : String × Kind := (r.id, r.kind)

def Part.entry (x : Part) : String × Kind := (x.id, x.kind)

/-- Each zone adds the parts of its position. -/
theorem entries_alongZones {p : Placement} {side : Nat → Zone → List Resource}
    {parts : Nat → List Part}
    (h : ∀ position z, (side position z).map entry = (parts position).map Part.entry) :
    (Network.alongZones p side).map entry =
      ((List.range (zones p).length).flatMap parts).map Part.entry := by
  have hzones : ∀ (zs : List Zone) (start : Nat),
      ((zs.zipIdx start).flatMap fun place => side place.2 place.1).map entry =
        ((List.range' start zs.length).flatMap parts).map Part.entry := by
    intro zs
    induction zs with
    | nil => exact fun _ => rfl
    | cons z zs ih =>
      intro start
      rw [List.zipIdx_cons, List.flatMap_cons, List.map_append, h, ih, List.length_cons,
        List.range'_succ, List.flatMap_cons, List.map_append]
  rw [Network.alongZones, hzones, List.range_eq_range']

theorem entries_publicSide (p : Placement) (position : Nat) (z : Zone) :
    (Network.publicSide p (outer position) z).map entry =
      (publicParts position).map Part.entry := rfl

theorem entries_gateway (p : Placement) (position : Nat) :
    (Network.gateway p (outer position)).map entry = (gatewayParts position).map Part.entry := rfl

theorem entries_privateSide (s : Settings) (p : Placement) (position : Nat) (z : Zone) :
    (Network.privateSide s p (inner position) z).map entry =
      (privateParts (gatewayCount s p) position).map Part.entry := by
  rw [Network.privateSide, privateParts, Network.gatewayOf?]
  split <;> rfl

theorem entries_network (s : Settings) (p : Placement) :
    (Network.resources s p).map entry =
      (networkParts (zones p).length (gatewayCount s p)).map Part.entry := by
  have hframe : (Network.frame p).map entry = frameParts.map Part.entry := rfl
  rw [Network.resources, networkParts]
  simp only [List.map_append, hframe, entries_alongZones (entries_publicSide p),
    entries_alongZones (entries_privateSide s p), List.map_flatMap, entries_gateway]

theorem entries_template (s : Settings) (p : Placement) (d : Deferred) :
    (template s p d).resources.map entry = (layoutOf s p).map Part.entry := by
  have hrest : (hostResources s p d ++ balancerResources s p).map entry =
      (hostParts ++ balancerParts).map Part.entry := rfl
  rw [template, layoutOf, layout, List.append_assoc, List.map_append, entries_network, hrest,
    ← List.map_append]

/-! ## Distinct parts -/

/-- A layout goes through the blocks one after the other. -/
def Part.block : Part → Nat
  | .network | .internetGateway | .attachment => 0
  | .fitting ⟨.outer, _⟩ .address | .fitting ⟨.outer, _⟩ .natGateway => 2
  | .fitting ⟨.outer, _⟩ _ => 1
  | .fitting ⟨.inner, _⟩ _ => 3
  | _ => 4

/-- What is declared for each position is of one block. -/
structure Regular (block : Nat) (parts : Nat → List Part) : Prop where
  nodup : ∀ i, (parts i).Nodup
  position : ∀ i, ∀ x ∈ parts i, x.position = i
  block : ∀ i, ∀ x ∈ parts i, x.block = block

namespace Regular

variable {n block : Nat} {parts : Nat → List Part}

theorem nodup_along (h : Regular block parts) : ((List.range n).flatMap parts).Nodup := by
  refine List.nodup_flatMap.mpr ⟨fun i _ => h.nodup i, List.nodup_range.imp ?_⟩
  intro i j hne x hi hj
  exact hne ((h.position i x hi).symm.trans (h.position j x hj))

theorem position_lt {x : Part} (h : Regular block parts)
    (hx : x ∈ (List.range n).flatMap parts) : x.position < n := by
  obtain ⟨i, hi, hx⟩ := List.mem_flatMap.mp hx
  rw [h.position i x hx]
  exact List.mem_range.mp hi

theorem block_eq {x : Part} (h : Regular block parts) (hx : x ∈ (List.range n).flatMap parts) :
    x.block = block := by
  obtain ⟨i, _, hx⟩ := List.mem_flatMap.mp hx
  exact h.block i x hx

end Regular

theorem regular_publicParts : Regular 1 publicParts where
  nodup := fun i => by simp [publicParts, subnetParts]
  position := fun i => by simp [publicParts, subnetParts, Part.position, outer]
  block := fun i => by simp [publicParts, subnetParts, Part.block, outer]

theorem regular_gatewayParts : Regular 2 gatewayParts where
  nodup := fun i => by simp [gatewayParts]
  position := fun i => by simp [gatewayParts, Part.position, outer]
  block := fun i => by simp [gatewayParts, Part.block, outer]

theorem regular_privateParts (gatewayCount : Nat) : Regular 3 (privateParts gatewayCount) where
  nodup := fun i => by
    rw [privateParts]
    split <;> simp [subnetParts]
  position := fun i => by
    rw [privateParts]
    split <;> simp [subnetParts, Part.position, inner]
  block := fun i => by
    rw [privateParts]
    split <;> simp [subnetParts, Part.block, inner]

/-- A beginning of a layout, up to a block. -/
structure UpTo (block : Nat) (parts : List Part) : Prop where
  nodup : parts.Nodup
  before : ∀ x ∈ parts, x.block < block
  near : ∀ x ∈ parts, x.position < maxZones

namespace UpTo

variable {block : Nat} {parts more : List Part}

theorem append (h : UpTo block parts) (hmore : more.Nodup) (hblock : ∀ x ∈ more, x.block = block)
    (hnear : ∀ x ∈ more, x.position < maxZones) : UpTo (block + 1) (parts ++ more) where
  nodup := by
    refine List.nodup_append.mpr ⟨h.nodup, hmore, ?_⟩
    rintro x hx y hy rfl
    exact absurd (hblock x hy) (Nat.ne_of_lt (h.before x hx))
  before := by
    intro x hx
    obtain hx | hx := List.mem_append.mp hx
    · exact Nat.lt_succ_of_lt (h.before x hx)
    · exact Nat.lt_succ_of_le (Nat.le_of_eq (hblock x hx))
  near := by
    intro x hx
    obtain hx | hx := List.mem_append.mp hx
    · exact h.near x hx
    · exact hnear x hx

theorem along {n : Nat} {side : Nat → List Part} (h : UpTo block parts) (hside : Regular block side)
    (hn : n ≤ maxZones) : UpTo (block + 1) (parts ++ (List.range n).flatMap side) :=
  h.append hside.nodup_along (fun _ hx => hside.block_eq hx)
    fun _ hx => Nat.lt_of_lt_of_le (hside.position_lt hx) hn

end UpTo

theorem upTo_networkParts {zoneCount gatewayCount : Nat} (hzones : zoneCount ≤ maxZones)
    (hgateways : gatewayCount ≤ maxZones) : UpTo 4 (networkParts zoneCount gatewayCount) := by
  have hframe : UpTo 1 frameParts := ⟨by decide, by decide, by decide⟩
  exact ((hframe.along regular_publicParts hzones).along regular_gatewayParts hgateways).along
    (regular_privateParts gatewayCount) hzones

theorem upTo_layout {zoneCount gatewayCount : Nat} (hzones : zoneCount ≤ maxZones)
    (hgateways : gatewayCount ≤ maxZones) : UpTo 5 (layout zoneCount gatewayCount) :=
  (upTo_networkParts hzones hgateways).append (by decide) (by decide) (by decide)

theorem length_zones_le (p : Placement) : (zones p).length ≤ maxZones := by
  rw [zones, List.length_take]
  exact Nat.min_le_left _ _

theorem gatewayCount_le (s : Settings) (p : Placement) : gatewayCount s p ≤ maxZones :=
  Nat.le_trans (Nat.min_le_right _ _) (length_zones_le p)

theorem nodup_ids (s : Settings) (p : Placement) : ((layoutOf s p).map Part.id).Nodup := by
  have h : UpTo 5 (layoutOf s p) := upTo_layout (length_zones_le p) (gatewayCount_le s p)
  exact h.nodup.map_on fun x hx y hy hid => Part.eq_of_id_eq (h.near x hx) (h.near y hy) hid

/-! ## Kinds -/

def select (kind : Kind) (parts : List Part) : List Part := parts.filter (·.kind = kind)

/-- The kinds of what every subnet has. -/
def subnetKinds : List Kind := [.subnet, .routeTable, .routeTableAssociation, .route]

def networkKinds : List Kind :=
  [.network, .internetGateway, .gatewayAttachment, .address, .natGateway] ++ subnetKinds

theorem select_append (kind : Kind) (xs ys : List Part) :
    select kind (xs ++ ys) = select kind xs ++ select kind ys := List.filter_append _ _

theorem select_eq_nil {kind : Kind} {kinds : List Kind} {parts : List Part}
    (hparts : ∀ x ∈ parts, x.kind ∈ kinds) (hkind : kind ∉ kinds) : select kind parts = [] := by
  refine List.filter_eq_nil_iff.mpr fun x hx h => hkind ?_
  rw [← of_decide_eq_true h]
  exact hparts x hx

theorem kind_along {n : Nat} {side : Nat → List Part} {kinds : List Kind}
    (h : ∀ i, ∀ x ∈ side i, x.kind ∈ kinds) :
    ∀ x ∈ (List.range n).flatMap side, x.kind ∈ kinds := by
  intro x hx
  obtain ⟨i, _, hx⟩ := List.mem_flatMap.mp hx
  exact h i x hx

theorem kind_publicParts (i : Nat) : ∀ x ∈ publicParts i, x.kind ∈ subnetKinds := by
  simp [publicParts, subnetParts, Part.kind, Fitting.kind, subnetKinds]

theorem kind_privateParts (gatewayCount i : Nat) :
    ∀ x ∈ privateParts gatewayCount i, x.kind ∈ subnetKinds := by
  rw [privateParts]
  split <;> simp [subnetParts, Part.kind, Fitting.kind, subnetKinds]

/-- Apart from what every subnet has, there is the same in all layouts but for the gateways. -/
theorem select_layout (zoneCount gatewayCount : Nat) {kind : Kind} (h : kind ∉ subnetKinds) :
    select kind (layout zoneCount gatewayCount) = select kind frameParts ++
      ((List.range gatewayCount).flatMap fun i => select kind (gatewayParts i)) ++
        select kind (hostParts ++ balancerParts) := by
  have hpublic : select kind ((List.range zoneCount).flatMap publicParts) = [] :=
    select_eq_nil (kind_along kind_publicParts) h
  have hprivate : select kind ((List.range zoneCount).flatMap (privateParts gatewayCount)) = [] :=
    select_eq_nil (kind_along (kind_privateParts gatewayCount)) h
  have hgateways : select kind ((List.range gatewayCount).flatMap gatewayParts) =
      (List.range gatewayCount).flatMap fun i => select kind (gatewayParts i) :=
    List.filter_flatMap
  rw [layout, networkParts, select_append, select_append, select_append, select_append, hpublic,
    hgateways, hprivate, List.append_nil, List.append_nil]

theorem select_network (zoneCount gatewayCount : Nat) :
    select .network (layout zoneCount gatewayCount) = [.network] := by
  have hgateway : ∀ i, select .network (gatewayParts i) = [] := fun _ => rfl
  have hframe : select .network frameParts = [.network] := rfl
  have hrest : select .network (hostParts ++ balancerParts) = [] := rfl
  rw [select_layout zoneCount gatewayCount (by decide), hframe, hrest]
  simp [hgateway]

theorem length_select_natGateway (zoneCount gatewayCount : Nat) :
    (select .natGateway (layout zoneCount gatewayCount)).length = gatewayCount := by
  have hgateway : ∀ i, (select .natGateway (gatewayParts i)).length = 1 := fun _ => rfl
  have hframe : select .natGateway frameParts = [] := rfl
  have hrest : select .natGateway (hostParts ++ balancerParts) = [] := rfl
  rw [select_layout zoneCount gatewayCount (by decide), hframe, hrest, List.nil_append,
    List.append_nil, List.length_flatMap]
  simp [hgateway]

theorem kind_networkParts {zoneCount gatewayCount : Nat} :
    ∀ x ∈ networkParts zoneCount gatewayCount, x.kind ∈ networkKinds := by
  have hframe : ∀ x ∈ frameParts, x.kind ∈ networkKinds := by decide
  have hgateway : ∀ i, ∀ x ∈ gatewayParts i, x.kind ∈ networkKinds := by
    simp [gatewayParts, Part.kind, Fitting.kind, networkKinds]
  intro x hx
  simp only [networkParts, List.mem_append] at hx
  obtain ((hx | hx) | hx) | hx := hx
  · exact hframe x hx
  · exact List.mem_append_right _ (kind_along kind_publicParts x hx)
  · exact kind_along hgateway x hx
  · exact List.mem_append_right _ (kind_along (kind_privateParts gatewayCount) x hx)

theorem filter_network (s : Settings) (p : Placement) {kind : Kind} (h : kind ∉ networkKinds) :
    (Network.resources s p).filter (·.kind = kind) = [] := by
  refine List.filter_eq_nil_iff.mpr fun r hr hkind => h ?_
  have hentry := List.mem_map_of_mem (f := entry) hr
  rw [entries_network] at hentry
  obtain ⟨x, hx, hxr⟩ := List.mem_map.mp hentry
  have hxkind : x.kind = r.kind := congrArg Prod.snd hxr
  rw [← of_decide_eq_true hkind, ← hxkind]
  exact kind_networkParts x hx

/-! ## Documents -/

theorem typesById_template (s : Settings) (p : Placement) (d : Deferred) :
    typesById (template s p d).document =
      (layoutOf s p).map fun x => (x.id, some (.text x.kind.name)) := by
  have htypes : (template s p d).resources.map (fun r => (r.id, some (Json.text r.kind.name))) =
      ((template s p d).resources.map entry).map fun e => (e.1, some (.text e.2.name)) := by
    rw [List.map_map]
    rfl
  rw [typesById_document, htypes, entries_template, List.map_map]
  rfl

theorem entries_ofKind (s : Settings) (p : Placement) (d : Deferred) (kind : Kind) :
    ((template s p d).ofKind kind).map entry = (select kind (layoutOf s p)).map Part.entry := by
  have hfilter : ∀ (xs : List Part),
      (select kind xs).map Part.entry = (xs.map Part.entry).filter (·.2 = kind) := by
    intro xs
    rw [List.filter_map]
    rfl
  rw [hfilter, ← entries_template s p d, List.filter_map]
  rfl

theorem idsOf_template (s : Settings) (p : Placement) (d : Deferred) (kind : Kind) :
    idsOf (template s p d).document kind = (select kind (layoutOf s p)).map Part.id := by
  have hids : ∀ rs : List Resource, rs.map Resource.id = (rs.map entry).map Prod.fst := by
    intro rs
    rw [List.map_map]
    rfl
  rw [idsOf_document, hids, entries_ofKind, List.map_map]
  rfl

theorem length_resourcesOf (s : Settings) (p : Placement) (d : Deferred) (kind : Kind) :
    (resourcesOf (template s p d).document kind).length =
      (select kind (layoutOf s p)).length := by
  rw [resourcesOf_document, List.length_map, ← List.length_map entry, entries_ofKind,
    List.length_map]

end EnclaveFleet.Stack
