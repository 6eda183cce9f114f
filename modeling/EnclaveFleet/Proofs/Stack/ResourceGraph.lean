import EnclaveFleet.Proofs.Settings.Accepted
import EnclaveFleet.Proofs.Stack.LaunchedText
import EnclaveFleet.Proofs.Text.Occurrences

/-!
# The resources of every stack

A replaced resource is live infrastructure that is lost, so the resources of a stack and their ids
are fixed. Settings change what stands in them; only zones and gateways change which ones there are.

* `FixedGraph`: what the document of a stack has, in terms of the settings
* `capacityText_eq`: the sizes of the group of hosts up to 2^53
* `length_natGateway`: how many gateways a document has
* `resource_graph_fixed`: every stack has all that, and stacks with the same gateways the same ids
* `six_zones_three_gateways`: zones that are there and have no gateway
-/
namespace EnclaveFleet.Stack
set_option autoImplicit false

open Template

/-! ## What stands in the resources -/

/-- What the document of a stack has for these settings and this place. -/
structure FixedGraph (s : Settings) (p : Placement) (document : Json) : Prop where
  distinct : ((typesById document).map Prod.fst).Nodup
  network : ∃ r, resourcesOf document .network = [r]
  role : ∃ r, resourcesOf document .role = [r]
  /-- The group neither grows nor shrinks. -/
  scalingGroup : ∃ r size, resourcesOf document .scalingGroup = [r] ∧
    r.at? ["Properties", "MinSize"] = some (.text size) ∧
    r.at? ["Properties", "MaxSize"] = some (.text size) ∧
    r.at? ["Properties", "DesiredCapacity"] = none ∧
    (s.fleetSize ≤ Nat.pow 2 53 → size = toString s.fleetSize)
  /-- The type is as it was set, with neighbouring surrogates as one code point. -/
  launchTemplate : ∃ r, resourcesOf document .launchTemplate = [r] ∧
    r.at? ["Properties", "LaunchTemplateData", "InstanceType"] =
      some (.text s.instanceType.paired) ∧
    r.at? ["Properties", "LaunchTemplateData", "EnclaveOptions", "Enabled"] = some (.bool true)
  loadBalancer : ∃ r, resourcesOf document .loadBalancer = [r] ∧
    r.at? ["Properties", "Scheme"] = some (.text "internal")
  targetGroup : ∃ r, resourcesOf document .targetGroup = [r] ∧
    r.at? ["Properties", "Port"] = some (.int s.listenerPort) ∧
    r.at? ["Properties", "Protocol"] = some (.text "TCP")
  listener : ∃ r, resourcesOf document .listener = [r] ∧
    r.at? ["Properties", "Port"] = some (.int s.listenerPort) ∧
    r.at? ["Properties", "Protocol"] = some (.text "TCP")
  /-- A network leaves out what zones there are beyond three. -/
  gateways : ((resourcesOf document .natGateway).length : Int) =
    min s.natGateways (min maxZones (availableZones p).length)

theorem capacityText_eq {n : Int} (hpos : 1 ≤ n) (hn : n ≤ Nat.pow 2 53) :
    (capacityText n).paired = toString n := by
  have hexact : n.natAbs ≤ Nat.pow 2 53 := by omega
  have hmark : Points.mark ∉ (toString n).toList :=
    notMem_toString (by decide) (by decide) n
  unfold capacityText
  rw [if_pos hexact, paired_eq_self_of_no_mark hmark]

theorem length_network (s : Settings) (p : Placement) (d : Deferred) :
    (resourcesOf (template s p d).document .network).length = 1 := by
  rw [length_resourcesOf, layoutOf, select_network]
  rfl

theorem length_natGateway (s : Settings) (p : Placement) (d : Deferred) :
    (resourcesOf (template s p d).document .natGateway).length = gatewayCount s p := by
  rw [length_resourcesOf, layoutOf, length_select_natGateway]

theorem length_zones (p : Placement) :
    (zones p).length = min maxZones (availableZones p).length := List.length_take

theorem fixedGraph_template {s : Settings} {files : Tree} (hcheck : s.check files = .ok ())
    (p : Placement) (d : Deferred) : FixedGraph s p (template s p d).document where
  distinct := by
    rw [typesById_template, List.map_map]
    exact nodup_ids s p
  network := List.length_eq_one_iff.mp (length_network s p d)
  role := by
    rw [resourcesOf_template s p d (by decide)]
    exact ⟨_, rfl⟩
  scalingGroup := by
    rw [resourcesOf_template s p d (by decide)]
    exact ⟨_, _, rfl, rfl, rfl, rfl, capacityText_eq (Settings.fleetSize_of_check hcheck)⟩
  launchTemplate := by
    rw [resourcesOf_template s p d (by decide)]
    exact ⟨_, rfl, rfl, rfl⟩
  loadBalancer := by
    rw [resourcesOf_template s p d (by decide)]
    exact ⟨_, rfl, rfl⟩
  targetGroup := by
    rw [resourcesOf_template s p d (by decide)]
    exact ⟨_, rfl, rfl, rfl⟩
  listener := by
    rw [resourcesOf_template s p d (by decide)]
    exact ⟨_, rfl, rfl, rfl⟩
  gateways := by
    have hnumber := Settings.natGateways_of_check hcheck
    rw [length_natGateway, gatewayCount, length_zones]
    omega

/-! ## Ids -/

theorem zones_congr {p p' : Placement} (haccount : p'.account? = p.account?)
    (hregion : p'.region? = p.region?) (hnames : p'.zoneNames? = p.zoneNames?) :
    zones p' = zones p := by
  unfold zones availableZones Placement.isConcrete
  rw [haccount, hregion, hnames]

/-- What was looked up of the zones is looked up by the account and the region. -/
theorem zoneNames_knowing (known : Lookup) {s s' : Settings} (haccount : s'.account = s.account)
    (hregion : s'.region = s.region) :
    ((Placement.ofSettings s').knowing known).zoneNames? =
      ((Placement.ofSettings s).knowing known).zoneNames? := by
  have htarget : s'.target? = s.target? := by
    rw [Settings.target?, Settings.target?, haccount, hregion]
  exact congrArg (·.bind known) htarget

/-- Zones and the smaller number settle how many gateways there are. -/
theorem gatewayCount_congr {s s' : Settings} {files files' : Tree} {p p' : Placement}
    (hcheck : s.check files = .ok ()) (hcheck' : s'.check files' = .ok ())
    (hnumber : min s'.natGateways (zones p').length = min s.natGateways (zones p).length) :
    gatewayCount s' p' = gatewayCount s p := by
  -- A negative number would count as none, so equal minima alone do not suffice.
  have hpos := Settings.natGateways_of_check hcheck
  have hpos' := Settings.natGateways_of_check hcheck'
  rw [gatewayCount, gatewayCount]
  omega

/-- Whatever the settings, a stack has these resources, and its ids and their types follow from the
account, the region with its zones and the number of gateways alone. -/
theorem resource_graph_fixed (s : Settings) (files : Tree) (p : Placement) (t : Template)
    (hbuild : (build s files p).outcome = .ok t) :
    FixedGraph s p t.document ∧
    ∀ s' files' p' t', (build s' files' p').outcome = .ok t' →
      p'.account? = p.account? → p'.region? = p.region? → p'.zoneNames? = p.zoneNames? →
      min s'.natGateways (zones p').length = min s.natGateways (zones p).length →
      typesById t'.document = typesById t.document := by
  obtain ⟨hcheck, _, d, _, rfl⟩ := build_eq_ok_iff.mp hbuild
  refine ⟨fixedGraph_template hcheck p d, ?_⟩
  intro s' files' p' t' hbuild' haccount hregion hnames hnumber
  obtain ⟨hcheck', _, d', _, rfl⟩ := build_eq_ok_iff.mp hbuild'
  have hzones := zones_congr haccount hregion hnames
  have hcount := gatewayCount_congr hcheck hcheck' hnumber
  rw [typesById_template, typesById_template, layoutOf, layoutOf, hzones, hcount]

/-! ## A region of six zones -/

def sixZones : ZoneNames :=
  ⟨"us-east-1a", ["us-east-1b", "us-east-1c", "us-east-1d", "us-east-1e", "us-east-1f"]⟩

def inSixZones (s : Settings) : Placement := (Placement.ofSettings s).knowing fun _ => some sixZones

/-- A gateway is wanted in each zone. -/
def everyZone : Settings where
  account := some "123456789012"
  region := some "us-east-1"
  natGateways := 6

/-- More gateways are wanted than there are zones, and a script is to be unpacked. -/
def crowded : Settings :=
  { Bootstrap.hostile with
    account := some "123456789012"
    region := some "us-east-1"
    fleetSize := 40
    listenerPort := 8443
    natGateways := 7 }

theorem resource_graph_fixed_crowded :
    ∃ t t', (build everyZone .empty (inSixZones everyZone)).outcome = .ok t ∧
      (build crowded Bootstrap.hostileFiles (inSixZones crowded)).outcome = .ok t' ∧
      FixedGraph everyZone (inSixZones everyZone) t.document ∧
      typesById t'.document = typesById t.document ∧
      (resourcesOf t'.document .natGateway).length = 3 := by
  have hcheck : everyZone.check .empty = .ok () := ok_of_toOption (by decide)
  have hbuild := build_of_inline (p := inSixZones everyZone) hcheck (ok_of_toOption (by decide))
    (by decide)
  have hcheck' : crowded.check Bootstrap.hostileFiles = .ok () := ok_of_toOption (by decide)
  have hname' : (inSixZones crowded).checkName = .ok () := ok_of_toOption (by decide)
  have hmode' : crowded.mode? = some .script := by decide
  have henc' : Bootstrap.encodeScript Bootstrap.hostileFiles crowded.bootScript = .ok "aWQK" :=
    ok_of_toOption (by decide)
  obtain ⟨_, hbuild'⟩ := build_of_script hcheck' hname' hmode' henc'
  obtain ⟨hgraph, hsame⟩ := resource_graph_fixed everyZone .empty (inSixZones everyZone) _ hbuild
  exact ⟨_, _, hbuild, hbuild', hgraph,
    hsame _ _ _ _ hbuild' (by decide) (by decide) (zoneNames_knowing _ rfl rfl) (by decide),
    length_natGateway _ _ _⟩

/-- Three of the zones have no gateway, though one is wanted in each of them. -/
theorem six_zones_three_gateways :
    ∃ t, (build everyZone .empty (inSixZones everyZone)).outcome = .ok t ∧
      ((resourcesOf t.document .natGateway).length : Int) = 3 ∧
      min everyZone.natGateways (availableZones (inSixZones everyZone)).length = 6 := by
  have hcheck : everyZone.check .empty = .ok () := ok_of_toOption (by decide)
  have hbuild := build_of_inline (p := inSixZones everyZone) hcheck (ok_of_toOption (by decide))
    (by decide)
  exact ⟨_, hbuild, congrArg Int.ofNat (length_natGateway _ _ _), by decide⟩

end EnclaveFleet.Stack
