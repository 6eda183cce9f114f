import EnclaveFleet.Proofs.Stack.LaunchedText

/-!
# What traffic reaches the hosts

The hosts let everyone in at the port of SSH and, where that is wanted, their own network in at the
port of the listener. Nothing keeps the two ports apart: a listener at the port of SSH is open to
everyone.

* `Opening`: a range of ports and who gets in there, as a document says it
* `openings?`: those of the one security group
* `networkAddresses?`: the addresses of the one network
* `openings_template`: the openings of a stack, one for each of its rules
* `listener_guarded_iff`: who gets in at the port of the listener
-/
namespace EnclaveFleet.Stack
set_option autoImplicit false

open Template

/-! ## Openings of a document -/

structure Opening where
  source : Json
  first : Int
  last : Int

def Opening.Covers (o : Opening) (port : Int) : Prop :=
  o.first ≤ port ∧ port ≤ o.last

def opening? (rule : Json) : Option Opening :=
  match rule.get? "CidrIp", rule.get? "FromPort", rule.get? "ToPort" with
  | some source, some (.int first), some (.int last) => some ⟨source, first, last⟩
  | _, _, _ => none

def openings? (document : Json) : Option (List Opening) :=
  match resourcesOf document .securityGroup with
  | [r] =>
    match r.at? ["Properties", "SecurityGroupIngress"] with
    | some (.array rules) => rules.mapM opening?
    | _ => none
  | _ => none

def networkAddresses? (document : Json) : Option Json :=
  match idsOf document .network with
  | [id] => some (intrinsic "Fn::GetAtt" (.array [.text id, .text "CidrBlock"]))
  | _ => none

/-- The addresses of everyone. -/
def everyone : Json := .text "0.0.0.0/0"

/-! ## Openings of a stack -/

/-- A rule opens one port. -/
def IngressRule.opening (r : IngressRule) : Opening :=
  ⟨r.source.value.document, r.port, r.port⟩

theorem covers_opening (r : IngressRule) (port : Int) :
    r.opening.Covers port ↔ r.port = port := by
  show r.port ≤ port ∧ port ≤ r.port ↔ r.port = port
  omega

theorem opening_document (r : IngressRule) : opening? r.value.document = some r.opening := rfl

theorem documents_eq_map (vs : List Value) : Value.documents vs = vs.map Value.document := by
  induction vs with
  | nil => rfl
  | cons v vs ih =>
    unfold Value.documents
    rw [ih, List.map_cons]

theorem mapM_opening (rules : List IngressRule) :
    (rules.map fun r => r.value.document).mapM opening? = some (rules.map IngressRule.opening) := by
  induction rules with
  | nil => rfl
  | cons r rules ih =>
    rw [List.map_cons, List.mapM_cons, opening_document, ih]
    rfl

theorem openings_template (s : Settings) (p : Placement) (d : Deferred) :
    openings? (template s p d).document = some ((ingressRules s).map IngressRule.opening) := by
  have hgroup : resourcesOf (template s p d).document .securityGroup =
      [(securityGroup s).document] := by
    rw [resourcesOf_template s p d (by decide)]
    rfl
  have hrules : (securityGroup s).document.at? ["Properties", "SecurityGroupIngress"] =
      some (.array (Value.documents ((ingressRules s).map IngressRule.value))) := rfl
  unfold openings?
  rw [hgroup]
  simp only [hrules, documents_eq_map, List.map_map]
  exact mapM_opening (ingressRules s)

theorem networkAddresses_template (s : Settings) (p : Placement) (d : Deferred) :
    networkAddresses? (template s p d).document =
      some (TrafficSource.value .network).document := by
  unfold networkAddresses?
  rw [idsOf_template, layoutOf, select_network]
  rfl

/-! ## The port of the listener -/

theorem mem_ingressRules {s : Settings} {r : IngressRule} :
    r ∈ ingressRules s ↔ r = ⟨.anywhere, sshPort, "Allow SSH access"⟩ ∨
      s.allowVpcHttps ∧
        r = ⟨.network, s.listenerPort, "Allow load balancer traffic from the VPC"⟩ := by
  unfold ingressRules
  cases s.allowVpcHttps <;> simp

/-- There is a rule for this source at the port of the listener. -/
def Admits (s : Settings) (source : TrafficSource) : Prop :=
  ∃ r ∈ ingressRules s, r.port = s.listenerPort ∧ r.source = source

theorem admits_network_iff (s : Settings) : Admits s .network ↔ s.allowVpcHttps := by
  constructor
  · rintro ⟨r, hr, _, hsource⟩
    obtain rfl | ⟨hallowed, _⟩ := mem_ingressRules.mp hr
    · cases hsource
    · exact hallowed
  · intro hallowed
    exact ⟨_, mem_ingressRules.mpr (.inr ⟨hallowed, rfl⟩), rfl, rfl⟩

theorem admits_anywhere_iff (s : Settings) : Admits s .anywhere ↔ s.listenerPort = sshPort := by
  constructor
  · rintro ⟨r, hr, hport, hsource⟩
    obtain rfl | ⟨_, rfl⟩ := mem_ingressRules.mp hr
    · exact hport.symm
    · cases hsource
  · intro hport
    exact ⟨_, mem_ingressRules.mpr (.inl rfl), hport.symm, rfl⟩

theorem network_ne_everyone : (TrafficSource.value .network).document ≠ everyone := nofun

/-- In a document the two sources can be told apart. -/
theorem document_source_inj {a b : TrafficSource} (h : a.value.document = b.value.document) :
    a = b := by
  cases a with
  | anywhere =>
    cases b with
    | anywhere => rfl
    | network => exact absurd h.symm network_ne_everyone
  | network =>
    cases b with
    | anywhere => exact absurd h network_ne_everyone
    | network => rfl

theorem admits_iff (s : Settings) (source : TrafficSource) :
    (∃ o ∈ (ingressRules s).map IngressRule.opening,
      o.Covers s.listenerPort ∧ o.source = source.value.document) ↔ Admits s source := by
  constructor
  · rintro ⟨o, ho, hcovers, hsource⟩
    obtain ⟨r, hr, rfl⟩ := List.mem_map.mp ho
    exact ⟨r, hr, (covers_opening r _).mp hcovers, document_source_inj hsource⟩
  · rintro ⟨r, hr, hport, rfl⟩
    exact ⟨r.opening, List.mem_map_of_mem hr, (covers_opening r _).mpr hport, rfl⟩

theorem source_of_opening {s : Settings} {o : Opening}
    (ho : o ∈ (ingressRules s).map IngressRule.opening) :
    ∃ source : TrafficSource, o.source = source.value.document := by
  obtain ⟨r, _, rfl⟩ := List.mem_map.mp ho
  exact ⟨r.source, rfl⟩

/-- At the port of the listener the network gets in where that is wanted, and everyone where it is
the port of SSH. -/
theorem listener_guarded_iff (s : Settings) (files : Tree) (p : Placement) (t : Template)
    (hbuild : (build s files p).outcome = .ok t) :
    ∃ openings network, openings? t.document = some openings ∧
      networkAddresses? t.document = some network ∧ network ≠ everyone ∧
      (∀ o ∈ openings, o.Covers s.listenerPort →
        o.source = network ∨ (o.source = everyone ∧ s.listenerPort = sshPort)) ∧
      ((∃ o ∈ openings, o.Covers s.listenerPort ∧ o.source = network) ↔ s.allowVpcHttps) ∧
      (((∀ o ∈ openings, o.Covers s.listenerPort → o.source = network) ∧
        ((∃ o ∈ openings, o.Covers s.listenerPort) ↔ s.allowVpcHttps)) ↔
          s.listenerPort ≠ sshPort) := by
  obtain ⟨_, _, d, _, rfl⟩ := build_eq_ok_iff.mp hbuild
  have heveryone := (admits_iff s .anywhere).trans (admits_anywhere_iff s)
  have hnetwork := (admits_iff s .network).trans (admits_network_iff s)
  have hsources : ∀ o ∈ (ingressRules s).map IngressRule.opening, o.Covers s.listenerPort →
      o.source = (TrafficSource.value .network).document ∨
        (o.source = everyone ∧ s.listenerPort = sshPort) := by
    intro o ho hcovers
    obtain ⟨source, hsource⟩ := source_of_opening ho
    cases source with
    | network => exact .inl hsource
    | anywhere => exact .inr ⟨hsource, heveryone.mp ⟨o, ho, hcovers, hsource⟩⟩
  refine ⟨_, _, openings_template s p d, networkAddresses_template s p d, network_ne_everyone,
    hsources, hnetwork, ?_⟩
  constructor
  · rintro ⟨hguarded, _⟩ hport
    obtain ⟨o, ho, hcovers, hsource⟩ := heveryone.mpr hport
    exact network_ne_everyone ((hguarded o ho hcovers).symm.trans hsource)
  · intro hport
    have hguarded : ∀ o ∈ (ingressRules s).map IngressRule.opening, o.Covers s.listenerPort →
        o.source = (TrafficSource.value .network).document := by
      intro o ho hcovers
      obtain hsource | ⟨_, hssh⟩ := hsources o ho hcovers
      · exact hsource
      · exact absurd hssh hport
    refine ⟨hguarded, ?_⟩
    rw [← hnetwork]
    constructor
    · rintro ⟨o, ho, hcovers⟩
      exact ⟨o, ho, hcovers, hguarded o ho hcovers⟩
    · rintro ⟨o, ho, hcovers, _⟩
      exact ⟨o, ho, hcovers⟩

/-! ## A listener at the port of SSH -/

def atAlternatePort : Settings where
  listenerPort := 8443

theorem listener_guarded_alternate :
    ∃ t openings network, (build atAlternatePort .empty (.ofSettings atAlternatePort)).outcome =
        .ok t ∧
      openings? t.document = some openings ∧ networkAddresses? t.document = some network ∧
      (∀ o ∈ openings, o.Covers 8443 → o.source = network) ∧ ∃ o ∈ openings, o.Covers 8443 := by
  have hcheck : atAlternatePort.check .empty = .ok () := ok_of_toOption (by decide)
  have hbuild := build_of_inline (p := .ofSettings atAlternatePort) hcheck
    (ok_of_toOption (by decide)) (by decide)
  obtain ⟨openings, network, hopenings, hnetwork, _, _, _, hguarded⟩ :=
    listener_guarded_iff atAlternatePort .empty (.ofSettings atAlternatePort) _ hbuild
  obtain ⟨hall, hsome⟩ := hguarded.mpr (by decide)
  exact ⟨_, openings, network, hbuild, hopenings, hnetwork, hall, hsome.mpr rfl⟩

def atSshPort : Settings where
  listenerPort := 22

/-- Settings that are accepted open the listener to everyone. -/
theorem ssh_listener_open_to_everyone :
    atSshPort.check .empty = .ok () ∧
    ∃ t openings network, (build atSshPort .empty (.ofSettings atSshPort)).outcome = .ok t ∧
      openings? t.document = some openings ∧ networkAddresses? t.document = some network ∧
      ∃ o ∈ openings, o.Covers 22 ∧ o.source = everyone ∧ o.source ≠ network := by
  have hcheck : atSshPort.check .empty = .ok () := ok_of_toOption (by decide)
  have hbuild := build_of_inline (p := .ofSettings atSshPort) hcheck (ok_of_toOption (by decide))
    (by decide)
  obtain ⟨o, ho, hcovers, hsource⟩ :=
    (admits_iff atSshPort .anywhere).mpr ((admits_anywhere_iff atSshPort).mpr rfl)
  refine ⟨hcheck, _, _, _, hbuild, openings_template _ _ _, networkAddresses_template _ _ _,
    o, ho, hcovers, hsource, ?_⟩
  rw [hsource]
  exact network_ne_everyone.symm

end EnclaveFleet.Stack
