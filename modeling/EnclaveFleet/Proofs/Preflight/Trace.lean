import EnclaveFleet.Proofs.Preflight.Verdict

/-!
# What the checks ask for

The checks only read. What they ask depends on nothing but on whether a client was at hand or could
be made, and on what the first question about the instance type was answered.

* `Preflight.askedOf`: the questions to a client, behind the attempt to make one
* `Preflight.secretTrace`, `Preflight.instanceTrace`: the calls of each check
* `Preflight.calls_checkSecret`, `Preflight.calls_checkInstanceType`: no others are made
* `Preflight.Escapes`: the first check ends in a failure that no result is made of
* `Preflight.run_asks_lawfully`: the calls of both checks, and what the last one is for
-/
namespace EnclaveFleet.Preflight
set_option autoImplicit false

variable {α β : Type} {levels : Nat}

/-! ## Traces -/

/-- A client is made where none is given, and there are questions where there is a client. -/
def askedOf (service : Service) (region : Option String) (questions : α → List Call) :
    Access α → List Call
  | .given client => questions client
  | .made (.ok client) => .client service region :: questions client
  | .made (.error _) => [.client service region]

def secretTrace (s : Settings) : Access SecretStore → List Call :=
  askedOf .secrets s.region fun _ => [.getSecretValue s.secretName]

def instanceTrace (s : Settings) : Access InstanceCatalogue → List Call :=
  askedOf .instances s.region fun catalogue =>
    .describeInstanceTypes s.instanceType ::
      if catalogue.supports then [.describeOfferings s.instanceType] else []

/-! ## Each check -/

theorem calls_connect_bind (service : Service) (region : Option String) (access : Access α)
    (f : α → Run β) : ((connect service region access).bind f).calls =
      askedOf service region (fun client => (f client).calls) access := by
  cases access with
  | given client =>
    rw [connect, Run.pure_bind]
    rfl
  | made outcome =>
    cases outcome with
    | ok client => rfl
    | error fault => rfl

theorem calls_ask (c : Call) (reply : Reply) (refusal : String → Refusal) :
    (ask c reply refusal).calls = [c] := rfl

theorem calls_checkSecret (levels : Nat) (s : Settings) (access : Access SecretStore) :
    (checkSecret levels s access).calls = secretTrace s access := by
  have hread : ∀ body, ((field body "SecretString" .null).bind fun text =>
      judge levels s text).calls = [] := by
    intro body
    rw [Run.calls_bind_of_nil _ (calls_judge levels s), calls_field]
  rw [checkSecret_eq, calls_connect_bind, secretTrace]
  congr 1
  funext store
  rw [Run.calls_bind_of_nil _ hread, calls_ask]

theorem calls_consult (s : Settings) (catalogue : InstanceCatalogue) :
    (consult s catalogue).calls = .describeInstanceTypes s.instanceType ::
      if catalogue.supports then [.describeOfferings s.instanceType] else [] := by
  have hconsulted := consulted s catalogue
  generalize consult s catalogue = r at hconsulted ⊢
  cases hconsulted with
  | offered _ hsupports _ => rw [hsupports, if_pos rfl]
  | notOffered _ hsupports _ => rw [hsupports, if_pos rfl]
  | unsupported _ hsupports => rw [hsupports, if_neg (by decide)]

theorem calls_checkInstanceType (s : Settings) (access : Access InstanceCatalogue) :
    (checkInstanceType s access).calls = instanceTrace s access := by
  rw [checkInstanceType_eq_consult, calls_connect_bind, instanceTrace]
  congr 1
  funext catalogue
  exact calls_consult s catalogue

/-! ## Both checks -/

/-- The check ends in a failure that no result is made of. -/
def Escapes (r : Run CheckResult) : Prop := ∃ e, r.outcome = .error e ∧ ¬Told e

theorem run_of_escapes {s : Settings} {cloud : Cloud}
    (h : Escapes (checkSecret levels s cloud.secrets)) :
    (run levels s cloud).calls = secretTrace s cloud.secrets ∧ ∀ results,
      (run levels s cloud).outcome ≠ .ok results := by
  obtain ⟨e, he, huntold⟩ := h
  have hsettle : (settle .secret (checkSecret levels s cloud.secrets)).outcome = .error e :=
    settle_of_untold he huntold
  have hcalls := (calls_settle .secret (checkSecret levels s cloud.secrets)).trans
    (calls_checkSecret levels s cloud.secrets)
  rw [run_eq, Run.bind, hsettle]
  exact ⟨hcalls, by simp⟩

theorem exists_of_not_escapes {check : Check} {r : Run CheckResult} (h : ¬Escapes r) :
    ∃ result, (settle check r).outcome = .ok result := by
  cases houtcome : r.outcome with
  | ok result => exact ⟨result, settle_eq_ok_iff.mpr (.inl houtcome)⟩
  | error e =>
    by_cases htold : Told e
    · exact ⟨_, settle_of_told houtcome htold⟩
    · exact absurd ⟨e, houtcome, htold⟩ h

theorem calls_run_of_not {s : Settings} {cloud : Cloud}
    (h : ¬Escapes (checkSecret levels s cloud.secrets)) :
    (run levels s cloud).calls = secretTrace s cloud.secrets ++ instanceTrace s cloud.instances := by
  obtain ⟨first, hfirst⟩ : ∃ first,
      (settle .secret (checkSecret levels s cloud.secrets)).outcome = .ok first :=
    exists_of_not_escapes h
  rw [run_eq, Run.calls_bind _ _ first hfirst, Run.calls_bind_of_nil _ fun _ => rfl, calls_settle,
    calls_settle, calls_checkSecret, calls_checkInstanceType]

theorem not_escapes_of_ok {s : Settings} {cloud : Cloud} {results : List CheckResult}
    (h : (run levels s cloud).outcome = .ok results) :
    ¬Escapes (checkSecret levels s cloud.secrets) :=
  fun hescapes => (run_of_escapes hescapes).2 results h

theorem offerings_notMem_secretTrace (s : Settings) (access : Access SecretStore)
    (instanceType : String) : .describeOfferings instanceType ∉ secretTrace s access := by
  cases access with
  | given store => simp [secretTrace, askedOf]
  | made outcome => cases outcome <;> simp [secretTrace, askedOf]

theorem offerings_mem_instanceTrace_iff {s : Settings} {access : Access InstanceCatalogue} :
    .describeOfferings s.instanceType ∈ instanceTrace s access ↔
      ∃ catalogue, access.client? = some catalogue ∧ catalogue.supports := by
  cases access with
  | given catalogue => simp [instanceTrace, askedOf, Access.client?]
  | made outcome => cases outcome <;> simp [instanceTrace, askedOf, Access.client?]

theorem nodup_askedOf {service : Service} {region : Option String} {questions : α → List Call}
    (h : ∀ client, (Call.client service region :: questions client).Nodup) (access : Access α) :
    (askedOf service region questions access).Nodup := by
  cases access with
  | given client => exact (List.nodup_cons.mp (h client)).2
  | made outcome =>
    cases outcome with
    | ok client => exact h client
    | error fault => simp [askedOf]

theorem nodup_secretTrace (s : Settings) (access : Access SecretStore) :
    (secretTrace s access).Nodup :=
  nodup_askedOf (fun _ => by simp) access

theorem nodup_instanceTrace (s : Settings) (access : Access InstanceCatalogue) :
    (instanceTrace s access).Nodup := by
  refine nodup_askedOf (fun catalogue => ?_) access
  cases catalogue.supports <;> simp

/-- The two checks turn to different services. -/
theorem nodup_trace (levels : Nat) (s : Settings) (cloud : Cloud) :
    (secretTrace s cloud.secrets ++ instanceTrace s cloud.instances).Nodup := by
  refine List.nodup_append.mpr ⟨nodup_secretTrace s _, nodup_instanceTrace s _, ?_⟩
  rintro c hc d hd rfl
  rw [← calls_checkSecret levels] at hc
  rw [← calls_checkInstanceType] at hd
  have hservice : Service.secrets = Service.instances :=
    (callsOnly_checkSecret levels s cloud.secrets c hc).symm.trans
      (callsOnly_checkInstanceType s cloud.instances c hd)
  cases hservice

theorem name_eq_of_settle {check : Check} {r : Run CheckResult} {result : CheckResult}
    (hr : ∀ found, r.outcome = .ok found → found.name = check.name)
    (h : (settle check r).outcome = .ok result) : result.name = check.name := by
  obtain hok | ⟨e, _, _, rfl⟩ := settle_eq_ok_iff.mp h
  · exact hr result hok
  · exact name_refuted check e

theorem offerings_mem_calls_iff {s : Settings} {cloud : Cloud} :
    .describeOfferings s.instanceType ∈ (run levels s cloud).calls ↔
      ¬Escapes (checkSecret levels s cloud.secrets) ∧
        ∃ catalogue, cloud.instances.client? = some catalogue ∧ catalogue.supports := by
  by_cases hescapes : Escapes (checkSecret levels s cloud.secrets)
  · rw [(run_of_escapes hescapes).1]
    exact iff_of_false (offerings_notMem_secretTrace s _ _) fun h => h.1 hescapes
  · rw [calls_run_of_not hescapes, List.mem_append, offerings_mem_instanceTrace_iff,
      or_iff_right (offerings_notMem_secretTrace s _ _), and_iff_right hescapes]

theorem instanceType_passed_iff {s : Settings} {cloud : Cloud} :
    (∃ results result, (run levels s cloud).outcome = .ok results ∧ result ∈ results ∧
        result.name = Check.instanceType.name ∧ result.passed) ↔
      ¬Escapes (checkSecret levels s cloud.secrets) ∧ ∃ catalogue,
        cloud.instances.client? = some catalogue ∧ catalogue.supports ∧ catalogue.offers := by
  constructor
  · rintro ⟨results, result, hrun, hmem, hname, hpassed⟩
    refine ⟨not_escapes_of_ok hrun, ?_⟩
    obtain ⟨first, second, hfirst, hsecond, rfl⟩ := run_eq_ok_iff.mp hrun
    have hfirstName : first.name = Check.secret.name := by
      refine name_eq_of_settle (fun found hfound => ?_) hfirst
      rw [(checkSecret_eq_ok_iff.mp hfound).1]
      rfl
    obtain rfl | rfl : result = first ∨ result = second := by simpa using hmem
    · exact absurd (hfirstName.symm.trans hname) (by decide)
    · exact (checkInstanceType_eq_ok_iff.mp (outcome_of_passed hsecond hpassed)).2
  · rintro ⟨hescapes, hcatalogue⟩
    obtain ⟨first, hfirst⟩ : ∃ first,
        (settle .secret (checkSecret levels s cloud.secrets)).outcome = .ok first :=
      exists_of_not_escapes hescapes
    have hsecond : (settle .instanceType (checkInstanceType s cloud.instances)).outcome =
        .ok (confirmed s .instanceType) :=
      settle_eq_ok_iff.mpr (.inl (checkInstanceType_eq_ok_iff.mpr ⟨rfl, hcatalogue⟩))
    exact ⟨_, confirmed s .instanceType, run_eq_ok_iff.mpr ⟨first, _, hfirst, hsecond, rfl⟩,
      by simp, rfl, rfl⟩

/-- Every call in the order in which it is made, none of them twice, whatever the services do. -/
theorem run_asks_lawfully (levels : Nat) (s : Settings) (cloud : Cloud) :
    (Escapes (checkSecret levels s cloud.secrets) →
      (run levels s cloud).calls = secretTrace s cloud.secrets) ∧
    (¬Escapes (checkSecret levels s cloud.secrets) →
      (run levels s cloud).calls = secretTrace s cloud.secrets ++ instanceTrace s cloud.instances) ∧
    (run levels s cloud).calls.Nodup ∧
    ((∃ results result, (run levels s cloud).outcome = .ok results ∧ result ∈ results ∧
        result.name = Check.instanceType.name ∧ result.passed) ↔
      .describeOfferings s.instanceType ∈ (run levels s cloud).calls ∧
        ∃ catalogue, cloud.instances.client? = some catalogue ∧ catalogue.offers) := by
  refine ⟨fun h => (run_of_escapes h).1, calls_run_of_not, ?_, ?_⟩
  · by_cases hescapes : Escapes (checkSecret levels s cloud.secrets)
    · rw [(run_of_escapes hescapes).1]
      exact nodup_secretTrace s _
    · rw [calls_run_of_not hescapes]
      exact nodup_trace levels s cloud
  · rw [instanceType_passed_iff, offerings_mem_calls_iff, and_assoc]
    refine and_congr_right fun _ => ⟨?_, ?_⟩
    · rintro ⟨catalogue, hclient, hsupports, hoffers⟩
      exact ⟨⟨catalogue, hclient, hsupports⟩, catalogue, hclient, hoffers⟩
    · rintro ⟨⟨catalogue, hclient, hsupports⟩, asked, hasked, hoffers⟩
      cases hclient.symm.trans hasked
      exact ⟨catalogue, hclient, hsupports, hoffers⟩

end EnclaveFleet.Preflight
