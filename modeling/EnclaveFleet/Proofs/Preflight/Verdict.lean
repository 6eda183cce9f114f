import EnclaveFleet.Proofs.Preflight.Isolation

/-!
# Checks that pass

A check passes exactly when the services say so: the secret is an object with a value for every
configured key, and the instance type can hold enclaves and is offered. No other reply passes, nor
does a failure.

* `SecretStore.Holds`, `InstanceCatalogue.supports`, `InstanceCatalogue.offers`: what they say
* `Preflight.checkSecret_eq_ok_iff`, `Preflight.checkInstanceType_eq_ok_iff`: each check
* `Preflight.Consulted`: the ways in which the second one ends, with what it logs and calls
* `Preflight.confirmed`, `Preflight.refuted`: the results of a check
* `Preflight.settle_eq_ok_iff`: which of them comes out, if any
* `Preflight.all_passed_iff`: both checks
-/
namespace EnclaveFleet
set_option autoImplicit false

/-! ## What the services say -/

/-- A list whose first item is said to support enclaves. -/
def Json.declaresSupport : Json → Bool
  | .array (.object inner :: _) =>
    (Json.getLast? "NitroEnclavesSupport" inner).any (·.isText "supported")
  | _ => false

namespace InstanceCatalogue

def supports (catalogue : InstanceCatalogue) : Bool :=
  match catalogue.instanceTypes with
  | .ok (.object fields) => (Json.getLast? "InstanceTypes" fields).any Json.declaresSupport
  | _ => false

def offers (catalogue : InstanceCatalogue) : Bool :=
  match catalogue.offerings with
  | .ok (.object fields) => (Json.getLast? "InstanceTypeOfferings" fields).any Json.isFilled
  | _ => false

end InstanceCatalogue

namespace SecretStore

/-- The text of the secret is an object, and every key has a value in it. -/
def Holds (store : SecretStore) (levels : Nat) (keys : List String) : Prop :=
  ∃ text fields, store.text? = some text ∧ Preflight.readText levels text = .ok (.object fields) ∧
    ∀ key ∈ keys, ∃ j, Json.getLast? key fields = some j ∧ j.isFilled

theorem text_eq_some_iff {store : SecretStore} {text : String} :
    store.text? = some text ↔ ∃ fields, store.secretValue = .ok (.object fields) ∧
      Json.getLast? "SecretString" fields = some (.text text) := by
  unfold text?
  constructor
  · intro h
    split at h
    · next fields hreply =>
      split at h
      · next t ht =>
        cases h
        exact ⟨fields, hreply, ht⟩
      · cases h
    · cases h
  · rintro ⟨fields, hreply, ht⟩
    simp only [hreply, ht]

end SecretStore

namespace Preflight

variable {levels : Nat} {s : Settings} {catalogue : InstanceCatalogue}

/-- The result of a check that passes. -/
def confirmed (s : Settings) : Check → CheckResult
  | .secret =>
    ⟨Check.secret.name, true, s!"{s.secretName} has {s.secretKeys.length} required key(s)"⟩
  | .instanceType => ⟨Check.instanceType.name, true, s!"{s.instanceType} supports Nitro Enclaves"⟩

/-! ## The secret -/

theorem field_eq_ok_iff {body : Json} {name : String} {default j : Json} :
    (field body name default).outcome = .ok j ↔
      ∃ fields, body = .object fields ∧ (Json.getLast? name fields).getD default = j := by
  cases body <;> simp [field, Run.pure, Run.fail, Json.get?]

theorem secretFields_eq_ok_iff {text : Json} {fields : List (String × Json)} :
    (secretFields levels s text).outcome = .ok fields ↔
      ∃ t, text = .text t ∧ readText levels t = .ok (.object fields) := by
  constructor
  · intro h
    unfold secretFields at h
    split at h
    · cases h
    · next t =>
      refine ⟨t, rfl, ?_⟩
      split at h
      · cases h
      · cases h
      · cases h
      · next read hread =>
        cases h
        exact hread
      · cases h
    · cases h
  · rintro ⟨t, rfl, hread⟩
    rw [secretFields_object hread]
    rfl

theorem hasKey_iff {fields : List (String × Json)} {key : String} :
    hasKey fields key ↔ ∃ j, Json.getLast? key fields = some j ∧ j.isFilled :=
  Option.any_eq_true _ _

theorem missing_eq_nil_iff {keys : List String} {fields : List (String × Json)} :
    keys.filter (!hasKey fields ·) = [] ↔
      ∀ key ∈ keys, ∃ j, Json.getLast? key fields = some j ∧ j.isFilled := by
  rw [List.filter_eq_nil_iff]
  refine forall₂_congr fun key _ => ?_
  rw [Bool.not_eq_true, Bool.not_eq_false', hasKey_iff]

theorem conclude_eq_ok_iff {missing : List String} {result : CheckResult} :
    (conclude s missing).outcome = .ok result ↔ missing = [] ∧ result = confirmed s .secret := by
  cases missing with
  | nil =>
    have hpassed : (conclude s []).outcome = .ok (confirmed s .secret) := rfl
    rw [hpassed, Except.ok.injEq, and_iff_right rfl, eq_comm]
  | cons key missing => exact iff_of_false nofun nofun

theorem judge_eq_ok_iff {text : Json} {result : CheckResult} :
    (judge levels s text).outcome = .ok result ↔ result = confirmed s .secret ∧
      ∃ t fields, text = .text t ∧ readText levels t = .ok (.object fields) ∧
        ∀ key ∈ s.secretKeys, ∃ j, Json.getLast? key fields = some j ∧ j.isFilled := by
  rw [judge, Run.bind_eq_ok_iff]
  simp only [secretFields_eq_ok_iff, conclude_eq_ok_iff, missing_eq_nil_iff]
  constructor
  · rintro ⟨fields, ⟨t, htext, hread⟩, hkeys, hresult⟩
    exact ⟨hresult, t, fields, htext, hread, hkeys⟩
  · rintro ⟨hresult, t, fields, htext, hread, hkeys⟩
    exact ⟨fields, ⟨t, htext, hread⟩, hkeys, hresult⟩

theorem checkSecret_eq_ok_iff {access : Access SecretStore} {result : CheckResult} :
    (checkSecret levels s access).outcome = .ok result ↔ result = confirmed s .secret ∧
      ∃ store, access.client? = some store ∧ store.Holds levels s.secretKeys := by
  rw [checkSecret_eq]
  simp only [Run.bind_eq_ok_iff, connect_eq_ok_iff, ask_eq_ok_iff, field_eq_ok_iff,
    judge_eq_ok_iff]
  constructor
  · rintro ⟨store, hclient, body, hreply, j, ⟨outer, rfl, hj⟩, hresult, t, fields, rfl, hread,
      hkeys⟩
    refine ⟨hresult, store, hclient, t, fields, ?_, hread, hkeys⟩
    refine SecretStore.text_eq_some_iff.mpr ⟨outer, hreply, ?_⟩
    cases hfound : Json.getLast? "SecretString" outer with
    | none =>
      rw [hfound] at hj
      cases hj
    | some found =>
      rw [hfound] at hj
      exact congrArg some hj
  · rintro ⟨hresult, store, hclient, t, fields, ht, hread, hkeys⟩
    obtain ⟨outer, hreply, hfound⟩ := SecretStore.text_eq_some_iff.mp ht
    refine ⟨store, hclient, _, hreply, .text t, ⟨outer, rfl, ?_⟩, hresult, t, fields, rfl, hread,
      hkeys⟩
    rw [hfound, Option.getD_some]

/-! ## The instance type -/

theorem ask_bind_of_ok {α : Type} (c : Call) (body : Json) (refusal : String → Refusal)
    (f : Json → Run α) : (ask c (.ok body) refusal).bind f =
      ⟨(f body).outcome, (f body).logs, c :: (f body).calls⟩ := rfl

theorem ask_bind_of_error {α : Type} (c : Call) (fault : CloudFault) (refusal : String → Refusal)
    (f : Json → Run α) : ∃ e, (ask c (.error fault) refusal).bind f = ⟨.error e, [], [c]⟩ := by
  cases fault <;> exact ⟨_, rfl⟩

theorem field_cases (body : Json) (name : String) (default : Json) :
    (∃ fields, body = .object fields) ∨ ∃ e, field body name default = .fail e := by
  cases body with
  | object fields => exact .inl ⟨fields, rfl⟩
  | _ => exact .inr ⟨_, rfl⟩

theorem getD_isFilled (found : Option Json) :
    (found.getD .null).isFilled = found.any Json.isFilled := by
  cases found <;> rfl

theorem offer_of_offers (h : catalogue.offers) :
    ∃ record, offer s catalogue =
      ⟨.ok (confirmed s .instanceType), [record], [.describeOfferings s.instanceType]⟩ := by
  unfold InstanceCatalogue.offers at h
  split at h
  · next fields hreply =>
    rw [offer, hreply, ask_bind_of_ok, field_object, Run.pure_bind, getD_isFilled, h]
    exact ⟨_, rfl⟩
  · cases h

theorem offer_of_not (h : catalogue.offers = false) :
    ∃ e, offer s catalogue = ⟨.error e, [], [.describeOfferings s.instanceType]⟩ := by
  unfold InstanceCatalogue.offers at h
  rw [offer]
  cases hreply : catalogue.offerings with
  | error fault => exact ask_bind_of_error _ _ _ _
  | ok body =>
    rw [ask_bind_of_ok]
    obtain ⟨fields, rfl⟩ | ⟨e, he⟩ := field_cases body "InstanceTypeOfferings" .null
    · have hempty : (Json.getLast? "InstanceTypeOfferings" fields).any Json.isFilled = false := by
        rw [hreply] at h
        exact h
      rw [field_object, Run.pure_bind, getD_isFilled, hempty]
      exact ⟨_, rfl⟩
    · rw [he, Run.fail_bind]
      exact ⟨e, rfl⟩

theorem getD_isText (found : Option Json) :
    (found.getD (.text "unsupported")).isText "supported" = found.any (·.isText "supported") := by
  cases found with
  | none => decide
  | some j => rfl

theorem inspect_of_declares {types : Json} (h : types.declaresSupport) :
    inspect s catalogue types = offer s catalogue := by
  unfold Json.declaresSupport at h
  split at h
  · next inner rest =>
    have hfilled : (Json.array (.object inner :: rest)).isFilled = true := rfl
    rw [inspect, hfilled, firstItem, Run.pure_bind, field_object, Run.pure_bind, getD_isText, h]
    rfl
  · cases h

theorem inspect_of_not {types : Json} (h : types.declaresSupport = false) :
    ∃ e, inspect s catalogue types = .fail e := by
  rw [inspect]
  split
  · exact ⟨_, rfl⟩
  · next hfilled =>
    cases types with
    | array items =>
      cases items with
      | nil => exact absurd rfl hfilled
      | cons item rest =>
        rw [firstItem, Run.pure_bind]
        obtain ⟨inner, rfl⟩ | ⟨e, he⟩ :=
          field_cases item "NitroEnclavesSupport" (.text "unsupported")
        · have hsupport : (Json.getLast? "NitroEnclavesSupport" inner).any
            (·.isText "supported") = false := h
          rw [field_object, Run.pure_bind, getD_isText, hsupport]
          exact ⟨_, rfl⟩
        · rw [he, Run.fail_bind]
          exact ⟨e, rfl⟩
    | _ => exact ⟨_, rfl⟩

/-- What is asked of a catalogue. -/
def consult (s : Settings) (catalogue : InstanceCatalogue) : Run CheckResult :=
  (ask (.describeInstanceTypes s.instanceType) catalogue.instanceTypes
    (.typeRejected s.instanceType)).bind fun body =>
  (field body "InstanceTypes" (.array [])).bind fun types => inspect s catalogue types

theorem getD_declaresSupport (found : Option Json) :
    (found.getD (.array [])).declaresSupport = found.any Json.declaresSupport := by
  cases found <;> rfl

theorem consult_of_supports (h : catalogue.supports) :
    consult s catalogue = ⟨(offer s catalogue).outcome, (offer s catalogue).logs,
      .describeInstanceTypes s.instanceType :: (offer s catalogue).calls⟩ := by
  unfold InstanceCatalogue.supports at h
  split at h
  · next fields hreply =>
    rw [← getD_declaresSupport] at h
    rw [consult, hreply, ask_bind_of_ok, field_object, Run.pure_bind, inspect_of_declares h]
  · cases h

theorem consult_of_not (h : catalogue.supports = false) :
    ∃ e, consult s catalogue = ⟨.error e, [], [.describeInstanceTypes s.instanceType]⟩ := by
  unfold InstanceCatalogue.supports at h
  rw [consult]
  cases hreply : catalogue.instanceTypes with
  | error fault => exact ask_bind_of_error _ _ _ _
  | ok body =>
    rw [ask_bind_of_ok]
    obtain ⟨fields, rfl⟩ | ⟨e, he⟩ := field_cases body "InstanceTypes" (.array [])
    · have hnone : (Json.getLast? "InstanceTypes" fields).any Json.declaresSupport = false := by
        rw [hreply] at h
        exact h
      rw [← getD_declaresSupport] at hnone
      obtain ⟨e, he⟩ : ∃ e, inspect s catalogue _ = .fail e := inspect_of_not hnone
      rw [field_object, Run.pure_bind, he]
      exact ⟨e, rfl⟩
    · rw [he, Run.fail_bind]
      exact ⟨e, rfl⟩

/-- The ways in which a catalogue is asked: it supports the type and offers it, it supports it only,
or it does not. -/
inductive Consulted (s : Settings) (catalogue : InstanceCatalogue) : Run CheckResult → Prop
  | offered (record : LogRecord) (hsupports : catalogue.supports) (hoffers : catalogue.offers) :
    Consulted s catalogue ⟨.ok (confirmed s .instanceType), [record],
      [.describeInstanceTypes s.instanceType, .describeOfferings s.instanceType]⟩
  | notOffered (e : Failure) (hsupports : catalogue.supports)
      (hoffers : catalogue.offers = false) :
    Consulted s catalogue ⟨.error e, [],
      [.describeInstanceTypes s.instanceType, .describeOfferings s.instanceType]⟩
  | unsupported (e : Failure) (hsupports : catalogue.supports = false) :
    Consulted s catalogue ⟨.error e, [], [.describeInstanceTypes s.instanceType]⟩

theorem consulted (s : Settings) (catalogue : InstanceCatalogue) :
    Consulted s catalogue (consult s catalogue) := by
  cases hsupports : catalogue.supports with
  | false =>
    obtain ⟨e, he⟩ := consult_of_not (s := s) hsupports
    rw [he]
    exact .unsupported e hsupports
  | true =>
    rw [consult_of_supports hsupports]
    cases hoffers : catalogue.offers with
    | false =>
      obtain ⟨e, he⟩ := offer_of_not (s := s) hoffers
      rw [he]
      exact .notOffered e hsupports hoffers
    | true =>
      obtain ⟨record, hoffer⟩ := offer_of_offers (s := s) hoffers
      rw [hoffer]
      exact .offered record hsupports hoffers

theorem consult_eq_ok_iff {result : CheckResult} :
    (consult s catalogue).outcome = .ok result ↔ result = confirmed s .instanceType ∧
      catalogue.supports ∧ catalogue.offers := by
  have hconsulted := consulted s catalogue
  generalize consult s catalogue = r at hconsulted ⊢
  cases hconsulted with
  | offered record hsupports hoffers =>
    rw [Except.ok.injEq, eq_comm, hsupports, hoffers, and_iff_left ⟨rfl, rfl⟩]
  | notOffered e _ hoffers => simp [hoffers]
  | unsupported e hsupports => simp [hsupports]

theorem checkInstanceType_eq_consult (s : Settings) (access : Access InstanceCatalogue) :
    checkInstanceType s access = (connect .instances s.region access).bind (consult s) := rfl

theorem checkInstanceType_eq_ok_iff {access : Access InstanceCatalogue} {result : CheckResult} :
    (checkInstanceType s access).outcome = .ok result ↔ result = confirmed s .instanceType ∧
      ∃ catalogue, access.client? = some catalogue ∧ catalogue.supports ∧ catalogue.offers := by
  rw [checkInstanceType_eq_consult, Run.bind_eq_ok_iff]
  simp only [connect_eq_ok_iff, consult_eq_ok_iff]
  constructor
  · rintro ⟨catalogue, hclient, hresult, hconfirms⟩
    exact ⟨hresult, catalogue, hclient, hconfirms⟩
  · rintro ⟨hresult, catalogue, hclient, hconfirms⟩
    exact ⟨catalogue, hclient, hresult, hconfirms⟩

/-! ## Results -/

/-- The result of a check that fails in a way that is told. -/
def refuted (check : Check) : Failure → CheckResult
  | .preflight refusal => ⟨check.name, false, refusal.message⟩
  | e => ⟨check.name, false, "AWS error: " ++ e.message⟩

theorem passed_refuted (check : Check) (e : Failure) : (refuted check e).passed = false := by
  cases e <;> rfl

theorem name_refuted (check : Check) (e : Failure) : (refuted check e).name = check.name := by
  cases e <;> rfl

theorem calls_settle (check : Check) (r : Run CheckResult) :
    (settle check r).calls = r.calls := by
  unfold settle Run.orElse
  split
  · rfl
  · refine (congrArg (r.calls ++ ·) ?_).trans (List.append_nil _)
    dsimp only
    split
    · rfl
    · split <;> rfl

section

variable {check : Check} {r : Run CheckResult} {e : Failure}

theorem settle_of_ok {result : CheckResult} (h : r.outcome = .ok result) :
    settle check r = r := by
  rw [settle, Run.orElse, h]

theorem settle_of_told (he : r.outcome = .error e) (htold : Told e) :
    (settle check r).outcome = .ok (refuted check e) := by
  rw [settle, Run.orElse, he]
  cases htold <;> rfl

theorem settle_of_untold (he : r.outcome = .error e) (huntold : ¬Told e) :
    (settle check r).outcome = .error e := by
  rw [settle, Run.orElse, he]
  cases e with
  | preflight refusal => exact absurd (.refused refusal) huntold
  | cloud fault =>
    cases fault with
    | rejected rejection => exact absurd (.rejected rejection) huntold
    | connection c => exact absurd (.unreached c) huntold
    | _ => rfl
  | _ => rfl

theorem settle_eq_ok_iff {result : CheckResult} :
    (settle check r).outcome = .ok result ↔
      r.outcome = .ok result ∨ ∃ e, r.outcome = .error e ∧ Told e ∧ result = refuted check e := by
  cases houtcome : r.outcome with
  | ok found =>
    rw [settle_of_ok houtcome, houtcome]
    simp
  | error e =>
    by_cases htold : Told e
    · rw [settle_of_told houtcome htold]
      simp [htold, eq_comm]
    · rw [settle_of_untold houtcome htold]
      simp [htold]

/-- A result that was made of a failure does not pass. -/
theorem outcome_of_passed {result : CheckResult} (h : (settle check r).outcome = .ok result)
    (hpassed : result.passed) : r.outcome = .ok result := by
  obtain hok | ⟨e, _, _, rfl⟩ := settle_eq_ok_iff.mp h
  · exact hok
  · rw [passed_refuted] at hpassed
    cases hpassed

end

/-! ## Both checks -/

theorem run_eq_ok_iff {cloud : Cloud} {results : List CheckResult} :
    (run levels s cloud).outcome = .ok results ↔ ∃ first second,
      (settle .secret (checkSecret levels s cloud.secrets)).outcome = .ok first ∧
      (settle .instanceType (checkInstanceType s cloud.instances)).outcome = .ok second ∧
      results = [first, second] := by
  rw [run_eq]
  simp only [Run.bind_eq_ok_iff]
  constructor
  · rintro ⟨first, hfirst, second, hsecond, hresults⟩
    exact ⟨first, second, hfirst, hsecond, (Except.ok.inj hresults).symm⟩
  · rintro ⟨first, second, hfirst, hsecond, rfl⟩
    exact ⟨first, hfirst, second, hsecond, rfl⟩

/-- Nothing but what the services say makes both checks pass. -/
theorem all_passed_iff {cloud : Cloud} {results : List CheckResult} :
    ((run levels s cloud).outcome = .ok results ∧ ∀ result ∈ results, result.passed) ↔
      results = [confirmed s .secret, confirmed s .instanceType] ∧
      (∃ store, cloud.secrets.client? = some store ∧ store.Holds levels s.secretKeys) ∧
      ∃ catalogue, cloud.instances.client? = some catalogue ∧ catalogue.supports ∧
        catalogue.offers := by
  constructor
  · rintro ⟨hrun, hpassed⟩
    obtain ⟨first, second, hfirst, hsecond, rfl⟩ := run_eq_ok_iff.mp hrun
    obtain ⟨hfirstPassed, hsecondPassed⟩ : first.passed ∧ second.passed := by simpa using hpassed
    obtain ⟨rfl, hstore⟩ := checkSecret_eq_ok_iff.mp (outcome_of_passed hfirst hfirstPassed)
    obtain ⟨rfl, hcatalogue⟩ :=
      checkInstanceType_eq_ok_iff.mp (outcome_of_passed hsecond hsecondPassed)
    exact ⟨rfl, hstore, hcatalogue⟩
  · rintro ⟨rfl, hstore, hcatalogue⟩
    have hfirst : (settle .secret (checkSecret levels s cloud.secrets)).outcome =
        .ok (confirmed s .secret) :=
      settle_eq_ok_iff.mpr (.inl (checkSecret_eq_ok_iff.mpr ⟨rfl, hstore⟩))
    have hsecond : (settle .instanceType (checkInstanceType s cloud.instances)).outcome =
        .ok (confirmed s .instanceType) :=
      settle_eq_ok_iff.mpr (.inl (checkInstanceType_eq_ok_iff.mpr ⟨rfl, hcatalogue⟩))
    refine ⟨run_eq_ok_iff.mpr ⟨_, _, hfirst, hsecond, rfl⟩, fun result hresult => ?_⟩
    obtain rfl | rfl : result = confirmed s .secret ∨ result = confirmed s .instanceType := by
      simpa using hresult
    · rfl
    · rfl

end Preflight
end EnclaveFleet
