import EnclaveFleet.Proofs.Json.Limits
import EnclaveFleet.Proofs.Preflight.Secrecy

/-!
# Checks do not stop each other

The services answer in the shapes that they promise, reject a call or are not reached. Then each
check ends in one result and one record, and the second one does not depend on the first. There is
one exception: the text of a secret can hold an integer or a depth that the reader gives up at. That
is no failure of a check, and it ends the run.

* `Access.Behaves`, `SecretStore.Behaves`, `InstanceCatalogue.Behaves`: what the services do
* `CallsOnly`: the service that a check turns to
* `Silent`, `Reports`, `Reports.bind`: parts of a check, and a check that ends in a result with a
  record or in a failure that is told
* `Preflight.abandoned?`: the failure that the text of a secret ends the run with
* `Preflight.checks_stop_nothing`: both results with their records, and the run that is ended
* `Preflight.givenUp_of_digits`, `Preflight.givenUp_of_brackets`: texts that end it
-/
namespace EnclaveFleet
set_option autoImplicit false

/-! ## Services that behave -/

/-- A reply of the shape, a rejection, or no reply for want of a connection. -/
inductive Reply.Behaves (shape : Json → Prop) : Reply → Prop
  | answered {body : Json} (h : shape body) : Behaves shape (.ok body)
  | rejected (r : Rejection) : Behaves shape (.error (.rejected r))
  | unreached (c : ConnectionFault) : Behaves shape (.error (.connection c))

/-- A client that behaves, or none for want of a connection. -/
inductive Access.Behaves {client : Type} (good : client → Prop) : Access client → Prop
  | given {c : client} (h : good c) : Behaves good (.given c)
  | made {c : client} (h : good c) : Behaves good (.made (.ok c))
  | unmade (e : ConnectionFault) : Behaves good (.made (.error (.connection e)))

/-- An object whose text of the secret is absent, null or any text. -/
def SecretStore.Shape (body : Json) : Prop :=
  ∃ fields, body = .object fields ∧ ∀ j, Json.getLast? "SecretString" fields = some j →
    j = .null ∨ ∃ text, j = .text text

/-- An object whose instance types are absent or a list of objects. -/
def InstanceCatalogue.TypesShape (body : Json) : Prop :=
  ∃ fields, body = .object fields ∧ ∀ j, Json.getLast? "InstanceTypes" fields = some j →
    ∃ items, j = .array items ∧ ∀ item ∈ items, ∃ inner, item = .object inner

/-- An object whose offerings are absent or a list. -/
def InstanceCatalogue.OfferingsShape (body : Json) : Prop :=
  ∃ fields, body = .object fields ∧ ∀ j, Json.getLast? "InstanceTypeOfferings" fields = some j →
    ∃ items, j = .array items

def SecretStore.Behaves (store : SecretStore) : Prop :=
  Reply.Behaves SecretStore.Shape store.secretValue

structure InstanceCatalogue.Behaves (catalogue : InstanceCatalogue) : Prop where
  instanceTypes : Reply.Behaves TypesShape catalogue.instanceTypes
  offerings : Reply.Behaves OfferingsShape catalogue.offerings

def Access.client? {client : Type} : Access client → Option client
  | .given c | .made (.ok c) => some c
  | .made (.error _) => none

/-- The text of the secret, where the store replies with one. -/
def SecretStore.text? (store : SecretStore) : Option String :=
  match store.secretValue with
  | .ok (.object fields) =>
    match Json.getLast? "SecretString" fields with
    | some (.text text) => some text
    | _ => none
  | _ => none

/-! ## The service that a call goes to -/

def Call.service : Call → Service
  | .client service _ => service
  | .getSecretValue _ => .secrets
  | .describeInstanceTypes _ | .describeOfferings _ => .instances

theorem Run.mem_calls_bind {α β : Type} {r : Run α} {f : α → Run β} {c : Call}
    (h : c ∈ (r.bind f).calls) : c ∈ r.calls ∨ ∃ a, c ∈ (f a).calls := by
  cases ha : r.outcome with
  | error e =>
    rw [Run.bind, ha] at h
    exact .inl h
  | ok a =>
    rw [Run.calls_bind r f a ha, List.mem_append] at h
    exact h.imp_right fun hf => ⟨a, hf⟩

namespace Preflight

variable {α β : Type} {levels : Nat}

def CallsOnly (service : Service) (r : Run α) : Prop := ∀ c ∈ r.calls, c.service = service

theorem CallsOnly.bind {service : Service} {r : Run α} {f : α → Run β}
    (h : CallsOnly service r) (hf : ∀ a, CallsOnly service (f a)) :
    CallsOnly service (r.bind f) := by
  intro c hc
  obtain hc | ⟨a, hc⟩ := Run.mem_calls_bind hc
  · exact h c hc
  · exact hf a c hc

theorem callsOnly_of_nil {service : Service} {r : Run α} (h : r.calls = []) :
    CallsOnly service r := by
  intro c hc
  rw [h] at hc
  cases hc

theorem calls_field (body : Json) (name : String) (default : Json) :
    (field body name default).calls = [] := by
  cases body <;> rfl

theorem calls_firstItem (j : Json) : (firstItem j).calls = [] := by
  unfold firstItem
  split <;> rfl

theorem callsOnly_connect (service : Service) (region : Option String) (access : Access α) :
    CallsOnly service (connect service region access) := by
  cases access with
  | given client => exact callsOnly_of_nil rfl
  | made outcome =>
    intro c hc
    rw [List.mem_singleton.mp hc]
    rfl

theorem callsOnly_ask (c : Call) (reply : Reply) (refusal : String → Refusal) :
    CallsOnly c.service (ask c reply refusal) := by
  intro d hd
  rw [List.mem_singleton.mp hd]

theorem calls_secretFields (levels : Nat) (s : Settings) (text : Json) :
    (secretFields levels s text).calls = [] := by
  unfold secretFields
  split
  · rfl
  · split <;> rfl
  · rfl

theorem calls_judge (levels : Nat) (s : Settings) (text : Json) :
    (judge levels s text).calls = [] := by
  refine List.eq_nil_iff_forall_not_mem.mpr fun c hc => ?_
  obtain hc | ⟨fields, hc⟩ := Run.mem_calls_bind hc
  · rw [calls_secretFields] at hc
    cases hc
  · unfold conclude at hc
    split at hc <;> cases hc

theorem callsOnly_checkSecret (levels : Nat) (s : Settings) (access : Access SecretStore) :
    CallsOnly .secrets (checkSecret levels s access) := by
  rw [checkSecret_eq]
  refine (callsOnly_connect .secrets s.region access).bind fun store => ?_
  refine (callsOnly_ask _ _ _).bind fun body => ?_
  refine (callsOnly_of_nil (calls_field _ _ _)).bind fun text => ?_
  exact callsOnly_of_nil (calls_judge levels s text)

/-! ## The second check in parts -/

/-- What is made of the offerings. -/
def offer (s : Settings) (catalogue : InstanceCatalogue) : Run CheckResult :=
  (ask (.describeOfferings s.instanceType) catalogue.offerings
    (.offeringsUnlisted s.instanceType)).bind fun body =>
  (field body "InstanceTypeOfferings" .null).bind fun offerings =>
  if !offerings.isFilled then refuse (.notOffered s.instanceType s.regionText)
  else do
    Run.log .preflight .info s!"✅ {s.instanceType} supports Nitro Enclaves in {s.regionText}"
    return ⟨Check.instanceType.name, true, s!"{s.instanceType} supports Nitro Enclaves"⟩

/-- What is made of the instance types. -/
def inspect (s : Settings) (catalogue : InstanceCatalogue) (types : Json) : Run CheckResult :=
  if !types.isFilled then refuse (.typeUnavailable s.instanceType s.regionText)
  else
    (firstItem types).bind fun first =>
    (field first "NitroEnclavesSupport" (.text "unsupported")).bind fun support =>
    if !support.isText "supported" then refuse (.noEnclaves s.instanceType)
    else offer s catalogue

theorem checkInstanceType_eq (s : Settings) (access : Access InstanceCatalogue) :
    checkInstanceType s access = (connect .instances s.region access).bind fun catalogue =>
      (ask (.describeInstanceTypes s.instanceType) catalogue.instanceTypes
        (.typeRejected s.instanceType)).bind fun body =>
      (field body "InstanceTypes" (.array [])).bind fun types => inspect s catalogue types := rfl

theorem callsOnly_offer (s : Settings) (catalogue : InstanceCatalogue) :
    CallsOnly .instances (offer s catalogue) := by
  refine (callsOnly_ask (.describeOfferings s.instanceType) _ _).bind fun body => ?_
  refine (callsOnly_of_nil (calls_field _ _ _)).bind fun offerings => callsOnly_of_nil ?_
  split <;> rfl

theorem callsOnly_inspect (s : Settings) (catalogue : InstanceCatalogue) (types : Json) :
    CallsOnly .instances (inspect s catalogue types) := by
  rw [inspect]
  split
  · exact callsOnly_of_nil rfl
  · refine (callsOnly_of_nil (calls_firstItem types)).bind fun first => ?_
    refine (callsOnly_of_nil (calls_field _ _ _)).bind fun support => ?_
    split
    · exact callsOnly_of_nil rfl
    · exact callsOnly_offer s catalogue

theorem callsOnly_checkInstanceType (s : Settings) (access : Access InstanceCatalogue) :
    CallsOnly .instances (checkInstanceType s access) := by
  rw [checkInstanceType_eq]
  refine (callsOnly_connect .instances s.region access).bind fun catalogue => ?_
  refine (callsOnly_ask (.describeInstanceTypes s.instanceType) _ _).bind fun body => ?_
  refine (callsOnly_of_nil (calls_field _ _ _)).bind fun types => ?_
  exact callsOnly_inspect s catalogue types

/-! ## Checks that report -/

/-- The failures that become a result. -/
inductive Told : Failure → Prop
  | refused (r : Refusal) : Told (.preflight r)
  | rejected (r : Rejection) : Told (.cloud (.rejected r))
  | unreached (c : ConnectionFault) : Told (.cloud (.connection c))

/-- Logs nothing, and fails in no other way than a check may. -/
structure Silent (r : Run α) : Prop where
  logs : r.logs = []
  told : ∀ e, r.outcome = .error e → Told e

/-- Ends in a result of the check and a record, or fails as a check may and logs nothing. -/
inductive Reports (check : Check) (r : Run CheckResult) : Prop
  | passed (detail : String) (record : LogRecord) (hr : r.outcome = .ok ⟨check.name, true, detail⟩)
      (hlogs : r.logs = [record])
  | failed (e : Failure) (he : r.outcome = .error e) (htold : Told e) (hlogs : r.logs = [])

theorem Reports.of_refuse (check : Check) (refusal : Refusal) : Reports check (refuse refusal) :=
  .failed _ rfl (.refused refusal) rfl

theorem silent_pure (a : α) : Silent (Run.pure a) :=
  ⟨rfl, fun e he => by cases he⟩

theorem silent_refuse (refusal : Refusal) : Silent (refuse refusal : Run α) := by
  refine ⟨rfl, fun e he => ?_⟩
  cases he
  exact .refused refusal

theorem Reports.bind {check : Check} {r : Run α} {f : α → Run CheckResult} (h : Silent r)
    (hf : ∀ a, r.outcome = .ok a → Reports check (f a)) : Reports check (r.bind f) := by
  cases ha : r.outcome with
  | error e =>
    have hbind : r.bind f = ⟨.error e, r.logs, r.calls⟩ := by rw [Run.bind, ha]
    rw [hbind]
    exact .failed e rfl (h.told e ha) h.logs
  | ok a =>
    have hbind : r.bind f = ⟨(f a).outcome, (f a).logs, r.calls ++ (f a).calls⟩ := by
      rw [Run.bind, ha, h.logs]
      rfl
    rw [hbind]
    cases hf a ha with
    | passed detail record hr hlogs => exact .passed detail record hr hlogs
    | failed e he htold hlogs => exact .failed e he htold hlogs

theorem settle_of_reports {check : Check} {r : Run CheckResult} (h : Reports check r) :
    ∃ result record, settle check r = ⟨.ok result, [record], r.calls⟩ ∧
      result.name = check.name := by
  obtain ⟨outcome, logs, calls⟩ := r
  cases h with
  | passed detail record hr hlogs =>
    cases hr
    cases hlogs
    exact ⟨_, record, rfl, rfl⟩
  | failed e he htold hlogs =>
    cases he
    cases hlogs
    have htelling : ∃ result record, result.name = check.name ∧
        settle check ⟨.error e, [], calls⟩ = ⟨.ok result, [record], calls ++ []⟩ := by
      cases htold with
      | refused refusal => exact ⟨⟨check.name, false, refusal.message⟩, _, rfl, rfl⟩
      | rejected r => exact ⟨⟨check.name, false, _⟩, _, rfl, rfl⟩
      | unreached c => exact ⟨⟨check.name, false, _⟩, _, rfl, rfl⟩
    obtain ⟨result, record, hname, hsettle⟩ := htelling
    rw [List.append_nil] at hsettle
    exact ⟨result, record, hsettle, hname⟩

/-! ## Parts of a check -/

theorem silent_connect {service : Service} {region : Option String} {good : α → Prop}
    {access : Access α} (h : access.Behaves good) : Silent (connect service region access) := by
  cases h with
  | given h => exact silent_pure _
  | made h => exact ⟨rfl, fun e he => by cases he⟩
  | unmade c =>
    refine ⟨rfl, fun e he => ?_⟩
    cases he
    exact .unreached c

theorem good_of_connect {service : Service} {region : Option String} {good : α → Prop}
    {access : Access α} (h : access.Behaves good) {client : α}
    (hc : (connect service region access).outcome = .ok client) : good client := by
  cases h with
  | given h => cases hc; exact h
  | made h => cases hc; exact h
  | unmade c => cases hc

theorem silent_ask {c : Call} {shape : Json → Prop} {reply : Reply} (h : reply.Behaves shape)
    (refusal : String → Refusal) : Silent (ask c reply refusal) := by
  cases h with
  | answered h => exact ⟨rfl, fun e he => by cases he⟩
  | rejected r =>
    refine ⟨rfl, fun e he => ?_⟩
    cases he
    exact .refused _
  | unreached f =>
    refine ⟨rfl, fun e he => ?_⟩
    cases he
    exact .unreached f

theorem shape_of_ask {c : Call} {shape : Json → Prop} {reply : Reply} (h : reply.Behaves shape)
    {refusal : String → Refusal} {body : Json} (hb : (ask c reply refusal).outcome = .ok body) :
    shape body := by
  cases h with
  | answered h => cases hb; exact h
  | rejected r => cases hb
  | unreached f => cases hb

theorem field_object (fields : List (String × Json)) (name : String) (default : Json) :
    field (.object fields) name default = .pure ((Json.getLast? name fields).getD default) := rfl

/-! ## The second check reports -/

theorem reports_offer (s : Settings) {catalogue : InstanceCatalogue} (h : catalogue.Behaves) :
    Reports .instanceType (offer s catalogue) := by
  refine Reports.bind (silent_ask h.offerings _) fun body hbody => ?_
  obtain ⟨fields, rfl, _⟩ := shape_of_ask h.offerings hbody
  rw [field_object, Run.pure_bind]
  split
  · exact .of_refuse .instanceType _
  · exact .passed _ _ rfl rfl

theorem reports_inspect (s : Settings) {catalogue : InstanceCatalogue} (h : catalogue.Behaves)
    {items : List Json} (hitems : ∀ item ∈ items, ∃ inner, item = .object inner) :
    Reports .instanceType (inspect s catalogue (.array items)) := by
  rw [inspect]
  split
  · exact .of_refuse .instanceType _
  · cases items with
    | nil => contradiction
    | cons item items =>
      obtain ⟨inner, rfl⟩ := hitems item (by simp)
      rw [firstItem, Run.pure_bind, field_object, Run.pure_bind]
      split
      · exact .of_refuse .instanceType _
      · exact reports_offer s h

theorem reports_checkInstanceType (s : Settings) {access : Access InstanceCatalogue}
    (h : access.Behaves InstanceCatalogue.Behaves) :
    Reports .instanceType (checkInstanceType s access) := by
  rw [checkInstanceType_eq]
  refine Reports.bind (silent_connect h) fun catalogue hconnect => ?_
  have hcatalogue := good_of_connect h hconnect
  refine Reports.bind (silent_ask hcatalogue.instanceTypes _) fun body hbody => ?_
  obtain ⟨fields, rfl, hfield⟩ := shape_of_ask hcatalogue.instanceTypes hbody
  rw [field_object, Run.pure_bind]
  cases htypes : Json.getLast? "InstanceTypes" fields with
  | none => exact reports_inspect s hcatalogue (by simp)
  | some types =>
    obtain ⟨items, rfl, hitems⟩ := hfield types htypes
    exact reports_inspect s hcatalogue hitems

/-! ## The first check, and the texts that end the run -/

/-- The failure with which the reader gives up a text. -/
def givenUp? (levels : Nat) (text : String) : Option Failure :=
  match readText levels text with
  | .error (.numeralTooLong digits) => some (.numeralTooLong digits)
  | .error (.tooDeep container) => some (.tooDeep container)
  | _ => none

theorem judge_of_givenUp {s : Settings} {text : String} {e : Failure}
    (h : givenUp? levels text = some e) :
    judge levels s (.text text) = .fail e := by
  unfold givenUp? at h
  split at h
  · next digits hread =>
    cases h
    rw [readText] at hread
    simp only [judge, secretFields, hread]
    rfl
  · next container hread =>
    cases h
    rw [readText] at hread
    simp only [judge, secretFields, hread]
    rfl
  · cases h

theorem reports_conclude (s : Settings) (missing : List String) :
    Reports .secret (conclude s missing) := by
  rw [conclude]
  split
  · exact .passed _ _ rfl rfl
  · exact .of_refuse .secret _

theorem reports_judge {s : Settings} {text : String} (h : givenUp? levels text = none) :
    Reports .secret (judge levels s (.text text)) := by
  rw [judge]
  refine Reports.bind ?_ fun fields _ => reports_conclude s _
  unfold givenUp? at h
  cases hread : readText levels text with
  | error fault =>
    rw [hread] at h
    cases fault with
    | malformed =>
      rw [secretFields_malformed hread]
      exact silent_refuse _
    | numeralTooLong digits => cases h
    | tooDeep container => cases h
  | ok j =>
    by_cases hobject : ∃ fields, j = .object fields
    · obtain ⟨fields, rfl⟩ := hobject
      rw [secretFields_object hread]
      exact silent_pure fields
    · rw [secretFields_notObject hread (not_exists.mp hobject)]
      exact silent_refuse _

theorem reports_judge_null (levels : Nat) (s : Settings) : Reports .secret (judge levels s .null) :=
  .of_refuse .secret _

/-! ## The first check reports or is abandoned -/

/-- The failure that the text of the secret ends the run with. -/
def abandoned? (levels : Nat) (access : Access SecretStore) : Option Failure :=
  (access.client?.bind SecretStore.text?).bind (givenUp? levels)

theorem connect_eq_ok_iff {service : Service} {region : Option String} {access : Access α}
    {client : α} :
    (connect service region access).outcome = .ok client ↔ access.client? = some client := by
  cases access with
  | given c => simp [connect, Run.pure, Access.client?]
  | made outcome =>
    cases outcome with
    | ok c => simp [connect, Run.call, Access.client?, Except.mapError]
    | error fault => simp [connect, Run.call, Access.client?, Except.mapError]

theorem ask_eq_ok_iff {c : Call} {reply : Reply} {refusal : String → Refusal} {body : Json} :
    (ask c reply refusal).outcome = .ok body ↔ reply = .ok body := by
  cases reply with
  | ok j => simp [ask, Run.call]
  | error fault => cases fault <;> simp [ask, Run.call]

theorem reports_checkSecret (s : Settings) {access : Access SecretStore}
    (h : access.Behaves SecretStore.Behaves) (hread : abandoned? levels access = none) :
    Reports .secret (checkSecret levels s access) := by
  rw [checkSecret_eq]
  refine Reports.bind (silent_connect h) fun store hconnect => ?_
  have hstore : Reply.Behaves SecretStore.Shape store.secretValue := good_of_connect h hconnect
  refine Reports.bind (silent_ask hstore _) fun body hbody => ?_
  obtain ⟨fields, rfl, hfield⟩ := shape_of_ask hstore hbody
  rw [field_object, Run.pure_bind]
  cases htext : Json.getLast? "SecretString" fields with
  | none => exact reports_judge_null levels s
  | some j =>
    obtain rfl | ⟨text, rfl⟩ := hfield j htext
    · exact reports_judge_null levels s
    · refine reports_judge ?_
      have hheld : store.text? = some text := by
        rw [SecretStore.text?, ask_eq_ok_iff.mp hbody]
        simp only [htext]
      rwa [abandoned?, connect_eq_ok_iff.mp hconnect, Option.bind_some, hheld,
        Option.bind_some] at hread

theorem checkSecret_of_text {s : Settings} {access : Access SecretStore} {text : String}
    (h : access.client?.bind SecretStore.text? = some text) :
    ∃ calls, checkSecret levels s access =
      (⟨.ok (), [], calls⟩ : Run Unit).bind fun _ => judge levels s (.text text) := by
  obtain ⟨store, hclient, htext⟩ := Option.bind_eq_some_iff.mp h
  have hbody : ∃ fields, store.secretValue = .ok (.object fields) ∧
      Json.getLast? "SecretString" fields = some (.text text) := by
    unfold SecretStore.text? at htext
    split at htext
    · next fields hreply =>
      split at htext
      · next t ht =>
        cases htext
        exact ⟨fields, hreply, ht⟩
      · cases htext
    · cases htext
  obtain ⟨fields, hreply, hfield⟩ := hbody
  have hask : ((ask (.getSecretValue s.secretName) store.secretValue (secretRefusal s)).bind
      fun body => (field body "SecretString" .null).bind fun text => judge levels s text) =
      (⟨.ok (), [], [.getSecretValue s.secretName]⟩ : Run Unit).bind fun _ =>
        judge levels s (.text text) := by
    have hjudge : ((field (.object fields) "SecretString" .null).bind fun text =>
        judge levels s text) = judge levels s (.text text) := by
      rw [field_object, Run.pure_bind, hfield, Option.getD_some]
    rw [← hjudge, hreply]
    rfl
  rw [checkSecret_eq]
  cases access with
  | given c =>
    cases hclient
    exact ⟨[.getSecretValue s.secretName], hask⟩
  | made outcome =>
    cases outcome with
    | error fault => cases hclient
    | ok c =>
      cases hclient
      refine ⟨[.client .secrets s.region, .getSecretValue s.secretName], ?_⟩
      have hstep : ∀ f : SecretStore → Run CheckResult,
          (connect .secrets s.region (.made (.ok store))).bind f =
            (⟨.ok (), [], [.client .secrets s.region]⟩ : Run Unit).bind fun _ => f store :=
        fun _ => rfl
      rw [hstep, hask]
      rfl

theorem settle_of_abandoned {s : Settings} {access : Access SecretStore} {e : Failure}
    (h : abandoned? levels access = some e) :
    settle .secret (checkSecret levels s access) =
      ⟨.error e, [], (checkSecret levels s access).calls⟩ := by
  obtain ⟨text, htext, hgiven⟩ := Option.bind_eq_some_iff.mp h
  obtain ⟨calls, hcheck⟩ := checkSecret_of_text (s := s) htext
  have huntold : (∃ digits, e = .numeralTooLong digits) ∨ ∃ container, e = .tooDeep container := by
    unfold givenUp? at hgiven
    split at hgiven
    · exact .inl ⟨_, (Option.some.inj hgiven).symm⟩
    · exact .inr ⟨_, (Option.some.inj hgiven).symm⟩
    · cases hgiven
  rw [hcheck, judge_of_givenUp hgiven]
  obtain ⟨digits, rfl⟩ | ⟨container, rfl⟩ := huntold
  · simp [settle, Run.bind, Run.orElse, Run.fail, Failure.isCloud]
  · simp [settle, Run.bind, Run.orElse, Run.fail, Failure.isCloud]

/-! ## Both checks -/

theorem run_eq (levels : Nat) (s : Settings) (cloud : Cloud) :
    run levels s cloud = (settle .secret (checkSecret levels s cloud.secrets)).bind fun secret =>
      (settle .instanceType (checkInstanceType s cloud.instances)).bind fun instanceType =>
        .pure [secret, instanceType] := rfl

theorem run_of_abandoned {s : Settings} {cloud : Cloud} {e : Failure}
    (h : abandoned? levels cloud.secrets = some e) :
    run levels s cloud = ⟨.error e, [], (checkSecret levels s cloud.secrets).calls⟩ := by
  rw [run_eq, settle_of_abandoned h]
  rfl

theorem givenUp_of_digits (levels : Nat) {c : Char} {cs : List Char} (hzero : c ≠ '0')
    (hall : ∀ d ∈ c :: cs, Json.isDigit d) (hlength : Text.Numeral.maxDigits < (c :: cs).length) :
    givenUp? levels (String.ofList (c :: cs)) = some (.numeralTooLong (c :: cs).length) := by
  have hread : readText levels (String.ofList (c :: cs)) =
      .error (.numeralTooLong (c :: cs).length) := by
    rw [readText, String.toList_ofList, Json.parseWithin_digits hzero hall hlength]
  rw [givenUp?, hread]

theorem givenUp_of_brackets (rest : List Char) :
    givenUp? levels (String.ofList (List.replicate (levels + 1) '[' ++ rest)) =
      some (.tooDeep .array) := by
  have hread : readText levels (String.ofList (List.replicate (levels + 1) '[' ++ rest)) =
      .error (.tooDeep .array) := by
    rw [readText, String.toList_ofList, Json.parseWithin_brackets]
  rw [givenUp?, hread]

def longNumeral : String := String.ofList (List.replicate 4301 '1')

theorem givenUp_longNumeral : givenUp? levels longNumeral = some (.numeralTooLong 4301) := by
  have hdigits : '1' :: List.replicate 4300 '1' = List.replicate 4301 '1' := rfl
  have hall : ∀ d ∈ '1' :: List.replicate 4300 '1', Json.isDigit d := by
    intro d hd
    rw [hdigits] at hd
    rw [List.eq_of_mem_replicate hd]
    decide
  have hlength : ('1' :: List.replicate 4300 '1').length = 4301 := by
    rw [hdigits, List.length_replicate]
  have hgiven := givenUp_of_digits levels (by decide) hall (by rw [hlength]; decide)
  rw [hlength, hdigits] at hgiven
  exact hgiven

def supporting : InstanceCatalogue where
  instanceTypes := .ok (.object [("InstanceTypes", .array [
    .object [("NitroEnclavesSupport", .text "supported")]])])
  offerings := .ok (.object [("InstanceTypeOfferings", .array [.object []])])

theorem behaves_supporting : supporting.Behaves where
  instanceTypes := .answered ⟨_, rfl, fun j hj => by cases hj; exact ⟨_, rfl, by simp⟩⟩
  offerings := .answered ⟨_, rfl, fun j hj => by cases hj; exact ⟨_, rfl⟩⟩

theorem behaves_holding (given : Bool) (text : String) :
    (holding given [] [] text).Behaves SecretStore.Behaves := by
  have hreply : Reply.Behaves SecretStore.Shape (.ok (reply [] [] text)) :=
    .answered ⟨_, rfl, fun j hj => by cases hj; exact .inr ⟨text, rfl⟩⟩
  cases given with
  | true => exact .given hreply
  | false => exact .made hreply

theorem abandoned_holding (given : Bool) (text : String) :
    abandoned? levels (holding given [] [] text) = givenUp? levels text := by
  cases given <;> rfl

end Preflight
end EnclaveFleet
