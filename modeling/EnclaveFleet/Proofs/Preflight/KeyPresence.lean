import EnclaveFleet.Proofs.Json.Reading
import EnclaveFleet.Proofs.Json.Vacant
import EnclaveFleet.Proofs.Preflight.Verdict

/-!
# What the check of the secret decides

The check passes when the text of the secret is an object of JSON in which every configured key has a
value that is not vacant. Else it says what is wrong: the text is no JSON, it is no object, or keys
are lacking.

* `Provides`, `lacking`: the keys that an object has a value for, and those that it has none for
* `RefusedWith`: a check that fails with a given text
* `Ends`, `ends_checkSecret`: the four ways in which the check ends
* `checkSecret_decides`: which of them, by the grammar of JSON
-/
namespace EnclaveFleet.Preflight
set_option autoImplicit false

variable {levels : Nat}

/-! ## Keys -/

/-- Of a repeated key the last value counts. -/
def Provides (fields : List (String × Json)) (key : String) : Prop :=
  ∃ j, Json.LastField fields key j ∧ ¬Json.Vacant j

theorem hasKey_eq_true_iff {fields : List (String × Json)} {key : String} :
    hasKey fields key = true ↔ Provides fields key := by
  simp only [hasKey_iff, Json.getLast_eq_some_iff, Json.isFilled_iff, Provides]

instance (fields : List (String × Json)) : DecidablePred (Provides fields) :=
  fun _ => decidable_of_iff _ hasKey_eq_true_iff

/-- In the order of the settings, and as often as there. -/
def lacking (keys : List String) (fields : List (String × Json)) : List String :=
  keys.filter fun key => ¬Provides fields key

theorem lacking_eq (keys : List String) (fields : List (String × Json)) :
    lacking keys fields = keys.filter (!hasKey fields ·) := by
  refine List.filter_congr fun key _ => ?_
  rw [Bool.eq_iff_iff]
  simp [← hasKey_eq_true_iff]

theorem lacking_eq_nil_iff {keys : List String} {fields : List (String × Json)} :
    lacking keys fields = [] ↔ ∀ key ∈ keys, Provides fields key := by
  simp [lacking]

/-! ## The ends of the check -/

/-- The record that the check leaves when it passes. -/
def keysRecord (s : Settings) : LogRecord :=
  ⟨.preflight, .info,
    "✅ Secret " ++ s.secretName ++ " has keys " ++ ", ".intercalate s.secretKeys⟩

inductive Ends (s : Settings) (text : String) (r : Run CheckResult) : Prop
  | passed {fields : List (String × Json)} (hdoc : Json.Document text.toList (.object fields))
      (hkeys : lacking s.secretKeys fields = []) (hr : r.outcome = .ok (confirmed s .secret))
      (hlogs : r.logs = [keysRecord s])
  | notJson (hdoc : ¬∃ j, Json.Document text.toList j)
      (hr : r.outcome = .error (.preflight (.secretNotJson s.secretName)))
  | notObject {j : Json} (hdoc : Json.Document text.toList j) (hj : ∀ fields, j ≠ .object fields)
      (hr : r.outcome = .error (.preflight (.secretNotObject s.secretName)))
  | missing {fields : List (String × Json)} (hdoc : Json.Document text.toList (.object fields))
      (hkeys : lacking s.secretKeys fields ≠ [])
      (hr : r.outcome =
        .error (.preflight (.missingKeys s.secretName (lacking s.secretKeys fields))))

theorem malformed_of_givenUp {text : String} (h : givenUp? levels text = none) (e : Json.ReadError)
    (he : Json.parseWithin levels text.toList = .error e) : e = .malformed := by
  cases e with
  | malformed => rfl
  | numeralTooLong digits => simp [givenUp?, readText, he] at h
  | tooDeep container => simp [givenUp?, readText, he] at h

theorem ends_judge {s : Settings} {text : String} (h : givenUp? levels text = none) :
    Ends s text (judge levels s (.text text)) := by
  have hgiven := malformed_of_givenUp h
  cases hread : readText levels text with
  | error e =>
    obtain rfl := hgiven e hread
    refine .notJson ((Json.parseWithin_eq_malformed_iff hgiven).mp hread) ?_
    rw [judge, secretFields_malformed hread]
    rfl
  | ok j =>
    have hdoc := (Json.parseWithin_eq_ok_iff hgiven).mp hread
    by_cases hobject : ∃ fields, j = .object fields
    · obtain ⟨fields, rfl⟩ := hobject
      have hjudge : judge levels s (.text text) = conclude s (lacking s.secretKeys fields) := by
        rw [judge, secretFields_object hread, Run.pure_bind, lacking_eq]
      cases hkeys : lacking s.secretKeys fields with
      | nil =>
        refine .passed hdoc hkeys ?_ ?_
        all_goals
          rw [hjudge, hkeys]
          rfl
      | cons key keys =>
        have hne : lacking s.secretKeys fields ≠ [] := by simp [hkeys]
        refine .missing hdoc hne ?_
        rw [hjudge, hkeys]
        rfl
    · refine .notObject hdoc (not_exists.mp hobject) ?_
      rw [judge, secretFields_notObject hread (not_exists.mp hobject)]
      rfl

theorem Ends.congr {s : Settings} {text : String} {r r' : Run CheckResult} (h : Ends s text r)
    (houtcome : r'.outcome = r.outcome) (hlogs : r'.logs = r.logs) : Ends s text r' := by
  cases h with
  | passed hdoc hkeys hr hrlogs =>
    exact .passed hdoc hkeys (houtcome.trans hr) (hlogs.trans hrlogs)
  | notJson hdoc hr => exact .notJson hdoc (houtcome.trans hr)
  | notObject hdoc hj hr => exact .notObject hdoc hj (houtcome.trans hr)
  | missing hdoc hkeys hr => exact .missing hdoc hkeys (houtcome.trans hr)

theorem ends_checkSecret {s : Settings} {access : Access SecretStore} {text : String}
    (htext : access.client?.bind SecretStore.text? = some text)
    (hread : givenUp? levels text = none) :
    Ends s text (checkSecret levels s access) := by
  obtain ⟨calls, hcheck⟩ := checkSecret_of_text (s := s) htext
  refine (ends_judge (s := s) hread).congr ?_ ?_
  · rw [hcheck]
    rfl
  · rw [hcheck]
    rfl

theorem document_unique {text : String} (h : givenUp? levels text = none) {j j' : Json}
    (hdoc : Json.Document text.toList j) (hdoc' : Json.Document text.toList j') : j = j' := by
  have hread := (Json.parseWithin_eq_ok_iff (malformed_of_givenUp h)).mpr hdoc
  have hread' := (Json.parseWithin_eq_ok_iff (malformed_of_givenUp h)).mpr hdoc'
  exact Except.ok.inj (hread.symm.trans hread')

/-! ## What the check says -/

def RefusedWith (r : Run CheckResult) (text : String) : Prop :=
  ∃ refusal, r.outcome = .error (.preflight refusal) ∧ refusal.message = text

theorem refusedWith_iff {r : Run CheckResult} {refusal : Refusal} {text : String}
    (hr : r.outcome = .error (.preflight refusal)) :
    RefusedWith r text ↔ refusal.message = text := by
  simp [RefusedWith, hr]

theorem not_refusedWith {r : Run CheckResult} {result : CheckResult} (hr : r.outcome = .ok result)
    (text : String) : ¬RefusedWith r text := by
  simp [RefusedWith, hr]

theorem message_ne (name : String) {a b : String} (h : a ≠ b) :
    "Secret " ++ name ++ a ≠ "Secret " ++ name ++ b := by
  simpa using h

theorem missing_ne_notJson (keys : String) :
    " is missing key(s): " ++ keys ≠ " is not valid JSON" := fun h => by
  have hfifth := congrArg (fun t : String => t.toList[4]?) h
  simp only [String.toList_append] at hfifth
  rw [List.getElem?_append_left (by decide)] at hfifth
  exact absurd hfifth (by decide)

theorem missing_ne_notObject (keys : String) :
    " is missing key(s): " ++ keys ≠ " must be a JSON object" := fun h => by
  have hsecond := congrArg (fun t : String => t.toList[1]?) h
  simp only [String.toList_append] at hsecond
  rw [List.getElem?_append_left (by decide)] at hsecond
  exact absurd hsecond (by decide)

section

variable {s : Settings} {text : String} {r : Run CheckResult}

theorem Ends.eq_ok_iff (h : Ends s text r) (hread : givenUp? levels text = none)
    {result : CheckResult} :
    r.outcome = .ok result ↔ result = confirmed s .secret ∧
      ∃ fields, Json.Document text.toList (.object fields) ∧
        ∀ key ∈ s.secretKeys, Provides fields key := by
  simp only [← lacking_eq_nil_iff]
  cases h with
  | @passed fields hdoc hkeys hr _ =>
    rw [hr, Except.ok.injEq, eq_comm]
    exact (and_iff_left ⟨fields, hdoc, hkeys⟩).symm
  | notJson hdoc hr =>
    rw [hr]
    exact iff_of_false nofun fun ⟨_, fields, hdoc', _⟩ => hdoc ⟨_, hdoc'⟩
  | notObject hdoc hj hr =>
    rw [hr]
    exact iff_of_false nofun fun ⟨_, fields, hdoc', _⟩ =>
      hj fields (document_unique hread hdoc hdoc')
  | missing hdoc hkeys hr =>
    rw [hr]
    refine iff_of_false nofun fun ⟨_, fields, hdoc', hkeys'⟩ => ?_
    cases document_unique hread hdoc hdoc'
    exact hkeys hkeys'

theorem Ends.logs_of_ok (h : Ends s text r) {result : CheckResult} (hok : r.outcome = .ok result) :
    r.logs = [keysRecord s] := by
  cases h with
  | passed _ _ _ hlogs => exact hlogs
  | notJson _ hr => cases hr.symm.trans hok
  | notObject _ _ hr => cases hr.symm.trans hok
  | missing _ _ hr => cases hr.symm.trans hok

theorem Ends.refused_of_error (h : Ends s text r) {e : Failure} (he : r.outcome = .error e) :
    ∃ refusal, e = .preflight refusal := by
  cases h with
  | passed _ _ hr _ => cases hr.symm.trans he
  | notJson _ hr => exact ⟨_, Except.error.inj (he.symm.trans hr)⟩
  | notObject _ _ hr => exact ⟨_, Except.error.inj (he.symm.trans hr)⟩
  | missing _ _ hr => exact ⟨_, Except.error.inj (he.symm.trans hr)⟩

theorem missing_message (name : String) (keys : List String) :
    Refusal.message (.missingKeys name keys) =
      "Secret " ++ name ++ (" is missing key(s): " ++ ", ".intercalate keys) :=
  String.append_assoc

theorem Ends.notJson_iff (h : Ends s text r) :
    RefusedWith r ("Secret " ++ s.secretName ++ " is not valid JSON") ↔
      ¬∃ j, Json.Document text.toList j := by
  cases h with
  | passed hdoc _ hr _ => exact iff_of_false (not_refusedWith hr _) (not_not_intro ⟨_, hdoc⟩)
  | notJson hdoc hr => exact iff_of_true ((refusedWith_iff hr).mpr rfl) hdoc
  | notObject hdoc _ hr =>
    rw [refusedWith_iff hr]
    exact iff_of_false (message_ne _ (by decide)) (not_not_intro ⟨_, hdoc⟩)
  | missing hdoc _ hr =>
    rw [refusedWith_iff hr, missing_message]
    exact iff_of_false (message_ne _ (missing_ne_notJson _)) (not_not_intro ⟨_, hdoc⟩)

theorem Ends.notObject_iff (h : Ends s text r) (hread : givenUp? levels text = none) :
    RefusedWith r ("Secret " ++ s.secretName ++ " must be a JSON object") ↔
      ∃ j, Json.Document text.toList j ∧ ∀ fields, j ≠ .object fields := by
  have hobject : ∀ {fields : List (String × Json)}, Json.Document text.toList (.object fields) →
      ¬∃ j, Json.Document text.toList j ∧ ∀ fields, j ≠ .object fields :=
    fun hdoc ⟨_, hdoc', hj⟩ => hj _ (document_unique hread hdoc' hdoc)
  cases h with
  | passed hdoc _ hr _ => exact iff_of_false (not_refusedWith hr _) (hobject hdoc)
  | notJson hdoc hr =>
    rw [refusedWith_iff hr]
    exact iff_of_false (message_ne _ (by decide)) fun ⟨j, hdoc', _⟩ => hdoc ⟨j, hdoc'⟩
  | notObject hdoc hj hr => exact iff_of_true ((refusedWith_iff hr).mpr rfl) ⟨_, hdoc, hj⟩
  | missing hdoc _ hr =>
    rw [refusedWith_iff hr, missing_message]
    exact iff_of_false (message_ne _ (missing_ne_notObject _)) (hobject hdoc)

theorem Ends.missing_of_lacking (h : Ends s text r) (hread : givenUp? levels text = none)
    {fields : List (String × Json)} (hdoc : Json.Document text.toList (.object fields))
    (hkeys : lacking s.secretKeys fields ≠ []) :
    r.outcome = .error (.preflight (.missingKeys s.secretName (lacking s.secretKeys fields))) := by
  cases h with
  | passed hdoc' hkeys' _ _ =>
    cases document_unique hread hdoc hdoc'
    exact absurd hkeys' hkeys
  | notJson hdoc' _ => exact absurd ⟨_, hdoc⟩ hdoc'
  | notObject hdoc' hj _ => exact absurd (document_unique hread hdoc' hdoc) (hj fields)
  | missing hdoc' _ hr =>
    cases document_unique hread hdoc hdoc'
    exact hr

end

/-- On a text that the reader does not give up, the check decides whether the text is an object with
a value for every configured key, and it tells the ways apart in which the text is not. -/
theorem checkSecret_decides {s : Settings} {access : Access SecretStore} {text : String}
    (htext : access.client?.bind SecretStore.text? = some text)
    (hread : givenUp? levels text = none) :
    (∀ result, (checkSecret levels s access).outcome = .ok result ↔ result = confirmed s .secret ∧
      ∃ fields, Json.Document text.toList (.object fields) ∧
        ∀ key ∈ s.secretKeys, Provides fields key) ∧
    (∀ result, (checkSecret levels s access).outcome = .ok result →
      (checkSecret levels s access).logs = [keysRecord s]) ∧
    (∀ e, (checkSecret levels s access).outcome = .error e → ∃ refusal, e = .preflight refusal) ∧
    (RefusedWith (checkSecret levels s access)
        ("Secret " ++ s.secretName ++ " is not valid JSON") ↔
      ¬∃ j, Json.Document text.toList j) ∧
    (RefusedWith (checkSecret levels s access)
        ("Secret " ++ s.secretName ++ " must be a JSON object") ↔
      ∃ j, Json.Document text.toList j ∧ ∀ fields, j ≠ .object fields) ∧
    (∀ fields, Json.Document text.toList (.object fields) → lacking s.secretKeys fields ≠ [] →
      RefusedWith (checkSecret levels s access) ("Secret " ++ s.secretName ++
        (" is missing key(s): " ++ ", ".intercalate (lacking s.secretKeys fields)))) := by
  have hends := ends_checkSecret (s := s) htext hread
  refine ⟨fun _ => hends.eq_ok_iff hread, fun _ => hends.logs_of_ok,
    fun _ => hends.refused_of_error, hends.notJson_iff, hends.notObject_iff hread, ?_⟩
  exact fun fields hdoc hkeys =>
    ⟨_, hends.missing_of_lacking hread hdoc hkeys, missing_message _ _⟩

def emptiedSecret : List (String × String) := [("key", "a"), ("other", "b"), ("key", "")]

/-- The last value of the repeated key is empty; a key that is configured twice is listed twice. -/
theorem checkSecret_decides_emptied :
    RefusedWith (checkSecret 990 { secretKeys := ["key", "other", "none", "key"] }
      (holding true [] [] (Json.flat emptiedSecret).render))
      "Secret sp1_tee is missing key(s): key, none, key" := by
  have hparse : readText 990 (Json.flat emptiedSecret).render =
      .ok (.object (Json.texts emptiedSecret)) :=
    Json.parseWithin_render_flat (by simp [emptiedSecret])
      (by simp [emptiedSecret, Json.Words, Json.IsWord, VariableName.isRest]) 989
  have hread : givenUp? 990 (Json.flat emptiedSecret).render = none := by rw [givenUp?, hparse]
  have hdoc : Json.Document (Json.flat emptiedSecret).render.toList
      (.object (Json.texts emptiedSecret)) := Json.document_of_parseWithin hparse
  have hlacking : lacking ["key", "other", "none", "key"] (Json.texts emptiedSecret) =
      ["key", "none", "key"] := by decide
  have htext : (holding true [] [] (Json.flat emptiedSecret).render).client?.bind
      SecretStore.text? = some (Json.flat emptiedSecret).render := rfl
  obtain ⟨-, -, -, -, -, hmissing⟩ :=
    checkSecret_decides (s := { secretKeys := ["key", "other", "none", "key"] }) htext hread
  have hrefused := hmissing _ hdoc (by rw [hlacking]; decide)
  rw [hlacking] at hrefused
  exact hrefused

end EnclaveFleet.Preflight
