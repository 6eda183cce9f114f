import EnclaveFleet.Preflight
import EnclaveFleet.Proofs.Json.Fields
import EnclaveFleet.Proofs.Json.FlatObject

/-!
# What the preflight checks tell of the secret

Two secrets that the checks have to tell apart differ in being JSON, in being an object or in one of
the configured keys being filled. Of all other secrets the checks say and do the same.

* `Indistinct`: texts that need not be told apart
* `missing_congr`: only the configured keys count, and only whether they are filled
* `judge_eq_of_indistinct`: the verdict on the text of a secret, with its words and the log
* `run_eq_of_indistinct`: both checks, with all that they log and call
-/
namespace EnclaveFleet.Preflight
set_option autoImplicit false

variable {levels : Nat}

/-! ## Secrets that need not be told apart -/

def readText (levels : Nat) (text : String) : Except Json.ReadError Json :=
  Json.parseWithin levels text.toList

inductive Indistinct (levels : Nat) (keys : List String) (text text' : String) : Prop
  | malformed (h : readText levels text = .error .malformed)
      (h' : readText levels text' = .error .malformed)
  | notObject {j j' : Json} (h : readText levels text = .ok j) (h' : readText levels text' = .ok j')
      (hj : ∀ fields, j ≠ .object fields) (hj' : ∀ fields, j' ≠ .object fields)
  | object {fields fields' : List (String × Json)} (h : readText levels text = .ok (.object fields))
      (h' : readText levels text' = .ok (.object fields'))
      (hkeys : ∀ key ∈ keys, (Json.getLast? key fields).any Json.isFilled =
        (Json.getLast? key fields').any Json.isFilled)

/-! ## The verdict -/

def conclude (s : Settings) (missing : List String) : Run CheckResult :=
  if missing.isEmpty then do
    let keys := ", ".intercalate s.secretKeys
    Run.log .preflight .info s!"✅ Secret {s.secretName} has keys {keys}"
    return ⟨Check.secret.name, true, s!"{s.secretName} has {s.secretKeys.length} required key(s)"⟩
  else refuse (.missingKeys s.secretName missing)

/-- What is made of the text of the secret. -/
def judge (levels : Nat) (s : Settings) (text : Json) : Run CheckResult :=
  (secretFields levels s text).bind fun fields =>
    conclude s (s.secretKeys.filter (!hasKey fields ·))

theorem checkSecret_eq (s : Settings) (access : Access SecretStore) :
    checkSecret levels s access = (connect .secrets s.region access).bind fun store =>
      (ask (.getSecretValue s.secretName) store.secretValue (secretRefusal s)).bind fun body =>
        (field body "SecretString" .null).bind fun text => judge levels s text := rfl

theorem secretFields_malformed {s : Settings} {text : String}
    (h : readText levels text = .error .malformed) :
    secretFields levels s (.text text) = refuse (.secretNotJson s.secretName) := by
  rw [readText] at h
  simp only [secretFields, h]

theorem secretFields_notObject {s : Settings} {text : String} {j : Json}
    (h : readText levels text = .ok j) (hj : ∀ fields, j ≠ .object fields) :
    secretFields levels s (.text text) = refuse (.secretNotObject s.secretName) := by
  rw [readText] at h
  simp only [secretFields, h]

theorem secretFields_object {s : Settings} {text : String} {fields : List (String × Json)}
    (h : readText levels text = .ok (.object fields)) :
    secretFields levels s (.text text) = .pure fields := by
  rw [readText] at h
  simp only [secretFields, h]

/-- Of the fields only those count that the settings name, and of these only whether they are
filled. -/
theorem missing_congr {keys : List String} {fields fields' : List (String × Json)}
    (h : ∀ key ∈ keys, (Json.getLast? key fields).any Json.isFilled =
      (Json.getLast? key fields').any Json.isFilled) :
    keys.filter (!hasKey fields ·) = keys.filter (!hasKey fields' ·) := by
  refine List.filter_congr fun key hkey => ?_
  rw [hasKey, hasKey, h key hkey]

theorem judge_eq_of_indistinct {s : Settings} {text text' : String}
    (h : Indistinct levels s.secretKeys text text') :
    judge levels s (.text text) = judge levels s (.text text') := by
  cases h with
  | malformed h h' => rw [judge, judge, secretFields_malformed h, secretFields_malformed h']
  | notObject h h' hj hj' =>
    rw [judge, judge, secretFields_notObject h hj, secretFields_notObject h' hj']
  | object h h' hkeys =>
    rw [judge, judge, secretFields_object h, secretFields_object h', Run.pure_bind, Run.pure_bind,
      missing_congr hkeys]

/-! ## The checks -/

/-- A reply with the text of the secret among other fields. -/
def reply (before after : List (String × Json)) (text : String) : Json :=
  .object (before ++ ("SecretString", .text text) :: after)

/-- A store that answers with it, at hand or to be made. -/
def holding (given : Bool) (before after : List (String × Json)) (text : String) :
    Access SecretStore :=
  if given then .given ⟨.ok (reply before after text)⟩
  else .made (.ok ⟨.ok (reply before after text)⟩)

theorem field_reply (before after : List (String × Json)) (text : String) :
    field (reply before after text) "SecretString" .null =
      .pure ((Json.getLast? "SecretString" after).getD (.text text)) := by
  rw [reply, field, Json.get?, Json.getLast_append_cons, Option.getD_some]

/-- What is asked before the text is looked at. -/
def inquiry (s : Settings) (given : Bool) : Run Unit :=
  ⟨.ok (), [], (if given then [] else [.client .secrets s.region]) ++
    [.getSecretValue s.secretName]⟩

theorem checkSecret_holding (s : Settings) (given : Bool) (before after : List (String × Json))
    (text : String) :
    checkSecret levels s (holding given before after text) = (inquiry s given).bind fun _ =>
      judge levels s ((Json.getLast? "SecretString" after).getD (.text text)) := by
  have hjudge : ((field (reply before after text) "SecretString" .null).bind fun text =>
      judge levels s text) =
        judge levels s ((Json.getLast? "SecretString" after).getD (.text text)) := by
    rw [field_reply, Run.pure_bind]
  rw [checkSecret_eq, ← hjudge]
  cases given with
  | true => rfl
  | false => rfl

theorem checkSecret_eq_of_indistinct {s : Settings} {text text' : String}
    (h : Indistinct levels s.secretKeys text text') (given : Bool)
    (before after : List (String × Json)) :
    checkSecret levels s (holding given before after text) =
      checkSecret levels s (holding given before after text') := by
  rw [checkSecret_holding, checkSecret_holding]
  cases Json.getLast? "SecretString" after with
  | none => rw [Option.getD_none, Option.getD_none, judge_eq_of_indistinct h]
  | some j => rfl

/-- Nothing else about the secret reaches the results, the log or a call. -/
theorem run_eq_of_indistinct (levels : Nat) (s : Settings) (instances : Access InstanceCatalogue)
    (given : Bool) (before after : List (String × Json)) (text text' : String)
    (h : Indistinct levels s.secretKeys text text') :
    run levels s ⟨holding given before after text, instances⟩ =
      run levels s ⟨holding given before after text', instances⟩ := by
  have hcheck := checkSecret_eq_of_indistinct h given before after
  rw [run, run, hcheck]

def repeatedSecret : String := (Json.flat [("key", "a"), ("key", "")]).render

def otherSecret : String := (Json.flat [("other", "b")]).render

/-- Of a repeated name the last value counts; it is empty, and the other secret has no such name. -/
theorem run_eq_of_indistinct_repeated :
    Indistinct 990 ["key"] repeatedSecret otherSecret ∧
    run 990 { secretKeys := ["key"] }
        ⟨holding true [] [] repeatedSecret, .made (.error (.connection .noRegion))⟩ =
      run 990 { secretKeys := ["key"] }
        ⟨holding true [] [] otherSecret, .made (.error (.connection .noRegion))⟩ := by
  have hrepeated : readText 990 repeatedSecret =
      .ok (.object [("key", .text "a"), ("key", .text "")]) :=
    Json.parseWithin_render_flat (by simp)
      (by simp [Json.Words, Json.IsWord, VariableName.isRest]) 989
  have hother : readText 990 otherSecret = .ok (.object [("other", .text "b")]) :=
    Json.parseWithin_render_flat (by simp)
      (by simp [Json.Words, Json.IsWord, VariableName.isRest]) 989
  have hsame : Indistinct 990 ["key"] repeatedSecret otherSecret :=
    .object hrepeated hother (by decide)
  exact ⟨hsame, run_eq_of_indistinct 990 { secretKeys := ["key"] } _ true [] [] repeatedSecret
    otherSecret hsame⟩

end EnclaveFleet.Preflight
