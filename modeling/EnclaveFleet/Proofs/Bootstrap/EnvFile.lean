import EnclaveFleet.Bootstrap.Commands
import EnclaveFleet.Proofs.Json.FlatObject

/-!
# The `.env` file of mode inline

The commands about the secret set variables of one shell, the text of the secret being in one of
them, and write the `.env` file from these variables at the end.

* `step?`: what a command does about the secret
* `secretSteps_eq`: all the values are taken out of the secret before the first is stored
* `Host.run`: the variables and the file after some steps
* `Apart`: what the variables of the keys must not do
* `env_file_right_iff`: for keys that are apart, and for no others, the file holds what the secret
  says
-/
namespace EnclaveFleet.Bootstrap
set_option autoImplicit false

/-! ## The commands about the secret -/

inductive Step where
  /-- Sets a variable to a field of the object in `SECRET_JSON`. -/
  | extract (name key : String)
  /-- Appends a line with a variable's value to the file. -/
  | store (label name : String)
deriving DecidableEq

def takeName (cs : List Char) : List Char × List Char :=
  (cs.takeWhile VariableName.isRest, cs.dropWhile VariableName.isRest)

/-- Reads `NAME=$(echo $SECRET_JSON | jq -r .key)`. -/
def extraction? (cs : List Char) : Option Step := do
  let (name, rest) := takeName cs
  let rest ← Text.dropStart? "=$(echo $SECRET_JSON | jq -r .".toList rest
  let (key, rest) := takeName rest
  if VariableName.accepts name ∧ VariableName.accepts key ∧ rest = [')'] then
    some (.extract (String.ofList name) (String.ofList key))
  else none

/-- Reads `echo "LABEL=$NAME" >> .env`. -/
def storing? (cs : List Char) : Option Step := do
  let rest ← Text.dropStart? "echo \"".toList cs
  let (label, rest) := takeName rest
  let rest ← Text.dropStart? "=$".toList rest
  let (name, rest) := takeName rest
  if VariableName.accepts name ∧ rest = "\" >> .env".toList then
    some (.store (String.ofList label) (String.ofList name))
  else none

def step? (command : String) : Option Step :=
  (extraction? command.toList).or (storing? command.toList)

def extractStep (key : String) : Step := .extract (variableName key) key

def storeStep (key : String) : Step := .store (variableName key) (variableName key)

def secretSteps (s : Settings) (arn region : String) : List Step :=
  (inlineCommands s (.ofString arn) (.ofString region)).filterMap fun d => step? d.plain

theorem dropStart_append (start cs : List Char) : Text.dropStart? start (start ++ cs) = some cs := by
  induction start with
  | nil => rfl
  | cons a start ih => rw [List.cons_append, Text.dropStart?, if_pos rfl, ih]

theorem takeName_append {name : List Char} {c : Char} (h : VariableName.accepts name)
    (hc : VariableName.isRest c = false) (rest : List Char) :
    takeName (name ++ c :: rest) = (name, c :: rest) := by
  have hname := VariableName.isRest_of_accepts h
  rw [takeName, List.takeWhile_append_of_pos hname, List.dropWhile_append_of_pos hname]
  simp [hc]

theorem accepts_variableName {key : String} (h : VariableName.accepts key.toList) :
    VariableName.accepts (variableName key).toList := by
  rw [variableName, String.upperCase, String.toList_ofList]
  exact VariableName.accepts_upper h

theorem step_extract {key : String} (h : VariableName.accepts key.toList) :
    step? (extract key) = some (extractStep key) := by
  have hname := accepts_variableName h
  have htext : (extract key).toList = (variableName key).toList ++
      '=' :: ("$(echo $SECRET_JSON | jq -r .".toList ++ (key.toList ++ [')'])) := by
    simp [extract, String.toList_append]
  have hfirst := takeName_append hname (c := '=') (by decide)
    ("$(echo $SECRET_JSON | jq -r .".toList ++ (key.toList ++ [')']))
  have hcut : Text.dropStart? "=$(echo $SECRET_JSON | jq -r .".toList
      ('=' :: ("$(echo $SECRET_JSON | jq -r .".toList ++ (key.toList ++ [')']))) =
      some (key.toList ++ [')']) :=
    dropStart_append ('=' :: "$(echo $SECRET_JSON | jq -r .".toList) (key.toList ++ [')'])
  have hsecond := takeName_append h (c := ')') (by decide) []
  have hread : extraction? (extract key).toList = some (extractStep key) := by
    rw [extraction?, htext, hfirst]
    simp only [hcut, hsecond, Option.bind_eq_bind, Option.bind_some, hname, h, and_self, if_true,
      String.ofList_toList, extractStep]
  rw [step?, hread, Option.some_or]

theorem extraction_store (key : String) : extraction? (store key).toList = none := by
  rw [store, String.toList_append, String.toList_append, String.toList_append,
    String.toList_append]
  rfl

theorem step_store {key : String} (h : VariableName.accepts key.toList) :
    step? (store key) = some (storeStep key) := by
  have hname := accepts_variableName h
  have htext : (store key).toList = "echo \"".toList ++ ((variableName key).toList ++
      '=' :: '$' :: ((variableName key).toList ++ "\" >> .env".toList)) := by
    simp [store, String.toList_append]
  have hcut := dropStart_append "echo \"".toList ((variableName key).toList ++
      '=' :: '$' :: ((variableName key).toList ++ "\" >> .env".toList))
  have hfirst := takeName_append hname (c := '=') (by decide)
    ('$' :: ((variableName key).toList ++ "\" >> .env".toList))
  have hmark : ∀ cs, Text.dropStart? "=$".toList ('=' :: '$' :: cs) = some cs := by
    intro cs
    have hsign : "=$".toList = ['=', '$'] := by decide
    rw [hsign]
    exact dropStart_append ['=', '$'] cs
  have hsecond : takeName ((variableName key).toList ++ "\" >> .env".toList) =
      ((variableName key).toList, "\" >> .env".toList) := by
    have hend : "\" >> .env".toList = '"' :: " >> .env".toList := by decide
    rw [hend]
    exact takeName_append hname (by decide) " >> .env".toList
  have hread : storing? (store key).toList = some (storeStep key) := by
    rw [storing?, htext, hcut]
    simp only [hfirst, hmark, hsecond, Option.bind_eq_bind, Option.bind_some, hname, and_self,
      if_true, String.ofList_toList, storeStep]
  rw [step?, extraction_store, Option.none_or, hread]

theorem filterMap_ofString {keys : List String} {command : String → String} {step : String → Step}
    (h : ∀ key ∈ keys, step? (command key) = some (step key)) :
    (keys.map fun key => Deferred.ofString (command key)).filterMap (fun d => step? d.plain) =
      keys.map step := by
  induction keys with
  | nil => rfl
  | cons key keys ih =>
    have hkey := h key (by simp)
    rw [List.map_cons, List.filterMap_cons, Deferred.plain_ofString, hkey,
      ih fun k hk => h k (by simp [hk]), List.map_cons]

theorem step_checkout (s : Settings) : ∀ d ∈ checkout s, step? d.plain = none := by
  have hclone : step? ("git clone " ++ s.repoUrl) = none := by
    rw [step?, String.toList_append]
    rfl
  have henter : step? ("cd " ++ s.repoDir) = none := by
    rw [step?, String.toList_append]
    rfl
  have href : ∀ ref : String, step? ("git checkout " ++ ref) = none := by
    intro ref
    rw [step?, String.toList_append]
    rfl
  intro d hd
  rw [checkout, List.mem_append] at hd
  obtain hd | hd := hd
  · simp only [List.mem_cons, List.not_mem_nil, or_false] at hd
    obtain rfl | rfl := hd
    · rw [Deferred.plain_ofString, hclone]
    · rw [Deferred.plain_ofString, henter]
  · cases hs : s.ref? with
    | none => simp [hs] at hd
    | some ref =>
      rw [hs, List.mem_singleton] at hd
      rw [hd, Deferred.plain_ofString, href]

theorem step_fetchSecret (arn region : Deferred) : step? (fetchSecret arn region).plain = none := by
  have htext : (fetchSecret arn region).plain =
      "SECRET_JSON=$(aws secretsmanager get-secret-value --secret-id " ++ (arn.plain ++
        (" --region " ++ (region.plain ++ " --query SecretString --output text)"))) := by
    simp [fetchSecret, Deferred.plain, Piece.resolve]
  rw [htext, step?, String.toList_append]
  rfl

theorem step_install (s : Settings) : step? (install s) = none := by
  rw [install, Settings.installArgs]
  cases s.production <;> decide

/-- The other commands do nothing about the values of the secret. -/
theorem secretSteps_eq {s : Settings} (h : ∀ key ∈ s.secretKeys, VariableName.accepts key.toList)
    (arn region : String) :
    secretSteps s arn region =
      s.secretKeys.map extractStep ++ s.secretKeys.map storeStep := by
  have hextract := filterMap_ofString fun key hkey => step_extract (h key hkey)
  have hstore := filterMap_ofString fun key hkey => step_store (h key hkey)
  have hcheckout : (checkout s).filterMap (fun d => step? d.plain) = [] :=
    List.filterMap_eq_nil_iff.mpr (step_checkout s)
  have hbefore : [Deferred.ofString "su ec2-user", .ofString "sudo dnf install git aws-cli jq -y",
      .ofString "cd /home/ec2-user"].filterMap (fun d => step? d.plain) = [] := by decide
  have hbetween : [Deferred.ofString "export HOME=/home/ec2-user",
      fetchSecret (.ofString arn) (.ofString region)].filterMap (fun d => step? d.plain) = [] := by
    have hhome : step? "export HOME=/home/ec2-user" = none := by decide
    rw [List.filterMap_eq_nil_iff]
    intro d hd
    simp only [List.mem_cons, List.not_mem_nil, or_false] at hd
    obtain rfl | rfl := hd
    · rw [Deferred.plain_ofString, hhome]
    · exact step_fetchSecret _ _
  have hlast : [Deferred.ofString (install s)].filterMap (fun d => step? d.plain) = [] := by
    rw [List.filterMap_cons, Deferred.plain_ofString, step_install, List.filterMap_nil]
  rw [secretSteps, inlineCommands]
  simp only [List.filterMap_append, hbefore, hcheckout, hbetween, hextract, hstore, hlast,
    List.nil_append, List.append_nil]

/-! ## Running them -/

/-- What a variable is set to for the text of the secret and a key. -/
abbrev Query := String → String → String

structure Host where
  vars : String → String
  envFile : List String

namespace Host

def set (h : Host) (name value : String) : Host :=
  { h with vars := fun n => if n = name then value else h.vars n }

theorem set_self (h : Host) (name value : String) : (h.set name value).vars name = value :=
  if_pos rfl

theorem set_other (h : Host) {name other : String} (hne : other ≠ name) (value : String) :
    (h.set name value).vars other = h.vars other :=
  if_neg hne

def perform (query : Query) (h : Host) : Step → Host
  | .extract name key => h.set name (query (h.vars "SECRET_JSON") key)
  | .store label name => { h with envFile := h.envFile ++ [label ++ "=" ++ h.vars name] }

def run (query : Query) (h : Host) (steps : List Step) : Host :=
  steps.foldl (perform query) h

variable (query : Query)

theorem run_append (h : Host) (xs ys : List Step) :
    h.run query (xs ++ ys) = (h.run query xs).run query ys :=
  List.foldl_append

/-- The variables after the values are taken out of the secret. -/
def extracted (h : Host) (keys : List String) : Host := h.run query (keys.map extractStep)

theorem extracted_nil (h : Host) : h.extracted query [] = h := rfl

theorem extracted_cons (h : Host) (key : String) (keys : List String) :
    h.extracted query (key :: keys) =
      (h.set (variableName key) (query (h.vars "SECRET_JSON") key)).extracted query keys :=
  rfl

theorem extracted_append (h : Host) (keys more : List String) :
    h.extracted query (keys ++ more) = (h.extracted query keys).extracted query more := by
  rw [extracted, List.map_append, run_append]
  rfl

theorem envFile_extracted (h : Host) (keys : List String) :
    (h.extracted query keys).envFile = h.envFile := by
  induction keys generalizing h with
  | nil => rfl
  | cons key keys ih =>
    rw [extracted_cons, ih]
    rfl

theorem extracted_other {h : Host} {keys : List String} {name : String}
    (hname : ∀ key ∈ keys, variableName key ≠ name) :
    (h.extracted query keys).vars name = h.vars name := by
  induction keys generalizing h with
  | nil => rfl
  | cons key keys ih =>
    have hkey : variableName key ≠ name := hname key (by simp)
    rw [extracted_cons, ih fun k hk => hname k (by simp [hk]), set_other h hkey.symm]

theorem envFile_stored (h : Host) (keys : List String) :
    (h.run query (keys.map storeStep)).envFile = h.envFile ++
      keys.map fun key => variableName key ++ "=" ++ h.vars (variableName key) := by
  induction keys generalizing h with
  | nil => exact (List.append_nil h.envFile).symm
  | cons key keys ih =>
    have hrest := ih (h.perform query (storeStep key))
    rw [List.map_cons, List.map_cons]
    refine hrest.trans ?_
    exact List.append_assoc h.envFile _ _

end Host

def envLines (keys : List String) (value : String → String) : List String :=
  keys.map fun key => variableName key ++ "=" ++ value key

/-- The lines are right exactly when the variables are, once all of them are set. -/
theorem envFile_eq_iff {s : Settings} (hkeys : ∀ key ∈ s.secretKeys, VariableName.accepts key.toList)
    (arn region : String) (query : Query) (h : Host) (value : String → String) :
    (h.run query (secretSteps s arn region)).envFile = h.envFile ++ envLines s.secretKeys value ↔
      ∀ key ∈ s.secretKeys,
        (h.extracted query s.secretKeys).vars (variableName key) = value key := by
  have hfile : (h.run query (secretSteps s arn region)).envFile = h.envFile ++
      s.secretKeys.map fun key => variableName key ++ "=" ++
        (h.extracted query s.secretKeys).vars (variableName key) := by
    rw [secretSteps_eq hkeys, Host.run_append, Host.envFile_stored]
    exact congrArg (· ++ _) (Host.envFile_extracted query h s.secretKeys)
  rw [hfile, List.append_cancel_left_eq, envLines, List.map_inj_left]
  constructor
  · intro hlines key hkey
    exact (String.append_right_inj (variableName key ++ "=")).mp (hlines key hkey)
  · intro hvalues key hkey
    rw [hvalues key hkey]

/-! ## Keys that are apart -/

/-- A field that is a text on one line is found. -/
def Faithful (query : Query) : Prop :=
  ∀ (text key value : String) (fields : List (String × Json)),
    Json.parse text.toList = .ok (.object fields) → Json.getLast? key fields = some (.text value) →
    '\n' ∉ value.toList → query text key = value

/-- The text is an object with a text on one line for every key. -/
def Holds (text : String) (value : String → String) (keys : List String) : Prop :=
  ∃ fields, Json.parse text.toList = .ok (.object fields) ∧
    ∀ key ∈ keys, Json.getLast? key fields = some (.text (value key)) ∧ '\n' ∉ (value key).toList

/-- No two keys share a variable, and none but the last takes the variable of the secret. -/
structure Apart (keys : List String) : Prop where
  names : ∀ key ∈ keys, ∀ other ∈ keys, variableName key = variableName other → key = other
  secret : ∀ key ∈ keys.dropLast, variableName key ≠ "SECRET_JSON"

theorem Apart.tail {key : String} {keys : List String} (h : Apart (key :: keys)) : Apart keys := by
  refine ⟨fun k hk o ho => h.names k (by simp [hk]) o (by simp [ho]), fun k hk => h.secret k ?_⟩
  cases keys with
  | nil => cases hk
  | cons o keys => simp [hk]

theorem Holds.query_eq {query : Query} (hq : Faithful query) {text : String}
    {value : String → String} {keys : List String} (h : Holds text value keys) :
    ∀ key ∈ keys, query text key = value key := by
  obtain ⟨fields, hparse, hfields⟩ := h
  intro key hkey
  obtain ⟨hfield, hline⟩ := hfields key hkey
  exact hq text key (value key) fields hparse hfield hline

/-- As long as keys are left, the secret is still in its variable. -/
theorem extracted_of_apart {query : Query} {text : String} {value : String → String}
    {keys : List String} (hquery : ∀ key ∈ keys, query text key = value key) (ha : Apart keys)
    {h : Host} (hs : h.vars "SECRET_JSON" = text) :
    ∀ key ∈ keys, (h.extracted query keys).vars (variableName key) = value key := by
  induction keys generalizing h with
  | nil => simp
  | cons k keys ih =>
    have hset : (h.set (variableName k) (query (h.vars "SECRET_JSON") k)).vars
        (variableName k) = value k := by
      rw [hs, hquery k (by simp), Host.set_self]
    intro key hkey
    rw [Host.extracted_cons]
    by_cases hmem : key ∈ keys
    · have hkept : (h.set (variableName k) (query (h.vars "SECRET_JSON") k)).vars
          "SECRET_JSON" = text := by
        have hk : variableName k ≠ "SECRET_JSON" := by
          refine ha.secret k ?_
          rw [List.dropLast_cons_of_ne_nil (List.ne_nil_of_mem hmem)]
          exact List.mem_cons_self
        rw [Host.set_other h hk.symm, hs]
      exact ih (fun o ho => hquery o (by simp [ho])) ha.tail hkept key hmem
    · obtain rfl : key = k := (List.mem_cons.mp hkey).resolve_right hmem
      have hother : ∀ o ∈ keys, variableName o ≠ variableName key := by
        intro o ho hname
        exact hmem (ha.names o (by simp [ho]) key hkey hname ▸ ho)
      rw [Host.extracted_other query hother, hset]

/-! ## Keys that are not -/

/-- Reads the texts of an object and nothing else. -/
def readText : Query := fun text key =>
  match Json.parse text.toList with
  | .error _ => ""
  | .ok j =>
    match j.get? key with
    | some (.text value) => value
    | _ => ""

theorem faithful_readText : Faithful readText := by
  intro text key value fields hparse hfield _
  rw [readText, hparse]
  simp only [Json.get?, hfield]

/-- A secret with these values. -/
def secretText (value : String → String) (keys : List String) : String :=
  (Json.flat (keys.map fun key => (key, value key))).render

theorem holds_secretText {value : String → String} {keys : List String} (hne : keys ≠ [])
    (hkeys : ∀ key ∈ keys, VariableName.accepts key.toList)
    (hvalue : ∀ key ∈ keys, Json.IsWord (value key)) :
    Holds (secretText value keys) value keys := by
  have hwords : Json.Words (keys.map fun key => (key, value key)) := by
    intro f hf
    obtain ⟨key, hkey, rfl⟩ := List.mem_map.mp hf
    exact ⟨VariableName.isRest_of_accepts (hkeys key hkey), hvalue key hkey⟩
  refine ⟨_, Json.parse_render_flat (by simpa using hne) hwords, fun key hkey => ?_⟩
  refine ⟨Json.getLast_flat value hkey, fun hline => ?_⟩
  exact absurd (hvalue key hkey _ hline) (by decide)

theorem readText_of_lost {text : String} (h : text ∈ ["x", ""]) (key : String) :
    readText text key = "" := by
  simp only [List.mem_cons, List.not_mem_nil, or_false] at h
  obtain rfl | rfl := h <;> rfl

/-- What was a value of the secret is no secret any more, and nothing is found in it. -/
theorem extracted_secret {text : String} {keys : List String}
    (hx : ∀ key ∈ keys, readText text key = "x") {h : Host}
    (hs : (h.vars "SECRET_JSON" = text ∧ ∃ key ∈ keys, variableName key = "SECRET_JSON") ∨
      h.vars "SECRET_JSON" ∈ ["x", ""]) :
    (h.extracted readText keys).vars "SECRET_JSON" ∈ ["x", ""] := by
  induction keys generalizing h with
  | nil =>
    obtain ⟨_, key, hkey, _⟩ | hlost := hs
    · cases hkey
    · exact hlost
  | cons k keys ih =>
    have hrest : ∀ key ∈ keys, readText text key = "x" := fun key hkey => hx key (by simp [hkey])
    rw [Host.extracted_cons]
    -- The first key that takes the variable of the secret leaves "x" there, and a later one "".
    by_cases hk : variableName k = "SECRET_JSON"
    · have hset : (h.set (variableName k) (readText (h.vars "SECRET_JSON") k)).vars
          "SECRET_JSON" = readText (h.vars "SECRET_JSON") k := by
        rw [hk, Host.set_self]
      refine ih hrest (.inr ?_)
      rw [hset]
      obtain ⟨htext, _⟩ | hlost := hs
      · rw [htext, hx k (by simp)]
        simp
      · rw [readText_of_lost hlost]
        simp
    · have hset : (h.set (variableName k) (readText (h.vars "SECRET_JSON") k)).vars
          "SECRET_JSON" = h.vars "SECRET_JSON" := Host.set_other h (Ne.symm hk) _
      refine ih hrest ?_
      rw [hset]
      obtain ⟨htext, key, hkey, hname⟩ | hlost := hs
      · obtain rfl | hkey := List.mem_cons.mp hkey
        · exact absurd hname hk
        · exact .inl ⟨htext, key, hkey, hname⟩
      · exact .inr hlost

theorem names_of_right {keys : List String} (hkeys : ∀ key ∈ keys, VariableName.accepts key.toList)
    (hright : ∀ (h : Host) (value : String → String),
      Holds (h.vars "SECRET_JSON") value keys →
      ∀ key ∈ keys, (h.extracted readText keys).vars (variableName key) = value key)
    {key other : String} (hkey : key ∈ keys) (hother : other ∈ keys)
    (hname : variableName key = variableName other) : key = other := by
  by_cases hne : other = key
  · exact hne.symm
  · -- One variable cannot hold both values.
    let value : String → String := fun k => if k = key then "x" else "y"
    let h : Host := ⟨fun _ => secretText value keys, []⟩
    have hwords : ∀ k ∈ keys, Json.IsWord (value k) := by
      intro k _
      by_cases hk : k = key
      · simp [value, hk, Json.IsWord, VariableName.isRest]
      · simp [value, hk, Json.IsWord, VariableName.isRest]
    have hvalues := hright h value (holds_secretText (List.ne_nil_of_mem hkey) hkeys hwords)
    have hx : (h.extracted readText keys).vars (variableName key) = "x" := by
      rw [hvalues key hkey]
      exact if_pos rfl
    have hy : (h.extracted readText keys).vars (variableName other) = "y" := by
      rw [hvalues other hother]
      exact if_neg hne
    rw [hname, hy] at hx
    exact absurd hx (by decide)

theorem secret_of_right {keys : List String} (hkeys : ∀ key ∈ keys, VariableName.accepts key.toList)
    (hright : ∀ (h : Host) (value : String → String),
      Holds (h.vars "SECRET_JSON") value keys →
      ∀ key ∈ keys, (h.extracted readText keys).vars (variableName key) = value key)
    {key : String} (hkey : key ∈ keys.dropLast) : variableName key ≠ "SECRET_JSON" := by
  intro hname
  have hne : keys ≠ [] := by
    rintro rfl
    cases hkey
  -- The secret is gone before the last key, which finds nothing.
  let value : String → String := fun _ => "x"
  let h : Host := ⟨fun _ => secretText value keys, []⟩
  have hholds : Holds (h.vars "SECRET_JSON") value keys :=
    holds_secretText hne hkeys fun _ _ => by simp [value, Json.IsWord, VariableName.isRest]
  have hlast := hright h value hholds (keys.getLast hne) (List.getLast_mem hne)
  have hx : ∀ k ∈ keys.dropLast, readText (h.vars "SECRET_JSON") k = "x" := fun k hk =>
    hholds.query_eq faithful_readText k (List.dropLast_subset keys hk)
  have hlost := extracted_secret hx (.inl ⟨rfl, key, hkey, hname⟩)
  have hnothing : (h.extracted readText keys).vars (variableName (keys.getLast hne)) = "" := by
    have hsplit : h.extracted readText keys =
        (h.extracted readText keys.dropLast).extracted readText [keys.getLast hne] := by
      rw [← Host.extracted_append, List.dropLast_concat_getLast]
    rw [hsplit, Host.extracted_cons, Host.extracted_nil, Host.set_self, readText_of_lost hlost]
  rw [hnothing] at hlast
  exact absurd hlast (by decide)

/-- The file holds what the secret says for keys that are apart, and for no others. -/
theorem env_file_right_iff (s : Settings) (files : Tree) (arn region : String)
    (hcheck : s.check files = .ok ()) :
    (∀ query, Faithful query → ∀ (h : Host) (value : String → String),
      Holds (h.vars "SECRET_JSON") value s.secretKeys →
        (h.run query (secretSteps s arn region)).envFile =
          h.envFile ++ envLines s.secretKeys value) ↔
      Apart s.secretKeys := by
  have hkeys := Settings.accepts_of_check hcheck
  constructor
  · intro hall
    have hright : ∀ (h : Host) (value : String → String),
        Holds (h.vars "SECRET_JSON") value s.secretKeys → ∀ key ∈ s.secretKeys,
        (h.extracted readText s.secretKeys).vars (variableName key) = value key := by
      intro h value hholds
      exact (envFile_eq_iff hkeys arn region readText h value).mp
        (hall readText faithful_readText h value hholds)
    exact ⟨fun key hkey other hother => names_of_right hkeys hright hkey hother,
      fun key hkey => secret_of_right hkeys hright hkey⟩
  · intro hapart query hquery h value hholds
    rw [envFile_eq_iff hkeys]
    exact extracted_of_apart (hholds.query_eq hquery) hapart rfl

/-- The default keys are apart. -/
theorem env_file_right_default :
    ({} : Settings).check Tree.empty = .ok () ∧
    ∀ query, Faithful query → ∀ (h : Host) (value : String → String),
      Holds (h.vars "SECRET_JSON") value ["seal_url", "seal_bearer_token"] →
        (h.run query (secretSteps {} "arn" "us-east-1")).envFile =
          h.envFile ++ ["SEAL_URL=" ++ value "seal_url",
            "SEAL_BEARER_TOKEN=" ++ value "seal_bearer_token"] := by
  have hcheck : ({} : Settings).check Tree.empty = .ok () := ok_of_toOption (by decide)
  have hapart : Apart ({} : Settings).secretKeys := ⟨by decide, by decide⟩
  refine ⟨hcheck, fun query hquery h value hholds => ?_⟩
  have hlines := (env_file_right_iff {} Tree.empty "arn" "us-east-1" hcheck).mpr hapart query hquery
    h value hholds
  have hnames : variableName "seal_url" = "SEAL_URL" ∧
      variableName "seal_bearer_token" = "SEAL_BEARER_TOKEN" := by decide
  rw [hlines, envLines, List.map_cons, List.map_cons, hnames.1, hnames.2]
  rfl

/-- Two keys that differ in case only share a variable, and both lines have the value that was taken
last. -/
theorem env_file_mixed :
    ∃ (s : Settings) (h : Host) (value : String → String),
      s.check Tree.empty = .ok () ∧ Faithful readText ∧
      Holds (h.vars "SECRET_JSON") value s.secretKeys ∧
      envLines s.secretKeys value = ["TOKEN=x", "TOKEN=y"] ∧
      (h.run readText (secretSteps s "arn" "us-east-1")).envFile = ["TOKEN=y", "TOKEN=y"] := by
  let value : String → String := fun key => if key = "token" then "x" else "y"
  have hcheck : ({ secretKeys := ["token", "TOKEN"] } : Settings).check Tree.empty = .ok () :=
    ok_of_toOption (by decide)
  have hholds : Holds (secretText value ["token", "TOKEN"]) value ["token", "TOKEN"] :=
    holds_secretText (by simp) (by decide) (by
      intro key hkey
      simp only [List.mem_cons, List.not_mem_nil, or_false] at hkey
      obtain rfl | rfl := hkey <;> simp [value, Json.IsWord, VariableName.isRest])
  have hlast : readText (secretText value ["token", "TOKEN"]) "TOKEN" = "y" :=
    hholds.query_eq faithful_readText "TOKEN" (by simp)
  have hsteps : secretSteps { secretKeys := ["token", "TOKEN"] } "arn" "us-east-1" =
      [.extract "TOKEN" "token", .extract "TOKEN" "TOKEN", .store "TOKEN" "TOKEN",
        .store "TOKEN" "TOKEN"] := by
    rw [secretSteps_eq (Settings.accepts_of_check hcheck)]
    decide
  refine ⟨{ secretKeys := ["token", "TOKEN"] },
    ⟨fun _ => secretText value ["token", "TOKEN"], []⟩, value, hcheck, faithful_readText, hholds,
    by decide, ?_⟩
  rw [hsteps]
  simp [Host.run, Host.perform, Host.set, hlast]

end EnclaveFleet.Bootstrap
