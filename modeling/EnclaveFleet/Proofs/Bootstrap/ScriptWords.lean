import EnclaveFleet.Bootstrap.Commands
import EnclaveFleet.Proofs.Bytes.Base64
import EnclaveFleet.Proofs.Settings.Accepted
import EnclaveFleet.Proofs.Shell.Lexer

/-!
# What the shell reads in mode script

The user data of mode script are lines that set variables and lines that unpack the script and run
it. Whatever the values hold, the shell reads exactly these commands.

* `exportWords`, `unpackWords`: the commands that are meant
* `commands_of_exports`: they are what a shell reads, for any way to quote the values
* `userData_script`: what the user data are where the script can be encoded
* `script_commands_lossless`: the user data of mode script, for all settings
* `Shell.fields`: how a shell divides the value of a variable; the keys of the secret are found
  again
-/
namespace EnclaveFleet
set_option autoImplicit false

/-! ## Fields -/

namespace Shell

def endsField (c : Char) : Bool := [' ', '\t', '\n'].contains c

/-- The fields of an unquoted value. -/
def fields (value : String) : List String :=
  ((value.toList.splitOnP endsField).filter (!·.isEmpty)).map String.ofList

theorem splitOnP_intercalate {ws : List (List Char)} (hne : ws ≠ [])
    (h : ∀ w ∈ ws, ∀ c ∈ w, endsField c = false) :
    ([' '].intercalate ws).splitOnP endsField = ws := by
  induction ws with
  | nil => exact absurd rfl hne
  | cons w ws ih =>
    have hw : ∀ c ∈ w, endsField c = false := h w (by simp)
    cases ws with
    | nil => simpa using List.splitOnP_eq_singleton hw
    | cons v ws =>
      have hrest := ih (by simp) fun u hu => h u (by simp [hu])
      have hcut := List.splitOnP_append_cons_of_forall_mem hw ' ' (by decide)
        ([' '].intercalate (v :: ws))
      rw [List.intercalate_cons_cons, List.append_assoc, List.singleton_append, hcut, hrest]

theorem fields_intercalate {words : List String}
    (h : ∀ w ∈ words, w.toList ≠ [] ∧ ∀ c ∈ w.toList, endsField c = false) :
    fields (" ".intercalate words) = words := by
  by_cases hne : words = []
  · subst hne
    rfl
  · have hsplit : ([' '].intercalate (words.map String.toList)).splitOnP endsField =
        words.map String.toList := by
      refine splitOnP_intercalate (by simpa using hne) ?_
      intro w hw
      obtain ⟨word, hword, rfl⟩ := List.mem_map.mp hw
      exact (h word hword).2
    have hkeep : (words.map String.toList).filter (!·.isEmpty) = words.map String.toList := by
      rw [List.filter_eq_self]
      intro w hw
      obtain ⟨word, hword, rfl⟩ := List.mem_map.mp hw
      simpa using (h word hword).1
    have hspace : " ".toList = [' '] := by decide
    rw [fields, String.toList_intercalate, hspace, hsplit, hkeep, List.map_map]
    simp

theorem not_endsField_of_isPlain {c : Char} (h : isPlain c) : endsField c = false := by
  have hc : c ∉ [' ', '\t', '\n'] := Lexer.not_mem_of_isPlain (by decide) h
  simpa [endsField] using hc

end Shell

namespace Bootstrap
open Shell.Lexer

/-! ## Lines -/

def exportWords (name value : String) : List Token :=
  [.word "export", .word (name ++ "=" ++ value)]

def unpackWords (encoded : String) : List (List Token) := [
  [.word "mkdir", .word "-p", .word "/opt/tee-fleet"],
  [.word "echo", .word encoded, .operator '|', .word "base64", .word "--decode", .operator '>',
    .word "/opt/tee-fleet/bootstrap-host.sh"],
  [.word "chmod", .word "+x", .word "/opt/tee-fleet/bootstrap-host.sh"],
  [.word "/opt/tee-fleet/bootstrap-host.sh"]
]

def exportLine (name : String) (quoted : List Char) : List Char :=
  ("export " ++ name ++ "=").toList ++ quoted

def unpackLines (encoded : String) : List (List Char) :=
  (unpack encoded).map fun d => d.plain.toList

theorem readsLine_shebang : ReadsLine shebang.toList [] := by decide

theorem readsLine_export {name value : String} {quoted : List Char}
    (hname : ∀ c ∈ name.toList, Shell.isPlain c) (hq : Quoting quoted value.toList) :
    ReadsLine (exportLine name quoted) (exportWords name value) := by
  have hverb : Reads (.outside none) "export ".toList (.outside none) [.word "export"] := by
    decide
  have hvar : Reads (.outside none) (name ++ "=").toList
      (.outside (some (name ++ "=").toList)) [] := by
    refine reads_word _ (by simp) fun c hc => ?_
    rw [String.toList_append, List.mem_append] at hc
    obtain hc | hc := hc
    · exact hname c hc
    · obtain rfl : c = '=' := by simpa using hc
      decide
  have hend := reads_break ((name ++ "=").toList ++ value.toList)
  rw [String.ofList_append, String.ofList_toList, String.ofList_toList] at hend
  have hline := (hverb.append (hvar.append (hq.reads _))).append hend
  refine ⟨?_, by simp [exportWords]⟩
  simpa [exportLine, exportWords, String.toList_append, String.append_assoc] using hline

theorem readsLine_echo {encoded : String} (hne : encoded.toList ≠ [])
    (hplain : ∀ c ∈ encoded.toList, Shell.isPlain c) :
    ReadsLine ("echo " ++ encoded ++ " | base64 --decode > " ++ scriptTarget).toList
      [.word "echo", .word encoded, .operator '|', .word "base64", .word "--decode",
        .operator '>', .word "/opt/tee-fleet/bootstrap-host.sh"] := by
  have hverb : Reads (.outside none) "echo ".toList (.outside none) [.word "echo"] := by
    decide
  have hgap := reads_gap encoded.toList
  rw [String.ofList_toList] at hgap
  have hrest : Reads (.outside none) ("| base64 --decode > " ++ scriptTarget ++ "\n").toList
      (.outside none) [.operator '|', .word "base64", .word "--decode", .operator '>',
        .word "/opt/tee-fleet/bootstrap-host.sh", .newline] := by
    decide
  have hline := ((hverb.append (reads_word _ hne hplain)).append hgap).append hrest
  refine ⟨?_, by simp⟩
  simpa [String.toList_append] using hline

theorem readsLines_unpack {encoded : String} (hne : encoded.toList ≠ [])
    (hplain : ∀ c ∈ encoded.toList, Shell.isPlain c) :
    List.Forall₂ ReadsLine (unpackLines encoded) (unpackWords encoded) := by
  have hmkdir : ReadsLine "mkdir -p /opt/tee-fleet".toList
      [.word "mkdir", .word "-p", .word "/opt/tee-fleet"] := by
    decide
  have hchmod : ReadsLine ("chmod +x " ++ scriptTarget).toList
      [.word "chmod", .word "+x", .word "/opt/tee-fleet/bootstrap-host.sh"] := by
    decide
  have htarget : ReadsLine scriptTarget.toList [.word "/opt/tee-fleet/bootstrap-host.sh"] := by
    decide
  simp only [unpackLines, unpack, List.map_cons, List.map_nil, Deferred.plain,
    Deferred.resolve_ofString]
  exact .cons hmkdir (.cons (readsLine_echo hne hplain) (.cons hchmod (.cons htarget .nil)))

/-! ## Scripts -/

/-- The lines of a script for values that are quoted in some way. -/
def scriptLines (exports : List (String × List Char)) (encoded : String) : List (List Char) :=
  shebang.toList :: exports.map (fun (name, quoted) => exportLine name quoted) ++
    unpackLines encoded

theorem commands_of_exports {text encoded : String} {exports : List (String × List Char)}
    {values : List (String × String)}
    (ht : text.toList = ['\n'].intercalate (scriptLines exports encoded))
    (hnames : ∀ e ∈ exports, ∀ c ∈ e.1.toList, Shell.isPlain c)
    (hq : List.Forall₂ (fun e v => e.1 = v.1 ∧ Quoting e.2 v.2.toList) exports values)
    (hne : encoded.toList ≠ []) (hplain : ∀ c ∈ encoded.toList, Shell.isPlain c) :
    commands? text =
      some (values.map (fun (name, value) => exportWords name value) ++ unpackWords encoded) := by
  have hexports : List.Forall₂ ReadsLine
      (exports.map fun (name, quoted) => exportLine name quoted)
      (values.map fun (name, value) => exportWords name value) := by
    clear ht
    induction hq with
    | nil => exact .nil
    | @cons e v es vs h _ ih =>
      obtain ⟨name, quoted⟩ := e
      obtain ⟨name', value⟩ := v
      obtain ⟨rfl, hquoted⟩ := h
      refine .cons ?_ (ih fun e he => hnames e (by simp [he]))
      exact readsLine_export (hnames (name, quoted) (by simp)) hquoted
  have hlines := List.rel_append (.cons readsLine_shebang hexports) (readsLines_unpack hne hplain)
  have hcommands := Shell.Scanner.commands_of_lines ht (by simp [scriptLines]) hlines
  rw [commands?, hcommands, List.filter_append, List.filter_cons]
  have hfull : (values.map fun (name, value) => exportWords name value).filter
      (!·.isEmpty) = values.map fun (name, value) => exportWords name value := by
    rw [List.filter_eq_self]
    intro ts hts
    obtain ⟨v, _, rfl⟩ := List.mem_map.mp hts
    rfl
  rw [hfull]
  rfl

/-! ## The user data -/

/-- What has been encoded could be read and holds more than blanks. -/
theorem encodeScript_of_readable {files : Tree} {script : BootScript} {content : List UInt8}
    (hpath : script.pathFault? = none) (hnul : script.hasNul = false)
    (hread : script.read files = .ok content) :
    encodeScript files script =
      if content.all isBlankByte then .error (.configuration [.scriptBlank script])
      else .ok (String.ofList (Base64.encode content)) := by
  rw [encodeScript, hpath, hnul, hread]
  rfl

theorem exists_content_of_encodeScript {files : Tree} {script : BootScript} {encoded : String}
    (h : encodeScript files script = .ok encoded) :
    ∃ content, script.read files = .ok content ∧ ¬content.all isBlankByte ∧
      encoded = String.ofList (Base64.encode content) := by
  rw [encodeScript] at h
  split at h
  · cases h
  · split at h
    · cases h
    · split at h
      · cases h
      · split at h
        · cases h
        · next content hread hblank =>
          cases h
          exact ⟨content, hread, hblank, rfl⟩

theorem isPlain_of_encodeScript {files : Tree} {script : BootScript} {encoded : String}
    (h : encodeScript files script = .ok encoded) :
    encoded.toList ≠ [] ∧ ∀ c ∈ encoded.toList, Shell.isPlain c := by
  obtain ⟨content, -, hblank, rfl⟩ := exists_content_of_encodeScript h
  rw [String.toList_ofList]
  refine ⟨Base64.encode_ne_nil ?_, fun c hc => Base64.isPlain_of_mem_encode hc⟩
  rintro rfl
  exact hblank rfl

theorem toList_resolve_render (values : PseudoParameter → String) (commands : List Deferred) :
    ((render commands).resolve values).toList =
      ['\n'].intercalate (shebang.toList :: commands.map fun d => (d.resolve values).toList) := by
  have hnewline : "\n".toList = ['\n'] := by decide
  rw [render, Deferred.resolve_joinWith, String.toList_intercalate, hnewline, List.map_cons,
    List.map_cons, List.map_map, Deferred.resolve_ofString]
  rfl

theorem toList_resolve_exportCommand (values : PseudoParameter → String) (name : String)
    (value : Deferred) :
    ((exportCommand name value).resolve values).toList =
      exportLine name ((Shell.quote value).resolve values).toList := by
  rw [exportCommand, Deferred.resolve_cons, String.toList_append, exportLine]
  rfl

/-- What the variables are set to, as it is written for given values of the pseudo parameters. -/
def quotedExports (values : PseudoParameter → String) (exports : List (String × Deferred)) :
    List (String × List Char) :=
  exports.map fun (name, value) => (name, ((Shell.quote value).resolve values).toList)

theorem toList_resolve_script (values : PseudoParameter → String)
    (exports : List (String × Deferred)) (encoded : String) :
    ((render (exports.map (fun (name, value) => exportCommand name value) ++
      unpack encoded)).resolve values).toList =
    ['\n'].intercalate (scriptLines (quotedExports values exports) encoded) := by
  have hunpack : (unpack encoded).map (fun d => (d.resolve values).toList) =
      unpackLines encoded := by
    simp only [unpackLines, unpack, List.map_cons, List.map_nil, Deferred.plain,
      Deferred.resolve_ofString]
  have hexports : (exports.map fun (name, value) => exportCommand name value).map
      (fun d => (d.resolve values).toList) =
      (quotedExports values exports).map fun (name, quoted) => exportLine name quoted := by
    rw [quotedExports, List.map_map, List.map_map]
    refine List.map_congr_left fun e _ => ?_
    exact toList_resolve_exportCommand values e.1 e.2
  rw [toList_resolve_render, List.map_append, hunpack, hexports, scriptLines, List.cons_append]

theorem isPlain_of_mem_exports {s : Settings} {arn region : Deferred} :
    ∀ e ∈ exports s arn region, ∀ c ∈ e.1.toList, Shell.isPlain c := by
  have hnames : (exports s arn region).map Prod.fst = ["SECRET_ARN", "AWS_REGION", "REPO_URL",
    "REPO_DIR", "REPO_REF", "SECRET_KEYS", "INSTALL_ARGS"] := rfl
  have hall : ["SECRET_ARN", "AWS_REGION", "REPO_URL", "REPO_DIR", "REPO_REF", "SECRET_KEYS",
    "INSTALL_ARGS"].all (fun name => name.toList.all Shell.isPlain) = true := by decide
  intro e he c hc
  have hmem : e.1 ∈ (exports s arn region).map Prod.fst := List.mem_map_of_mem he
  rw [hnames] at hmem
  exact List.all_eq_true.mp (List.all_eq_true.mp hall e.1 hmem) c hc

theorem isPlain_of_mem_quotedExports {values : PseudoParameter → String} {s : Settings}
    {arn region : Deferred} :
    ∀ e ∈ quotedExports values (exports s arn region), ∀ c ∈ e.1.toList, Shell.isPlain c := by
  intro e he
  obtain ⟨x, hx, rfl⟩ := List.mem_map.mp he
  exact isPlain_of_mem_exports x hx

theorem userData_script {s : Settings} {files : Tree} {encoded : String} (arn region : Deferred)
    (hmode : s.mode? = some .script) (henc : encodeScript files s.bootScript = .ok encoded) :
    (userData s files arn region).outcome = .ok (render
      ((exports s arn region).map (fun (name, value) => exportCommand name value) ++
        unpack encoded)) := by
  rw [userData, hmode, scriptCommands, henc]
  rfl

/-- The words of the user data hold the values as they are, also where the quotes were set before
all of them were known. -/
theorem commands_of_script {s : Settings} {files : Tree} {encoded : String}
    (values : PseudoParameter → String) (hv : ∀ p, '\'' ∉ (values p).toList)
    (arn region : Deferred) (henc : encodeScript files s.bootScript = .ok encoded) :
    commands? ((render ((exports s arn region).map (fun (name, value) => exportCommand name value) ++
      unpack encoded)).resolve values) =
    some ((exports s arn region).map (fun (name, value) => exportWords name (value.resolve values)) ++
      unpackWords encoded) := by
  obtain ⟨hne, hplain⟩ := isPlain_of_encodeScript henc
  have hq : List.Forall₂ (fun e v => e.1 = v.1 ∧ Quoting e.2 v.2.toList)
      (quotedExports values (exports s arn region))
      ((exports s arn region).map fun (name, value) => (name, value.resolve values)) := by
    rw [quotedExports, List.forall₂_map_left_iff, List.forall₂_map_right_iff]
    exact List.forall₂_same.mpr fun e _ => ⟨rfl, quoting_quote values hv e.2⟩
  have hcommands := commands_of_exports (toList_resolve_script values _ encoded)
    isPlain_of_mem_quotedExports hq hne hplain
  rw [hcommands, List.map_map]
  rfl

/-- Nothing in the settings is a command, and every value arrives as it is; keys that pass are found
again between the blanks. -/
theorem script_commands_lossless (s : Settings) (files : Tree) (arn region encoded : String)
    (hmode : s.mode? = some .script) (henc : encodeScript files s.bootScript = .ok encoded) :
    (∃ d, (userData s files (.ofString arn) (.ofString region)).outcome = .ok d ∧
      commands? d.plain = some ([
          exportWords "SECRET_ARN" arn,
          exportWords "AWS_REGION" region,
          exportWords "REPO_URL" s.repoUrl,
          exportWords "REPO_DIR" s.repoDir,
          exportWords "REPO_REF" (s.repoRef.getD ""),
          exportWords "SECRET_KEYS" (" ".intercalate s.secretKeys),
          exportWords "INSTALL_ARGS" (" ".intercalate s.installArgs)] ++
        unpackWords encoded)) ∧
    (s.check files = .ok () → Shell.fields (" ".intercalate s.secretKeys) = s.secretKeys) := by
  refine ⟨⟨_, userData_script (.ofString arn) (.ofString region) hmode henc, ?_⟩, ?_⟩
  · have hcommands := commands_of_script (fun _ => "") (by simp) (.ofString arn) (.ofString region)
      henc
    simpa only [exports, List.map_cons, List.map_nil, Deferred.resolve_ofString,
      Deferred.plain] using hcommands
  · intro hcheck
    refine Shell.fields_intercalate fun key hkey => ?_
    have haccepts := Settings.accepts_of_check hcheck key hkey
    refine ⟨VariableName.ne_nil_of_accepts haccepts, fun c hc => ?_⟩
    have hplain := VariableName.isPlain_of_isRest (VariableName.isRest_of_accepts haccepts c hc)
    exact Shell.not_endsField_of_isPlain hplain

/-- Values with quotes, breaks and everything else that a shell would look at. -/
def hostile : Settings where
  bootMode := "script"
  bootScript := .file ⟨.root, ["boot.sh"]⟩
  repoUrl := "https://host/it's \"$HOME\".git"
  repoRef := some "\u0060id\u0060\n; rm -rf / > '' # \\"
  secretKeys := ["seal_url", "TOKEN_2"]

def hostileFiles : Tree := Tree.empty.insert (.root ["boot.sh"]) (.file [105, 100, 10])

theorem script_commands_lossless_hostile :
    (hostile.mode? = some .script ∧
      encodeScript hostileFiles hostile.bootScript = .ok "aWQK" ∧
      hostile.check hostileFiles = .ok ()) ∧
    (∃ d, (userData hostile hostileFiles (.ofString "it's") (.ofString "")).outcome = .ok d ∧
      commands? d.plain = some ([
          exportWords "SECRET_ARN" "it's",
          exportWords "AWS_REGION" "",
          exportWords "REPO_URL" "https://host/it's \"$HOME\".git",
          exportWords "REPO_DIR" "it's \"$HOME\"",
          exportWords "REPO_REF" "\u0060id\u0060\n; rm -rf / > '' # \\",
          exportWords "SECRET_KEYS" "seal_url TOKEN_2",
          exportWords "INSTALL_ARGS" ""] ++
        unpackWords "aWQK")) ∧
    Shell.fields "seal_url TOKEN_2" = ["seal_url", "TOKEN_2"] := by
  have hmode : hostile.mode? = some .script := by decide
  have henc : encodeScript hostileFiles hostile.bootScript = .ok "aWQK" :=
    ok_of_toOption (by decide)
  have hcheck : hostile.check hostileFiles = .ok () := ok_of_toOption (by decide)
  have hwords := script_commands_lossless hostile hostileFiles "it's" "" "aWQK" hmode henc
  exact ⟨⟨hmode, henc, hcheck⟩, hwords.1, hwords.2 hcheck⟩

end Bootstrap
end EnclaveFleet
