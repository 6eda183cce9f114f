import EnclaveFleet.Proofs.Bootstrap.EnvFile
import EnclaveFleet.Proofs.Bootstrap.ScriptWords
import EnclaveFleet.Proofs.Shell.Literal

/-!
# What the shell reads in mode inline

Each command of the user data is meant to be one simple command, and those about the repository are
meant to have the values that mode script exports. Nothing is quoted, though: the shell reads what
is meant for literal values and for no others.

* `exported`: what mode script sets a variable to
* `meant`: the commands that are meant, one for each of `inlineCommands`
* `readsLine_fetch`, `readsLine_extract`, `readsLine_store`: the commands about the secret
* `lines_checkout`: the commands about the repository
* `inline_words_iff`: the user data of mode inline, for all settings that pass
-/
namespace EnclaveFleet
set_option autoImplicit false

/-! ## Values that are put in -/

namespace Shell.Recognition
open Lexer (isBlank isOperator)
open Scanner (reads_along)

/-- What a command can be made of that ends at the next parenthesis. -/
def isInner (c : Char) : Bool := !(')' :: intricate).contains c

theorem isInner_iff {c : Char} : isInner c ↔ c ≠ ')' ∧ intricate.contains c = false := by
  simp [isInner]

theorem reads_command (w : Word) {cs : List Char} (h : ∀ c ∈ cs, isInner c) :
    Reads (.command w) cs (.command (w ++ Word.active cs)) [] := by
  refine reads_along (S := scanner) .command .active w fun c hc v => ?_
  obtain ⟨hclose, hno⟩ := isInner_iff.mp (h c hc)
  show step (.command v) c = _
  rw [step, if_neg hclose, hno]
  rfl

theorem reads_double (w : Word) {cs : List Char} (h : ∀ c ∈ cs, isOrdinary c) :
    Reads (.double w) cs (.double (w ++ Word.plain cs)) [] := by
  refine reads_along (S := scanner) .double .plain w fun c hc v => ?_
  have hspecial := isOrdinary_iff.mp (h c hc)
  simp only [special, List.mem_cons, List.not_mem_nil, or_false, not_or] at hspecial
  simp [step, stepDouble, hspecial]

theorem reads_rest (inside : Bool) (w : Word) {cs : List Char}
    (h : ∀ c ∈ cs, VariableName.isRest c) :
    Reads (.variable inside w) cs (.variable inside (w ++ Word.active cs)) [] :=
  reads_along (S := scanner) (.variable inside) .active w fun c hc v => by simp [step, h c hc]

theorem reads_variable (inside : Bool) (w : Word) {name : List Char}
    (h : VariableName.accepts name) :
    Reads (.dollar inside w) name (.variable inside (w ++ Word.active name)) [] := by
  cases name with
  | nil => cases h
  | cons c cs =>
    rw [VariableName.accepts, Bool.and_eq_true] at h
    have hstep : scanner.step (.dollar inside w) c =
        some (.variable inside (w ++ [.active c]), []) := by
      simp [step, h.1]
    have hrest := reads_rest inside (w ++ [.active c]) (List.all_eq_true.mp h.2)
    rw [List.append_assoc] at hrest
    exact hrest.cons hstep

theorem isOrdinary_of_isRest {c : Char} (h : VariableName.isRest c) : isOrdinary c :=
  VariableName.holds_of_isRest (by decide) h

theorem isInner_of_isPlain {c : Char} (h : isPlain c) : isInner c := by
  rw [isInner, Bool.not_eq_true', ← Bool.not_eq_true, List.contains_iff_mem]
  exact Lexer.not_mem_of_isPlain (by decide) h

/-! ## Lines that set a variable or store one -/

def plainWord (text : String) : Token := .word (Word.plain text.toList)

/-- A word that sets a variable to what a command puts out. -/
def takenWord (name command : String) : Token :=
  .word (Word.plain (name ++ "=").toList ++ Word.active ("$(" ++ command ++ ")").toList)

/-- A word with a label and the value of a variable. -/
def labelledWord (label name : String) : Token :=
  .word (Word.plain (label ++ "=").toList ++ Word.active ("$" ++ name).toList)

theorem isOrdinary_label {name : String} (h : VariableName.accepts name.toList) :
    ∀ c ∈ (name ++ "=").toList, isOrdinary c := by
  rw [String.toList_append, List.forall_mem_append]
  exact ⟨fun c hc => isOrdinary_of_isRest (VariableName.isRest_of_accepts h c hc),
    List.all_eq_true.mp (by decide)⟩

theorem literal_label {name : String} (h : VariableName.accepts name.toList) :
    Literal (name ++ "=").toList := by
  refine ⟨by simp, fun hsharp => ?_, isOrdinary_label h⟩
  have hmem := List.mem_of_head? hsharp
  rw [String.toList_append, List.mem_append] at hmem
  obtain hmem | hmem := hmem
  · exact absurd (VariableName.isRest_of_accepts h _ hmem) (by decide)
  · exact absurd hmem (by decide)

theorem readsLine_taken {name command : String} (hname : VariableName.accepts name.toList)
    (hcommand : ∀ c ∈ command.toList, isInner c) :
    ReadsLine (name ++ "=$(" ++ command ++ ")").toList [takenWord name command] := by
  have hopen (w : Word) : Reads (.outside (some w)) ['$', '(']
      (.command (w ++ Word.active ['$', '('])) [] := by
    simp [Scanner.Reads, Scanner.run, step, stepOutside, isBlank, isOperator, grown, Word.active,
      VariableName.isStart]
  have hclose (w : Word) : Reads (.command w) [')', '\n'] (.outside none)
      [.word (w ++ Word.active [')']), .newline] := by
    simp [Scanner.Reads, Scanner.run, step, stepOutside, isBlank, ended, Word.active]
  have hline := (literal_label hname).reads.append
    ((hopen _).append ((reads_command _ hcommand).append (hclose _)))
  refine ⟨?_, by simp [takenWord]⟩
  simpa [takenWord, Word.active, String.toList_append] using hline

theorem readsLine_stored {label name : String} (hlabel : VariableName.accepts label.toList)
    (hname : VariableName.accepts name.toList) :
    ReadsLine ("echo \"" ++ label ++ "=$" ++ name ++ "\" >> .env").toList
      [plainWord "echo", labelledWord label name, .operator '>', .operator '>',
        plainWord ".env"] := by
  have hverb : Reads (.outside none) "echo \"".toList (.double []) [plainWord "echo"] := by
    decide
  have hsign (w : Word) : Reads (.double w) ['$'] (.dollar true (w ++ [.active '$'])) [] := by
    simp [Scanner.Reads, Scanner.run, step, stepDouble]
  have hend (w : Word) : Reads (.variable true w) ['"', ' '] (.outside none) [.word w] := by
    simp [Scanner.Reads, Scanner.run, step, stepDouble, stepOutside, isBlank, ended,
      VariableName.isRest]
  have hfile : Reads (.outside none) ">> .env\n".toList (.outside none)
      [.operator '>', .operator '>', plainWord ".env", .newline] := by
    decide
  have hline := hverb.append ((reads_double _ (isOrdinary_label hlabel)).append
    ((hsign _).append ((reads_variable true _ hname).append ((hend _).append hfile))))
  refine ⟨?_, by simp [plainWord, labelledWord]⟩
  simpa [labelledWord, Word.active, String.toList_append] using hline

end Shell.Recognition

/-! ## The commands that are meant -/

namespace Bootstrap
open Shell.Recognition
open Shell.Scanner (lines_line)

def exported (s : Settings) (arn region name : String) : String :=
  (((exports s (.ofString arn) (.ofString region)).lookup name).getD []).plain

def plainLine (words : List String) : List Token := words.map plainWord

def checkoutWords (s : Settings) (arn region : String) : List (List Token) :=
  [plainLine ["git", "clone", exported s arn region "REPO_URL"],
    plainLine ["cd", exported s arn region "REPO_DIR"]] ++
  if exported s arn region "REPO_REF" = "" then []
  else [plainLine ["git", "checkout", exported s arn region "REPO_REF"]]

def fetchWords (arn region : String) : List Token :=
  [takenWord "SECRET_JSON" ("aws secretsmanager get-secret-value --secret-id " ++ arn ++
    " --region " ++ region ++ " --query SecretString --output text")]

def extractWords (key : String) : List Token :=
  [takenWord (variableName key) ("echo $SECRET_JSON | jq -r ." ++ key)]

def storeWords (key : String) : List Token :=
  [plainWord "echo", labelledWord (variableName key) (variableName key), .operator '>',
    .operator '>', plainWord ".env"]

/-- The commands behind those about the repository. -/
def laterWords (s : Settings) (arn region : String) : List (List Token) :=
  [plainLine ["export", "HOME=/home/ec2-user"], fetchWords arn region] ++
  s.secretKeys.map extractWords ++ s.secretKeys.map storeWords ++
  [plainLine ("./scripts/install-host.sh" :: s.installArgs)]

/-- The commands in front of those about the repository. -/
def openingWords : List (List Token) := [
  plainLine ["su", "ec2-user"],
  plainLine ["sudo", "dnf", "install", "git", "aws-cli", "jq", "-y"],
  plainLine ["cd", "/home/ec2-user"]
]

def meant (s : Settings) (arn region : String) : List (List Token) :=
  openingWords ++ checkoutWords s arn region ++ laterWords s arn region

/-- One command of words, whose output may go to a file. -/
def Simple (ts : List Token) : Prop :=
  ts ≠ [] ∧ ∀ t ∈ ts, (∃ w, t = .word w) ∨ t = .operator '>'

theorem exported_of_lookup {s : Settings} {arn region name value : String}
    (h : (exports s (.ofString arn) (.ofString region)).lookup name = some (.ofString value)) :
    exported s arn region name = value := by
  rw [exported, h, Option.getD_some, Deferred.plain_ofString]

theorem exported_url (s : Settings) (arn region : String) :
    exported s arn region "REPO_URL" = s.repoUrl :=
  exported_of_lookup rfl

theorem exported_dir (s : Settings) (arn region : String) :
    exported s arn region "REPO_DIR" = s.repoDir :=
  exported_of_lookup rfl

/-- An exported ref that is empty is none. -/
theorem exported_ref (s : Settings) (arn region : String) :
    s.ref? = if exported s arn region "REPO_REF" = "" then none
      else some (exported s arn region "REPO_REF") := by
  have hvalue : exported s arn region "REPO_REF" = s.repoRef.getD "" := exported_of_lookup rfl
  rw [hvalue, Settings.ref?]
  cases s.repoRef with
  | none => rfl
  | some ref => by_cases h : ref = "" <;> simp [Option.filter, h]

theorem length_meant (s : Settings) (arn region : String) :
    (meant s arn region).length =
      (inlineCommands s (.ofString arn) (.ofString region)).length := by
  have hcheckout : (checkoutWords s arn region).length = (checkout s).length := by
    rw [checkoutWords, checkout, exported_ref s arn region]
    split <;> rfl
  simp [meant, openingWords, inlineCommands, laterWords, hcheckout]

theorem simple_plainLine {words : List String} (h : words ≠ []) : Simple (plainLine words) := by
  refine ⟨by simpa [plainLine] using h, fun t ht => ?_⟩
  obtain ⟨word, _, rfl⟩ := List.mem_map.mp ht
  exact .inl ⟨_, rfl⟩

theorem simple_of_mem_later (s : Settings) (arn region : String) :
    ∀ ts ∈ laterWords s arn region, Simple ts := by
  have hfetch : Simple (fetchWords arn region) := by simp [Simple, fetchWords, takenWord]
  have hextract (key : String) : Simple (extractWords key) := by
    simp [Simple, extractWords, takenWord]
  have hstore (key : String) : Simple (storeWords key) := by
    simp [Simple, storeWords, plainWord, labelledWord]
  simp only [laterWords, List.forall_mem_append, List.forall_mem_map]
  exact ⟨⟨⟨by simp [simple_plainLine, hfetch], fun key _ => hextract key⟩, fun key _ => hstore key⟩,
    by simp [simple_plainLine]⟩

theorem simple_of_mem_meant (s : Settings) (arn region : String) :
    ∀ ts ∈ meant s arn region, Simple ts := by
  have hcheckout : ∀ ts ∈ checkoutWords s arn region, Simple ts := by
    rw [checkoutWords]
    split <;> simp [simple_plainLine]
  simp only [meant, List.forall_mem_append]
  exact ⟨⟨by simp [openingWords, simple_plainLine], hcheckout⟩, simple_of_mem_later s arn region⟩

/-! ## Reading the commands -/

theorem readsLine_fetch {arn region : String} (harn : ∀ c ∈ arn.toList, Shell.isPlain c)
    (hregion : ∀ c ∈ region.toList, Shell.isPlain c) :
    ReadsLine (fetchSecret (.ofString arn) (.ofString region)).plain.toList
      (fetchWords arn region) := by
  have hopen : "SECRET_JSON=$(aws secretsmanager get-secret-value --secret-id " =
      "SECRET_JSON" ++ "=$(" ++ "aws secretsmanager get-secret-value --secret-id " := by decide
  have hclose : " --query SecretString --output text)" =
      " --query SecretString --output text" ++ ")" := by decide
  have htext : (fetchSecret (.ofString arn) (.ofString region)).plain =
      "SECRET_JSON" ++ "=$(" ++ ("aws secretsmanager get-secret-value --secret-id " ++ arn ++
        " --region " ++ region ++ " --query SecretString --output text") ++ ")" := by
    rw [fetchSecret, hopen, hclose]
    simp only [Deferred.plain, Deferred.resolve_append, Deferred.resolve_ofString,
      Deferred.resolve_cons, Deferred.resolve_nil, Piece.resolve, String.append_assoc,
      String.append_empty]
  rw [htext]
  refine readsLine_taken (by decide) ?_
  simp only [String.toList_append, List.forall_mem_append]
  have hfirst : ∀ c ∈ "aws secretsmanager get-secret-value --secret-id ".toList, isInner c :=
    List.all_eq_true.mp (by decide)
  have hsecond : ∀ c ∈ " --region ".toList, isInner c := List.all_eq_true.mp (by decide)
  have hthird : ∀ c ∈ " --query SecretString --output text".toList, isInner c :=
    List.all_eq_true.mp (by decide)
  exact ⟨⟨⟨⟨hfirst, fun c hc => isInner_of_isPlain (harn c hc)⟩, hsecond⟩,
    fun c hc => isInner_of_isPlain (hregion c hc)⟩, hthird⟩

theorem readsLine_extract {key : String} (h : VariableName.accepts key.toList) :
    ReadsLine (extract key).toList (extractWords key) := by
  have hopen : "=$(echo $SECRET_JSON | jq -r ." = "=$(" ++ "echo $SECRET_JSON | jq -r ." := by
    decide
  have htext : extract key =
      variableName key ++ "=$(" ++ ("echo $SECRET_JSON | jq -r ." ++ key) ++ ")" := by
    rw [extract, hopen]
    simp only [String.append_assoc]
  rw [htext]
  refine readsLine_taken (accepts_variableName h) ?_
  rw [String.toList_append, List.forall_mem_append]
  refine ⟨List.all_eq_true.mp (by decide), fun c hc => isInner_of_isPlain ?_⟩
  exact VariableName.isPlain_of_isRest (VariableName.isRest_of_accepts h c hc)

theorem readsLine_store {key : String} (h : VariableName.accepts key.toList) :
    ReadsLine (store key).toList (storeWords key) :=
  readsLine_stored (accepts_variableName h) (accepts_variableName h)

theorem readsLine_install (s : Settings) :
    ReadsLine (install s).toList (plainLine ("./scripts/install-host.sh" :: s.installArgs)) := by
  rw [install, Settings.installArgs]
  cases s.production
  · decide
  · decide

/-- The commands behind those about the repository. -/
def laterCommands (s : Settings) (arn region : String) : List Deferred :=
  [.ofString "export HOME=/home/ec2-user", fetchSecret (.ofString arn) (.ofString region)] ++
  s.secretKeys.map (fun key => .ofString (extract key)) ++
  s.secretKeys.map (fun key => .ofString (store key)) ++
  [.ofString (install s)]

theorem readsLine_later {s : Settings} {arn region : String}
    (hkeys : ∀ key ∈ s.secretKeys, VariableName.accepts key.toList)
    (harn : ∀ c ∈ arn.toList, Shell.isPlain c) (hregion : ∀ c ∈ region.toList, Shell.isPlain c) :
    List.Forall₂ ReadsLine ((laterCommands s arn region).map fun d => d.plain.toList)
      (laterWords s arn region) := by
  have hexport : ReadsLine "export HOME=/home/ec2-user".toList
      (plainLine ["export", "HOME=/home/ec2-user"]) := by
    decide
  have hextract : List.Forall₂ ReadsLine (s.secretKeys.map fun key => (extract key).toList)
      (s.secretKeys.map extractWords) := by
    rw [List.forall₂_map_left_iff, List.forall₂_map_right_iff]
    exact List.forall₂_same.mpr fun key hkey => readsLine_extract (hkeys key hkey)
  have hstore : List.Forall₂ ReadsLine (s.secretKeys.map fun key => (store key).toList)
      (s.secretKeys.map storeWords) := by
    rw [List.forall₂_map_left_iff, List.forall₂_map_right_iff]
    exact List.forall₂_same.mpr fun key hkey => readsLine_store (hkeys key hkey)
  have hlines := List.rel_append (List.rel_append (List.rel_append
    (.cons hexport (.cons (readsLine_fetch harn hregion) .nil)) hextract) hstore)
    (.cons (readsLine_install s) .nil)
  simpa [laterCommands, laterWords, Function.comp_def] using hlines

/-! ## The repository -/

/-- The lines of a script up to its end. -/
def chars (commands : List Deferred) : List Char :=
  (commands.map fun d => d.plain.toList).flatMap (· ++ ['\n'])

theorem startsWord_verb (verb rest : String) (hne : verb.toList ≠ [])
    (hverb : verb.toList.all isOrdinary = true) : StartsWord (verb ++ " " ++ rest).toList :=
  ⟨verb.toList, rest.toList, by simp [String.toList_append], hne, List.all_eq_true.mp hverb⟩

theorem startsWord_append {cs : List Char} (h : StartsWord cs) (ds : List Char) :
    StartsWord (cs ++ ds) := by
  obtain ⟨k, rest, rfl, hk⟩ := h
  exact ⟨k, rest ++ ds, by simp, hk⟩

theorem lines_plainLine {verb : String} {words : List String} (value : String) {cs : List Char}
    {more : List (List Token)} (hne : words ≠ [])
    (hverb : Reads (.outside none) verb.toList (.outside none) (plainLine words))
    (hnext : StartsWord cs) (hmore : more ≠ []) :
    Lines ((verb ++ value).toList ++ '\n' :: cs) (plainLine (words ++ [value]) :: more) ↔
      Literal value.toList ∧ Lines cs more := by
  have hsplit : plainLine (words ++ [value]) = plainLine words ++ [plainWord value] := by
    simp [plainLine]
  rw [hsplit, String.toList_append]
  exact lines_value hverb (by simpa [plainLine] using hne) (by simp [plainLine, plainWord]) hnext
    hmore

theorem lines_clone (url dir : String) {cs : List Char} {more : List (List Token)}
    (hnext : StartsWord cs) (hmore : more ≠ []) :
    Lines (("git clone " ++ url).toList ++ '\n' :: (("cd " ++ dir).toList ++ '\n' :: cs))
        (plainLine ["git", "clone", url] :: plainLine ["cd", dir] :: more) ↔
      Literal url.toList ∧ Literal dir.toList ∧ Lines cs more := by
  have hclone : Reads (.outside none) "git clone ".toList (.outside none)
      (plainLine ["git", "clone"]) := by
    decide
  have hcd : Reads (.outside none) "cd ".toList (.outside none) (plainLine ["cd"]) := by decide
  have hdir : StartsWord (("cd " ++ dir).toList ++ '\n' :: cs) := by
    rw [String.toList_append, List.append_assoc]
    exact startsWord_append (startsWord_verb "cd" "" (by decide) (by decide)) _
  have hsecond := lines_plainLine dir (by simp) hcd hnext hmore
  have hfirst := lines_plainLine url (by simp) hclone hdir
    (List.cons_ne_nil (plainLine ["cd", dir]) more)
  exact hfirst.trans (and_congr_right fun _ => hsecond)

theorem lines_ref (ref : String) {cs : List Char} {more : List (List Token)}
    (hnext : StartsWord cs) (hmore : more ≠ []) :
    StartsWord (("git checkout " ++ ref).toList ++ '\n' :: cs) ∧
      (Lines (("git checkout " ++ ref).toList ++ '\n' :: cs)
        (plainLine ["git", "checkout", ref] :: more) ↔ Literal ref.toList ∧ Lines cs more) := by
  have hverb : Reads (.outside none) "git checkout ".toList (.outside none)
      (plainLine ["git", "checkout"]) := by
    decide
  refine ⟨?_, lines_plainLine ref (by simp) hverb hnext hmore⟩
  rw [String.toList_append, List.append_assoc]
  exact startsWord_append (startsWord_verb "git" "checkout " (by decide) (by decide)) _

/-- The commands about the repository are read as they are meant if its values are literal, and not
otherwise. -/
theorem lines_checkout (s : Settings) (arn region : String) {cs : List Char}
    {more : List (List Token)} (hnext : StartsWord cs) (hmore : more ≠ []) :
    Lines (chars (checkout s) ++ cs) (checkoutWords s arn region ++ more) ↔
      (Literal s.repoUrl.toList ∧ Literal s.repoDir.toList ∧
        ∀ ref, s.ref? = some ref → Literal ref.toList) ∧ Lines cs more := by
  rw [chars, checkout, checkoutWords, exported_ref s arn region, exported_url, exported_dir]
  generalize exported s arn region "REPO_REF" = ref
  by_cases hempty : ref = ""
  · have hlines := lines_clone s.repoUrl s.repoDir hnext hmore
    simpa [hempty, and_assoc] using hlines
  · obtain ⟨hstart, href⟩ := lines_ref ref hnext hmore
    have hlines := lines_clone s.repoUrl s.repoDir hstart
      (List.cons_ne_nil (plainLine ["git", "checkout", ref]) more)
    rw [href] at hlines
    simpa [hempty, and_assoc] using hlines

/-! ## The user data -/

theorem startsWord_later (s : Settings) (arn region : String) :
    StartsWord (chars (laterCommands s arn region)) := by
  have hexport : StartsWord "export HOME=/home/ec2-user".toList :=
    startsWord_verb "export" "HOME=/home/ec2-user" (by decide) (by decide)
  rw [chars, laterCommands]
  simpa using startsWord_append hexport _

theorem lines_later {s : Settings} {arn region : String}
    (hkeys : ∀ key ∈ s.secretKeys, VariableName.accepts key.toList)
    (harn : ∀ c ∈ arn.toList, Shell.isPlain c) (hregion : ∀ c ∈ region.toList, Shell.isPlain c) :
    Lines (chars (laterCommands s arn region)) (laterWords s arn region) :=
  Shell.Scanner.lines_flatMap_of_ne_nil (readsLine_later hkeys harn hregion)
    fun ts hts => (simple_of_mem_later s arn region ts hts).1

/-- Whatever is read of the commands about the repository, the others are read as they are meant. -/
theorem commands_inline {s : Settings} {arn region : String} {words : List (List Token)} :
    commands? (render (inlineCommands s (.ofString arn) (.ofString region))).plain =
        some (openingWords ++ words) ↔
      Lines (chars (checkout s) ++ chars (laterCommands s arn region)) words := by
  have hbang : ReadsLine shebang.toList [] := by decide
  have hsu : ReadsLine "su ec2-user".toList (plainLine ["su", "ec2-user"]) := by decide
  have hinstall : ReadsLine "sudo dnf install git aws-cli jq -y".toList
      (plainLine ["sudo", "dnf", "install", "git", "aws-cli", "jq", "-y"]) := by
    decide
  have hcd : ReadsLine "cd /home/ec2-user".toList (plainLine ["cd", "/home/ec2-user"]) := by decide
  have hcommands : inlineCommands s (.ofString arn) (.ofString region) =
      [.ofString "su ec2-user", .ofString "sudo dnf install git aws-cli jq -y",
        .ofString "cd /home/ec2-user"] ++ checkout s ++ laterCommands s arn region := by
    simp [inlineCommands, laterCommands]
  have htext : (render (inlineCommands s (.ofString arn) (.ofString region))).plain.toList ++
      ['\n'] = shebang.toList ++ '\n' :: ("su ec2-user".toList ++ '\n' ::
        ("sudo dnf install git aws-cli jq -y".toList ++ '\n' ::
          ("cd /home/ec2-user".toList ++ '\n' ::
            (chars (checkout s) ++ chars (laterCommands s arn region))))) := by
    rw [Deferred.plain, toList_resolve_render, Shell.Scanner.intercalate_newline, hcommands]
    simp only [chars, Deferred.plain, Deferred.resolve_ofString, List.map_append, List.map_cons,
      List.flatMap_cons, List.flatMap_append, List.append_assoc, List.nil_append,
      List.cons_append]
  rw [Shell.Scanner.commands_eq_some_iff, htext, Shell.Scanner.lines_blank hbang]
  exact ((lines_line hsu (by simp [plainLine])).trans
    (lines_line hinstall (by simp [plainLine]))).trans (lines_line hcd (by simp [plainLine]))

theorem commands_inline_iff {s : Settings} {arn region : String}
    (hkeys : ∀ key ∈ s.secretKeys, VariableName.accepts key.toList)
    (harn : ∀ c ∈ arn.toList, Shell.isPlain c) (hregion : ∀ c ∈ region.toList, Shell.isPlain c) :
    commands? (render (inlineCommands s (.ofString arn) (.ofString region))).plain =
        some (meant s arn region) ↔
      Literal s.repoUrl.toList ∧ Literal s.repoDir.toList ∧
        ∀ ref, s.ref? = some ref → Literal ref.toList := by
  have hmore : laterWords s arn region ≠ [] := by simp [laterWords]
  rw [meant, List.append_assoc, commands_inline,
    lines_checkout s arn region (startsWord_later s arn region) hmore]
  exact and_iff_left (lines_later hkeys harn hregion)

/-- The commands that are meant are simple ones, as many as are written, and the shell reads them if
and only if nothing in the values of the repository has a meaning to it. -/
theorem inline_words_iff (s : Settings) (files : Tree) (arn region : String)
    (hcheck : s.check files = .ok ()) (harn : ∀ c ∈ arn.toList, Shell.isPlain c)
    (hregion : ∀ c ∈ region.toList, Shell.isPlain c) :
    (meant s arn region).length =
        (inlineCommands s (.ofString arn) (.ofString region)).length ∧
      (∀ ts ∈ meant s arn region, Simple ts) ∧
      (commands? (render (inlineCommands s (.ofString arn) (.ofString region))).plain =
          some (meant s arn region) ↔
        Literal s.repoUrl.toList ∧ Literal s.repoDir.toList ∧
          ∀ ref, s.ref? = some ref → Literal ref.toList) :=
  ⟨length_meant s arn region, simple_of_mem_meant s arn region,
    commands_inline_iff (Settings.accepts_of_check hcheck) harn hregion⟩

def hostArn : String := "arn:aws:secretsmanager:us-east-1:123456789012:secret:sp1_tee-AbCdEf"

theorem inline_words_iff_default :
    (({} : Settings).check .empty = .ok () ∧ (∀ c ∈ hostArn.toList, Shell.isPlain c) ∧
      ∀ c ∈ "us-east-1".toList, Shell.isPlain c) ∧
    commands? (render (inlineCommands {} (.ofString hostArn) (.ofString "us-east-1"))).plain =
      some (meant {} hostArn "us-east-1") := by
  have hcheck : ({} : Settings).check .empty = .ok () := ok_of_toOption (by decide)
  have harn : ∀ c ∈ hostArn.toList, Shell.isPlain c := List.all_eq_true.mp (by decide)
  have hregion : ∀ c ∈ "us-east-1".toList, Shell.isPlain c := List.all_eq_true.mp (by decide)
  have hwords := (inline_words_iff {} .empty hostArn "us-east-1" hcheck harn hregion).2.2
  refine ⟨⟨hcheck, harn, hregion⟩, hwords.mpr ⟨by decide, by decide, fun ref href => ?_⟩⟩
  cases href

/-- An address with a blank and a ref with a second command behind it. -/
def unquoted : Settings where
  repoUrl := "https://example.com/org/my repo.git"
  repoRef := some "main; reboot"

theorem lines_unquoted {cs : List Char} {more : List (List Token)} :
    Lines (chars (checkout unquoted) ++ cs) ([
      plainLine ["git", "clone", "https://example.com/org/my", "repo.git"],
      plainLine ["cd", "my", "repo"],
      plainLine ["git", "checkout", "main"] ++ [.operator ';', plainWord "reboot"]] ++ more) ↔
    Lines cs more := by
  have hclone : ReadsLine "git clone https://example.com/org/my repo.git".toList
      (plainLine ["git", "clone", "https://example.com/org/my", "repo.git"]) := by
    decide
  have hcd : ReadsLine "cd my repo".toList (plainLine ["cd", "my", "repo"]) := by decide
  have hcheckout : ReadsLine "git checkout main; reboot".toList
      (plainLine ["git", "checkout", "main"] ++ [.operator ';', plainWord "reboot"]) := by
    decide
  have htext : chars (checkout unquoted) ++ cs =
      "git clone https://example.com/org/my repo.git".toList ++ '\n' ::
        ("cd my repo".toList ++ '\n' :: ("git checkout main; reboot".toList ++ '\n' :: cs)) := by
    have hcommands : checkout unquoted =
        [.ofString "git clone https://example.com/org/my repo.git", .ofString "cd my repo",
          .ofString "git checkout main; reboot"] := by
      decide
    simp only [chars, hcommands, List.map_cons, List.map_nil, Deferred.plain_ofString,
      List.flatMap_cons, List.flatMap_nil, List.append_assoc, List.cons_append, List.nil_append]
  rw [htext]
  exact ((lines_line hclone (by simp [plainLine])).trans
    (lines_line hcd (by simp [plainLine]))).trans (lines_line hcheckout (by simp [plainLine]))

/-- A value that is not literal can come out as other words, and as commands of its own. -/
theorem inline_words_altered :
    (unquoted.check .empty = .ok () ∧ (∀ c ∈ hostArn.toList, Shell.isPlain c) ∧
      ∀ c ∈ "us-east-1".toList, Shell.isPlain c) ∧
    (∃ before after, commands? (render (inlineCommands unquoted (.ofString hostArn)
      (.ofString "us-east-1"))).plain = some (before ++ ([
        plainLine ["git", "clone", "https://example.com/org/my", "repo.git"],
        plainLine ["cd", "my", "repo"],
        plainLine ["git", "checkout", "main"] ++ [.operator ';', plainWord "reboot"]] ++ after))) ∧
    commands? (render (inlineCommands unquoted (.ofString hostArn)
      (.ofString "us-east-1"))).plain ≠ some (meant unquoted hostArn "us-east-1") := by
  have hcheck : unquoted.check .empty = .ok () := ok_of_toOption (by decide)
  have harn : ∀ c ∈ hostArn.toList, Shell.isPlain c := List.all_eq_true.mp (by decide)
  have hregion : ∀ c ∈ "us-east-1".toList, Shell.isPlain c := List.all_eq_true.mp (by decide)
  have hkeys := Settings.accepts_of_check hcheck
  refine ⟨⟨hcheck, harn, hregion⟩, ⟨openingWords, laterWords unquoted hostArn "us-east-1", ?_⟩, ?_⟩
  · rw [commands_inline, lines_unquoted]
    exact lines_later hkeys harn hregion
  · intro hmeant
    have hliteral := (commands_inline_iff hkeys harn hregion).mp hmeant
    exact absurd hliteral.1 (by decide)

end Bootstrap
end EnclaveFleet
