import EnclaveFleet.Proofs.Bootstrap.EnvFile
import EnclaveFleet.Proofs.Settings.Requirements
import Mathlib.Data.List.Basic

/-!
# The variables of the keys

A key that is accepted consists of ASCII. In upper case it is accepted too and as long as before,
and what it was is lost up to case only. The commands about it are lines in which the sign `=` is at
one place, so that they say which variable and which key they are for.

* `VariableName.map_toLower_upper`, `VariableName.map_toUpper_toLower`: upper and lower case
  determine each other
* `variableName_eq_iff`: which keys share a variable
* `OneLine`: nothing ends the line of a command
* `extraction`, `storing`: the commands for a variable and a key
* `extraction_inj`, `storing_inj`: they are not the commands for any others
* `keyLines`: the lines about all of the keys
* `keys_stay_names`: accepted keys, and the commands of mode inline for them
-/
namespace EnclaveFleet
set_option autoImplicit false

/-! ## Upper and lower case -/

namespace VariableName

theorem toLower_toUpper {c : Char} (h : isRest c) : c.toUpper.toLower = c.toLower := by
  have hc := holds_of_isRest (p := fun c => c.toUpper.toLower == c.toLower) (by decide) h
  exact eq_of_beq hc

theorem toUpper_toLower {c : Char} (h : isRest c) : c.toLower.toUpper = c.toUpper := by
  have hc := holds_of_isRest (p := fun c => c.toLower.toUpper == c.toUpper) (by decide) h
  exact eq_of_beq hc

theorem upper_eq {cs : List Char} (h : accepts cs) : Text.upper cs = cs.map Char.toUpper := by
  apply Text.upper_of_ascii
  intro c hc
  exact ascii_of_isRest (isRest_of_accepts h c hc)

theorem map_toLower_upper {cs : List Char} (h : accepts cs) :
    (Text.upper cs).map Char.toLower = cs.map Char.toLower := by
  rw [upper_eq h, List.map_map]
  apply List.map_congr_left
  intro c hc
  exact toLower_toUpper (isRest_of_accepts h c hc)

theorem map_toUpper_toLower {cs : List Char} (h : accepts cs) :
    (cs.map Char.toLower).map Char.toUpper = Text.upper cs := by
  rw [upper_eq h, List.map_map]
  apply List.map_congr_left
  intro c hc
  exact toUpper_toLower (isRest_of_accepts h c hc)

end VariableName

namespace Bootstrap

/-- Equal up to the case of the letters of ASCII. -/
def SameUpToCase (key other : String) : Prop :=
  key.toList.map Char.toLower = other.toList.map Char.toLower

theorem toList_variableName (key : String) :
    (variableName key).toList = Text.upper key.toList := by
  rw [variableName, String.upperCase, String.toList_ofList]

section Variables

variable {key other : String}

theorem length_variableName (h : VariableName.accepts key.toList) :
    (variableName key).length = key.length := by
  rw [← String.length_toList, ← String.length_toList, toList_variableName,
    VariableName.upper_eq h, List.length_map]

theorem variableName_eq_iff (h : VariableName.accepts key.toList)
    (hother : VariableName.accepts other.toList) :
    variableName key = variableName other ↔ SameUpToCase key other := by
  rw [← String.toList_inj, toList_variableName, toList_variableName]
  unfold SameUpToCase
  constructor
  · intro hupper
    rw [← VariableName.map_toLower_upper h, hupper, VariableName.map_toLower_upper hother]
  · intro hlower
    rw [← VariableName.map_toUpper_toLower h, hlower, VariableName.map_toUpper_toLower hother]

/-- A variable is its key up to case, so it is the variable that it has as a key. -/
theorem variableName_variableName (h : VariableName.accepts key.toList) :
    variableName (variableName key) = variableName key := by
  apply (variableName_eq_iff (accepts_variableName h) h).mpr
  unfold SameUpToCase
  rw [toList_variableName, VariableName.map_toLower_upper h]

end Variables

/-! ## Lines -/

/-- What is printable in ASCII has no break of any kind. -/
def OneLine (line : String) : Prop :=
  ∀ c ∈ line.toList, ' ' ≤ c ∧ c ≤ '~'

theorem oneLine_of_all {line : String}
    (h : line.toList.all (fun c => decide (' ' ≤ c ∧ c ≤ '~')) = true) : OneLine line := by
  intro c hc
  exact of_decide_eq_true (List.all_eq_true.mp h c hc)

theorem OneLine.append {line rest : String} (h : OneLine line) (hrest : OneLine rest) :
    OneLine (line ++ rest) := by
  unfold OneLine
  rw [String.toList_append, List.forall_mem_append]
  exact ⟨h, hrest⟩

theorem oneLine_of_accepts {name : String} (h : VariableName.accepts name.toList) :
    OneLine name := by
  intro c hc
  have hrest := VariableName.isRest_of_accepts h c hc
  have hprintable := VariableName.holds_of_isRest (p := fun c => decide (' ' ≤ c ∧ c ≤ '~'))
    (by decide) hrest
  exact of_decide_eq_true hprintable

theorem notMem_of_accepts {name : String} (h : VariableName.accepts name.toList) {c : Char}
    (hc : VariableName.isRest c = false) : c ∉ name.toList := by
  intro hmem
  have hrest := VariableName.isRest_of_accepts h c hmem
  rw [hc] at hrest
  cases hrest

/-- Takes the value of a key out of the secret. -/
def extraction (name key : String) : String :=
  name ++ "=$(echo $SECRET_JSON | jq -r ." ++ key ++ ")"

/-- Adds the value of a variable to the `.env` file. -/
def storing (name : String) : String :=
  "echo \"" ++ name ++ "=$" ++ name ++ "\" >> .env"

section Lines

variable {name key : String}

theorem oneLine_extraction (hname : VariableName.accepts name.toList)
    (hkey : VariableName.accepts key.toList) : OneLine (extraction name key) := by
  have hmiddle : OneLine "=$(echo $SECRET_JSON | jq -r ." := oneLine_of_all (by decide)
  have hend : OneLine ")" := oneLine_of_all (by decide)
  exact (((oneLine_of_accepts hname).append hmiddle).append (oneLine_of_accepts hkey)).append hend

theorem oneLine_storing (hname : VariableName.accepts name.toList) : OneLine (storing name) := by
  have hbegin : OneLine "echo \"" := oneLine_of_all (by decide)
  have hmiddle : OneLine "=$" := oneLine_of_all (by decide)
  have hend : OneLine "\" >> .env" := oneLine_of_all (by decide)
  have hline := oneLine_of_accepts hname
  exact (((hbegin.append hline).append hmiddle).append hline).append hend

theorem toList_extraction (name key : String) :
    (extraction name key).toList =
      name.toList ++ '=' :: ("$(echo $SECRET_JSON | jq -r .".toList ++ (key.toList ++ [')'])) := by
  simp [extraction, String.toList_append]

theorem toList_storing (name : String) :
    (storing name).toList =
      "echo \"".toList ++ (name.toList ++ '=' :: ('$' :: (name.toList ++ "\" >> .env".toList))) := by
  simp [storing, String.toList_append]

/-- The names have no `=`, and the command has one only, so another reading cuts it there too. -/
theorem extraction_inj (hname : VariableName.accepts name.toList)
    (hkey : VariableName.accepts key.toList) {name' key' : String}
    (h : extraction name' key' = extraction name key) : name' = name ∧ key' = key := by
  have hsign : '=' ∉ name.toList := notMem_of_accepts hname (by decide)
  have hrest : '=' ∉ "$(echo $SECRET_JSON | jq -r .".toList ++ (key.toList ++ [')']) := by
    have hafter : '=' ∉ key.toList := notMem_of_accepts hkey (by decide)
    simp [hafter]
  have hchars := congrArg String.toList h
  rw [toList_extraction, toList_extraction] at hchars
  obtain ⟨hnames, -, hrests⟩ := (List.append_cons_inj_of_notMem hsign hrest).mp hchars.symm
  have hkeys := List.append_cancel_right (List.append_cancel_left hrests)
  exact ⟨String.toList_inj.mp hnames.symm, String.toList_inj.mp hkeys.symm⟩

theorem storing_inj (hname : VariableName.accepts name.toList) {name' : String}
    (h : storing name' = storing name) : name' = name := by
  have hsign : '=' ∉ name.toList := notMem_of_accepts hname (by decide)
  have hrest : '=' ∉ '$' :: (name.toList ++ "\" >> .env".toList) := by simp [hsign]
  have hchars := congrArg String.toList h
  rw [toList_storing, toList_storing] at hchars
  have hcut := List.append_cancel_left hchars.symm
  obtain ⟨hnames, -, -⟩ := (List.append_cons_inj_of_notMem hsign hrest).mp hcut
  exact String.toList_inj.mp hnames.symm

end Lines

/-! ## All the lines -/

/-- Every value is taken out of the secret before the first is stored. -/
def keyLines (keys : List String) : List String :=
  keys.map (fun key => extraction (variableName key) key) ++
    keys.map (fun key => storing (variableName key))

/-- After the secret is fetched there are the lines about the keys, and the installation. -/
theorem exists_inlineCommands_eq (s : Settings) (arn region : Deferred) :
    ∃ before : List Deferred, inlineCommands s arn region =
      before ++ fetchSecret arn region ::
        ((keyLines s.secretKeys).map Deferred.ofString ++ [Deferred.ofString (install s)]) := by
  let login : List Deferred := [.ofString "su ec2-user",
    .ofString "sudo dnf install git aws-cli jq -y", .ofString "cd /home/ec2-user"]
  refine ⟨login ++ checkout s ++ [.ofString "export HOME=/home/ec2-user"], ?_⟩
  have hextract : (fun key => Deferred.ofString (extraction (variableName key) key)) =
      fun key => Deferred.ofString (extract key) := rfl
  have hstore : (fun key => Deferred.ofString (storing (variableName key))) =
      fun key => Deferred.ofString (store key) := rfl
  rw [keyLines, List.map_append, List.map_map, List.map_map, Function.comp_def, Function.comp_def,
    hextract, hstore, inlineCommands]
  simp only [login, List.append_assoc, List.cons_append, List.nil_append]

/-- In upper case accepted keys are accepted, as long as before and told apart up to case, and the
commands about the keys of settings that pass are lines for one variable and one key. -/
theorem keys_stay_names :
    (∀ key : String, VariableName.accepts key.toList →
      VariableName.accepts (variableName key).toList ∧
      (variableName key).length = key.length ∧
      variableName (variableName key) = variableName key) ∧
    (∀ key other : String, VariableName.accepts key.toList → VariableName.accepts other.toList →
      (variableName key = variableName other ↔ SameUpToCase key other)) ∧
    ∀ (s : Settings) (files : Tree) (arn region : Deferred), s.check files = .ok () →
      (∃ before : List Deferred, inlineCommands s arn region =
        before ++ fetchSecret arn region ::
          ((keyLines s.secretKeys).map Deferred.ofString ++ [Deferred.ofString (install s)])) ∧
      ∀ key ∈ s.secretKeys,
        VariableName.Identifier (variableName key).toList ∧ VariableName.Identifier key.toList ∧
        OneLine (extraction (variableName key) key) ∧ OneLine (storing (variableName key)) ∧
        (∀ name' key', extraction name' key' = extraction (variableName key) key →
          name' = variableName key ∧ key' = key) ∧
        ∀ name', storing name' = storing (variableName key) → name' = variableName key := by
  refine ⟨?_, ?_, ?_⟩
  · intro key h
    exact ⟨accepts_variableName h, length_variableName h, variableName_variableName h⟩
  · intro key other h hother
    exact variableName_eq_iff h hother
  · intro s files arn region hcheck
    refine ⟨exists_inlineCommands_eq s arn region, ?_⟩
    intro key hmem
    have hkey := Settings.accepts_of_check hcheck key hmem
    have hname := accepts_variableName hkey
    refine ⟨(VariableName.accepts_iff _).mp hname, (VariableName.accepts_iff _).mp hkey,
      oneLine_extraction hname hkey, oneLine_storing hname, ?_, ?_⟩
    · intro name' key' h
      exact extraction_inj hname hkey h
    · intro name' h
      exact storing_inj hname h

/-- Two keys of which one is the variable of the other. -/
theorem keys_stay_names_mixed :
    variableName (variableName "Token_2") = variableName "Token_2" ∧
    variableName "Token_2" = variableName "TOKEN_2" ∧
    (∀ arn region, ∃ before : List Deferred,
      inlineCommands { secretKeys := ["Token_2"] } arn region =
        before ++ fetchSecret arn region ::
          ["TOKEN_2=$(echo $SECRET_JSON | jq -r .Token_2)", "echo \"TOKEN_2=$TOKEN_2\" >> .env",
            "./scripts/install-host.sh"].map Deferred.ofString) ∧
    ∀ name' key', extraction name' key' = "TOKEN_2=$(echo $SECRET_JSON | jq -r .Token_2)" →
      name' = variableName "Token_2" ∧ key' = "Token_2" := by
  obtain ⟨hsame, hapart, hcommands⟩ := keys_stay_names
  have hcheck : ({ secretKeys := ["Token_2"] } : Settings).check Tree.empty = .ok () :=
    ok_of_toOption (by decide)
  have hupToCase : SameUpToCase "Token_2" "TOKEN_2" := by
    unfold SameUpToCase
    decide
  refine ⟨(hsame "Token_2" (by decide)).2.2, ?_, fun arn region => ?_, ?_⟩
  · exact (hapart "Token_2" "TOKEN_2" (by decide) (by decide)).mpr hupToCase
  · obtain ⟨⟨before, hlines⟩, -⟩ := hcommands _ Tree.empty arn region hcheck
    have htexts : keyLines ["Token_2"] ++ [install { secretKeys := ["Token_2"] }] =
        ["TOKEN_2=$(echo $SECRET_JSON | jq -r .Token_2)", "echo \"TOKEN_2=$TOKEN_2\" >> .env",
          "./scripts/install-host.sh"] := by decide
    refine ⟨before, ?_⟩
    rw [hlines, ← List.map_singleton, ← List.map_append, htexts]
  · obtain ⟨-, hkeys⟩ := hcommands _ Tree.empty "arn" "us-east-1" hcheck
    obtain ⟨-, -, -, -, hread, -⟩ := hkeys "Token_2" List.mem_cons_self
    have hline : extraction (variableName "Token_2") "Token_2" =
        "TOKEN_2=$(echo $SECRET_JSON | jq -r .Token_2)" := by decide
    rw [← hline]
    exact hread

end Bootstrap
end EnclaveFleet
