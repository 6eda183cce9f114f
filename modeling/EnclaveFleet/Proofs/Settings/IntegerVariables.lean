import EnclaveFleet.Proofs.Settings.Reported
import EnclaveFleet.Proofs.Text.Numerals

/-!
# Variables that hold integers

A variable is blank, or it denotes an integer, or it is malformed. In the last case alone something
is noted, and the default is taken as for a blank one.

* `Environment.readInteger`: the integer of a variable, behind what was noted before
* `Environment.Malformed`: values that are neither blank nor numerals
* `Environment.note?`: what there is to note about a variable
* `Settings.notes_ofEnvironment`: the notes of the settings, a note for each malformed variable
* `integers_read_or_noted`: what is read and noted of every variable
* `separator_is_no_padding`: not all that is blank may stand around a numeral
-/
namespace EnclaveFleet
set_option autoImplicit false

open Text (isBlank)
open Text.Numeral (Denotes isPadding maxDigits)

namespace Environment

/-- The integer of a variable, and all that is noted once it is read. -/
def readInteger (env : Environment) (name : String) (default : Int) (noted : List String) :
    Int × List String :=
  ((env.integer name default).1, noted ++ (env.integer name default).2)

/-- The value is not blank, and it is no numeral either. -/
def Malformed (value : String) : Prop :=
  value.isAllBlank = false ∧ ∀ n, ¬Denotes isPadding value.toList n

instance decidableMalformed : DecidablePred Malformed := fun value =>
  decidable_of_iff (value.isAllBlank = false ∧ Text.Numeral.parse? value.toList = none)
    (and_congr_right fun _ => Text.Numeral.parse?_eq_none_iff)

def note? (env : Environment) (v : Variable) : Option String :=
  ((env v.name).filter fun value => Malformed value).map (malformedInteger v.name)

/-! ## One variable -/

section
variable {env : Environment} {name value : String} (default : Int)

theorem integer_of_blank (h : ∀ value, env name = some value → value.isAllBlank) :
    env.integer name default = (default, []) := by
  unfold integer
  rw [filled_eq_none_iff.mpr h]

theorem integer_of_denotes {n : Int} (h : env name = some value)
    (hn : Denotes isPadding value.toList n) : env.integer name default = (n, []) := by
  have hblank : value.isAllBlank = false := Text.Numeral.not_allBlank_of_denotes hn
  unfold integer
  rw [filled_eq_some_iff.mpr ⟨h, hblank⟩]
  simp only [Text.Numeral.parse?_eq_some_iff.mpr hn]

theorem integer_of_malformed (h : env name = some value) (hvalue : Malformed value) :
    env.integer name default = (default, [malformedInteger name value]) :=
  Settings.integer_of_unread default (filled_eq_some_iff.mpr ⟨h, hvalue.1⟩)
    (Text.Numeral.parse?_eq_none_iff.mpr hvalue.2)

theorem blank_denotes_or_malformed (value : String) :
    value.isAllBlank ∨ (∃ n, Denotes isPadding value.toList n) ∨ Malformed value := by
  by_cases hblank : value.isAllBlank = true
  · exact .inl hblank
  · by_cases hn : ∃ n, Denotes isPadding value.toList n
    · exact .inr (.inl hn)
    · exact .inr (.inr ⟨by simpa using hblank, not_exists.mp hn⟩)

theorem snd_integer (env : Environment) (v : Variable) :
    (env.integer v.name default).2 = (env.note? v).toList := by
  unfold note?
  cases hvalue : env v.name with
  | none =>
    rw [integer_of_blank default (by simp [hvalue])]
    rfl
  | some value =>
    obtain hblank | ⟨n, hn⟩ | hmalformed := blank_denotes_or_malformed value
    · have hnot : ¬Malformed value := fun h => by simp [h.1] at hblank
      rw [integer_of_blank default (by simpa [hvalue] using hblank)]
      simp [Option.filter, hnot]
    · have hnot : ¬Malformed value := fun h => h.2 n hn
      rw [integer_of_denotes default hvalue hn]
      simp [Option.filter, hnot]
    · rw [integer_of_malformed default hvalue hmalformed]
      simp [Option.filter, hmalformed]

end

end Environment

namespace Settings

/-! ## All of them -/

/-- The integers are read one after the other, and what is noted goes from each to the next. -/
theorem ofEnvironment_reads (env : Environment) :
    let size := env.readInteger (Variable.name .fleetSize) 2 []
    let port := env.readInteger (Variable.name .listenerPort) 443 size.2
    let gateways := env.readInteger (Variable.name .natGateways) 1 port.2
    (ofEnvironment env).fleetSize = size.1 ∧ (ofEnvironment env).listenerPort = port.1 ∧
      (ofEnvironment env).natGateways = gateways.1 ∧ (ofEnvironment env).notes = gateways.2 :=
  ⟨rfl, rfl, rfl, rfl⟩

theorem notes_ofEnvironment (env : Environment) :
    (ofEnvironment env).notes = integerVariables.filterMap env.note? := by
  rw [(ofEnvironment_reads env).2.2.2]
  simp only [Environment.readInteger, Environment.snd_integer, List.nil_append]
  rw [integerVariables, List.filterMap_eq_flatMap_toList]
  simp

end Settings

/-- An integer is read wherever a variable denotes one, and what is malformed is noted. -/
theorem integers_read_or_noted (env : Environment) :
    (∀ name default noted, (∀ value, env name = some value → value.isAllBlank) →
      env.readInteger name default noted = (default, noted)) ∧
    (∀ name default noted value n, env name = some value → Denotes isPadding value.toList n →
      env.readInteger name default noted = (n, noted)) ∧
    (∀ name default noted value, env name = some value → value.isAllBlank = false →
      (∀ n, ¬Denotes isPadding value.toList n) →
      env.readInteger name default noted =
        (default, noted ++ [name ++ " must be an integer, got " ++ value.quotedText])) ∧
    (∀ name default noted before (n : Int) after, n.natAbs < 10 ^ maxDigits →
      (∀ c ∈ before, isPadding c) → (∀ c ∈ after, isPadding c) →
      env name = some (String.ofList (before ++ (toString n).toList ++ after)) →
      env.readInteger name default noted = (n, noted)) ∧
    (Settings.ofEnvironment env).notes = Settings.integerVariables.filterMap env.note? := by
  refine ⟨?_, ?_, ?_, ?_, Settings.notes_ofEnvironment env⟩
  · intro name default noted hblank
    rw [Environment.readInteger, Environment.integer_of_blank default hblank, List.append_nil]
  · intro name default noted value n hvalue hn
    rw [Environment.readInteger, Environment.integer_of_denotes default hvalue hn,
      List.append_nil]
  · intro name default noted value hvalue hblank hnone
    rw [Environment.readInteger, Environment.integer_of_malformed default hvalue ⟨hblank, hnone⟩]
    rfl
  · intro name default noted before n after hn hbefore hafter hvalue
    have hdenotes := Text.Numeral.denotes_toString hn hbefore hafter
    rw [Environment.readInteger, Environment.integer_of_denotes default hvalue
      (by rwa [String.toList_ofList]), List.append_nil]

/-- An integer with digits of two scripts, one in another base, and one that is left out. -/
def someIntegers : Environment := .ofList [(Variable.name .fleetSize, "\u2003+\u0661_2\n"),
  (Variable.name .listenerPort, "0x1bb"), (Variable.name .natGateways, " \t")]

theorem integers_read_or_noted_mixed :
    someIntegers.readInteger (Variable.name .fleetSize) 2 ["seen"] = (12, ["seen"]) ∧
    someIntegers.readInteger (Variable.name .listenerPort) 443 ["seen"] =
      (443, ["seen", "TEE_FLEET_LISTENER_PORT must be an integer, got '0x1bb'"]) ∧
    someIntegers.readInteger (Variable.name .natGateways) 1 ["seen"] = (1, ["seen"]) ∧
    (Settings.ofEnvironment someIntegers).notes =
      ["TEE_FLEET_LISTENER_PORT must be an integer, got '0x1bb'"] ∧
    (Environment.ofList [("N", "\t-40 ")]).readInteger "N" 0 [] = (-40, []) := by
  obtain ⟨hblank, hdenotes, hmalformed, -, hnotes⟩ := integers_read_or_noted someIntegers
  obtain ⟨-, -, -, hdecimal, -⟩ := integers_read_or_noted (.ofList [("N", "\t-40 ")])
  have hport : someIntegers (Variable.name .listenerPort) = some "0x1bb" := by decide
  have hnone : ∀ n, ¬Denotes isPadding "0x1bb".toList n :=
    Text.Numeral.parse?_eq_none_iff.mp (by decide)
  have hsmall : (-40 : Int).natAbs < 10 ^ maxDigits :=
    Nat.lt_of_lt_of_le (by decide : 40 < 10 ^ 2) (Nat.pow_le_pow_right (by decide) (by decide))
  refine ⟨?_, ?_, ?_, ?_, ?_⟩
  · exact hdenotes _ _ _ "\u2003+\u0661_2\n" _ (by decide)
      (Text.Numeral.parse?_eq_some_iff.mp (by decide))
  · exact hmalformed _ _ _ "0x1bb" hport (by decide) hnone
  · refine hblank _ _ _ fun value hvalue => ?_
    have hgateways : someIntegers (Variable.name .natGateways) = some " \t" := by decide
    rw [hgateways] at hvalue
    rw [← Option.some.inj hvalue]
    decide
  · rw [hnotes]
    decide +kernel
  · have htab : ∀ c ∈ ['\t'], isPadding c := List.all_eq_true.mp (by decide)
    have hspace : ∀ c ∈ [' '], isPadding c := List.all_eq_true.mp (by decide)
    exact hdecimal _ _ _ ['\t'] (-40) [' '] hsmall htab hspace (by decide)

/-! ## Blanks that are no padding -/

def separated : Environment := .ofList [(Variable.name .fleetSize, "\x1c5")]

/-- A separator leaves a variable blank, but the variable is malformed with an integer behind it. -/
theorem separator_is_no_padding :
    ¬(∀ env name default noted value n, env name = some value →
      Denotes isBlank value.toList n →
      Environment.readInteger env name default noted = (n, noted)) ∧
    separated.readInteger (Variable.name .fleetSize) 2 [] =
      (2, ["TEE_FLEET_SIZE must be an integer, got '\\x1c5'"]) := by
  have hdenotes : Denotes isBlank "\x1c5".toList 5 := by
    have hseparator : ∀ c ∈ ['\x1c'], isBlank c := List.all_eq_true.mp (by decide)
    have hfive := Text.Numeral.signed_of_read (by decide : Text.Numeral.signed? ['5'] = some 5)
    exact Text.Numeral.denotes_iff.mpr
      ⟨['\x1c'], ['5'], [], hseparator, hfive, by simp, by decide⟩
  have hread : separated.readInteger (Variable.name .fleetSize) 2 [] =
      (2, ["TEE_FLEET_SIZE must be an integer, got '\\x1c5'"]) := by decide +kernel
  refine ⟨fun h => ?_, hread⟩
  have hfive := h separated (Variable.name .fleetSize) 2 [] "\x1c5" 5 (by decide) hdenotes
  rw [hread] at hfive
  cases hfive

end EnclaveFleet
