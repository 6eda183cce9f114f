import EnclaveFleet.Console.Completion.Dialect
import EnclaveFleet.Console.Page
import EnclaveFleet.Console.Session
import EnclaveFleet.Settings.Environment
import EnclaveFleet.Settings.Validation
import EnclaveFleet.Shell.Words

/-!
# Completing words of the command line

A shell asks for completions through variables and not through the words of the command line.

* `Request`: what a shell asks for
* `Typed`: the words in front of the one that is to be completed, and that word
* `Reached`: the command that words lead to, with the options that were given to it
* `completions`: what a word can be completed to
* `Program.completionVariable`: the variable by which a shell asks
* `answerShell`: the session in which a shell is answered

Words that could not be executed count as far as they can be read.
-/
namespace EnclaveFleet.Console
set_option autoImplicit false

inductive Request where
  | complete (d : Dialect)
  | script (d : Dialect)
deriving DecidableEq

/-- The shell stands in front of the first underscore and what it asks for behind it. -/
def Request.ofText? (s : String) : Option Request :=
  let (shell, wish?) := s.cutAt '_'
  match Dialect.ofName? shell, wish? with
  | some d, some "complete" => some (.complete d)
  | some d, some "source" => some (.script d)
  | _, _ => none

/-! ## What was typed -/

structure Typed where
  before : List String
  last : String
deriving DecidableEq

namespace Typed

def wordsVariable : String := "COMP_WORDS"

def positionVariable : String := "COMP_CWORD"

/-- The word at a position, counted from the end where that is negative. The program itself is the
first of the words. -/
def atPosition (words : List String) (position : Int) : Typed :=
  let place := if position < 0 then position + words.length else position
  { before := (words.take place.toNat).drop 1
    last := if place < 0 then "" else words.getD place.toNat "" }

/-- The word is given by its text, and is the last one if it is among the words. -/
def atEnd (words : List String) (last : String) : Typed :=
  let before := words.drop 1
  { before := if last ≠ "" ∧ before.getLast? = some last then before.dropLast else before
    last := last }

def variableOf (env : Environment) (name : String) : Except Failure String :=
  match env name with
  | some value => .ok value
  | none => .error (.variableUnset name)

def positionOf (text : String) : Except Failure Int :=
  match Text.Numeral.parse? text.toList with
  | some n => .ok n
  | none =>
    let digits := (Text.Numeral.leadingDigits? text.toList).getD []
    if Text.Numeral.maxDigits < digits.length then .error (.numeralTooLong digits.length)
    else .error (.notInteger text)

def ofEnvironment (d : Dialect) (env : Environment) : Except Failure Typed := do
  let words := Shell.words (← variableOf env wordsVariable)
  let position ← variableOf env positionVariable
  match d with
  | .bash | .zsh | .powershell => (positionOf position).map (atPosition words)
  | .fish =>
    if position = "" then .ok (atEnd words "")
    else
      match Shell.words position with
      | [] => .error .noWord
      | last :: _ => .ok (atEnd words last)

/-- An equals sign separates an option from its value. -/
def separated (t : Typed) : Typed :=
  if t.last = "=" then { t with last := "" }
  else
    match t.last.cutAt '=' with
    | (name, some value) =>
      if name.startsWith "-" then ⟨t.before ++ [name], value⟩ else t
    | (_, none) => t

end Typed

/-! ## Where the words lead -/

structure Reached where
  /-- None for the program itself. -/
  command? : Option Command
  given : List Switch

namespace Reached

def program (a : Arguments) : Reached := ⟨none, a.given.map (·.1)⟩

def ofWords (words : List String) : Reached :=
  let a := Arguments.readPart programSwitches false words
  match a.others with
  | [] => program a
  | name :: rest =>
    match Command.ofName? name with
    | none => program a
    | some c => ⟨some c, (Arguments.readPart c.switches true rest).given.map (·.1)⟩

def switches (r : Reached) : List Switch :=
  match r.command? with
  | none => programSwitches
  | some c => c.switches

end Reached

def Switch.spellings (s : Switch) : List String :=
  s.long :: (s.short?.map fun c => String.ofList ['-', c]).toList

/-! ## Completions -/

/-- The texts that the value of an option can be. -/
def Switch.values : Switch → List String
  | .mode => BootMode.all.map BootMode.name
  | _ => []

def valueCompletions (s : Switch) (last : String) : List Completion :=
  (s.values.filter (·.startsWith last)).map fun value => { value := value }

/-- What a line leaves for the text about a completion. -/
def completionLimit : Nat := 45

def commandCompletions (last : String) : List Completion :=
  (Command.all.filter (·.name.startsWith last)).map fun c =>
    { value := c.name, about? := some (c.brief completionLimit) }

/-- Options are offered to a word that has begun, unless they were given before. -/
def optionCompletions (r : Reached) (last : String) : List Completion :=
  if last = "" then []
  else (r.switches.filter (!r.given.contains ·)).flatMap fun s =>
    (s.spellings.filter (·.startsWith last)).map fun spelling =>
      { value := spelling, about? := some s.about }

/-- The option whose value is to be completed: the one right before it. -/
def awaiting? (r : Reached) (t : Typed) : Option Switch :=
  if t.last.startsWith "-" ∧ "--" ∉ t.before then none
  else do
    let word ← t.before.getLast?
    r.switches.find? fun s => s.takesValue && s.spellings.contains word

def completions (t : Typed) : List Completion :=
  let r := Reached.ofWords t.before
  let t := t.separated
  match awaiting? r t with
  | some s => valueCompletions s t.last
  | none =>
    (if r.command?.isNone then commandCompletions t.last else []) ++ optionCompletions r t.last

/-! ## Answers -/

namespace Program

/-- The name with underscores in the stead of some characters. -/
def underscored (p : Program) (replaced : List Char) : String :=
  String.ofList (p.name.toList.map fun c => if replaced.contains c then '_' else c)

/-- A value of this variable asks for completions. -/
def completionVariable (p : Program) : String :=
  ("_" ++ p.underscored ['-', '.'] ++ "_COMPLETE").upperCase

def scriptNames (p : Program) : Dialect.Names where
  program := p.name
  trigger := p.completionVariable
  function :=
    "_" ++ String.ofList ((p.underscored ['-']).toList.filter VariableName.isRest) ++ "_completion"

end Program

/-- The session always ends here. -/
def answerShell (p : Program) (env : Environment) (value : String) : Session Unit :=
  match Request.ofText? value with
  | none => Session.exit 1
  | some (.complete d) => do
    let t ← Session.ofExcept (Typed.ofEnvironment d env)
    Session.say ("\n".intercalate ((completions t).map d.line))
    Session.exit 0
  | some (.script d) => do
    (d.script p.scriptNames).forM Session.say
    Session.exit 0

end EnclaveFleet.Console
