import EnclaveFleet.Text.Quoted
import EnclaveFleet.Text.Similar
import EnclaveFleet.Text.Split

/-!
# Options on a command line

* `Switch`: the options there are, with their spellings
* `UsageError`: what can be wrong with a command line, and how it is told
* `Arguments.read`: the options and the other arguments among the words; the first error counts
* `Arguments.readPart`: what stands before the first error

A word after two hyphens alone is never an option. A value stands in the same word, after an equals
sign or right after a short spelling, or it is the next word, whatever that looks like.
-/
namespace EnclaveFleet.Console
set_option autoImplicit false

inductive Switch where
  | version
  | help
  | logLevel
  | directory
  | mode
deriving DecidableEq

namespace Switch

def long : Switch → String
  | .version => "--version"
  | .help => "--help"
  | .logLevel => "--log-level"
  | .directory => "--outdir"
  | .mode => "--mode"

def short? : Switch → Option Char
  | .directory => some 'o'
  | .mode => some 'm'
  | _ => none

def takesValue : Switch → Bool
  | .version | .help => false
  | .logLevel | .directory | .mode => true

/-- The option is answered as soon as it is seen, before all others. -/
def isEager (s : Switch) : Bool := !s.takesValue

end Switch

/-! ## Errors -/

inductive UsageError where
  | noSuchOption (name : String) (meant : List String)
  | needsValue (name : String)
  | takesNoValue (name : String)
  /-- The value of the mode is none of the modes. -/
  | noSuchMode (value : String) (modes : List String)
  | unexpected (arguments : List String)
  | missingCommand
  | noSuchCommand (name : String) (meant : List String)
deriving DecidableEq

namespace UsageError

def quotedList (names : List String) : String :=
  ", ".intercalate (names.map String.quotedText)

def suggestion : List String → String
  | [] => ""
  | [name] => s!" Did you mean {name.quotedText}?"
  | names => " (Did you mean one of: " ++ quotedList (names.mergeSort (· ≤ ·)) ++ "?)"

def message : UsageError → String
  | .noSuchOption name meant => s!"No such option {name.quotedText}." ++ suggestion meant
  | .needsValue name => s!"Option {name.quotedText} requires an argument."
  | .takesNoValue name => s!"Option {name.quotedText} does not take a value."
  | .noSuchMode value modes =>
    s!"Invalid value for '--mode' / '-m': {value.quotedText} is not one of {quotedList modes}."
  | .unexpected [argument] => s!"Got unexpected extra argument ({argument})"
  | .unexpected arguments =>
    "Got unexpected extra arguments (" ++ " ".intercalate arguments ++ ")"
  | .missingCommand => "Missing command."
  | .noSuchCommand name meant => s!"No such command {name.quotedText}." ++ suggestion meant

/-- The error is told without a reminder of the usage. -/
def isBare : UsageError → Bool
  | .needsValue _ | .takesNoValue _ => true
  | _ => false

end UsageError

/-! ## Reading -/

structure Arguments where
  /-- The options in the order of the words, with their values. -/
  given : List (Switch × String) := []
  others : List String := []
deriving DecidableEq

namespace Arguments

def withOption (s : Switch) (value : String) (a : Arguments) : Arguments :=
  { a with given := (s, value) :: a.given }

def withOptions (options : List (Switch × String)) (a : Arguments) : Arguments :=
  { a with given := options ++ a.given }

def withOther (word : String) (a : Arguments) : Arguments :=
  { a with others := word :: a.others }

/-- The value that counts: the last one. -/
def value? (a : Arguments) (s : Switch) : Option String :=
  a.given.reverse.lookup s

/-- The first option that is answered at once. -/
def eager? (a : Arguments) : Option Switch :=
  (a.given.map (·.1)).find? (·.isEager)

/-- An option that waits for its value, and its spelling. -/
structure Waiting where
  switch : Switch
  spelling : String

/-- What a word that starts with a hyphen holds. -/
inductive Reading where
  | done (options : List (Switch × String))
  | waiting (options : List (Switch × String)) (w : Waiting)

/-- Short spellings in one word; one that takes a value takes the rest of the word. -/
def readShort (switches : List Switch) (before : List (Switch × String)) :
    Points → Except UsageError Reading
  | [] => .ok (.done before)
  | n :: ps =>
    let spelling := "-" ++ String.ofPoints [n]
    match switches.find? (·.short?.any (·.toNat = n)) with
    | none => .error (.noSuchOption spelling [])
    | some s =>
      if !s.takesValue then readShort switches (before ++ [(s, "")]) ps
      else if ps.isEmpty then .ok (.waiting before ⟨s, spelling⟩)
      else .ok (.done (before ++ [(s, String.ofPoints ps)]))

def readWord (switches : List Switch) (word : String) : Except UsageError Reading :=
  let (name, value?) := word.cutAt '='
  match switches.find? (·.long = name), value? with
  | some s, some value =>
    if s.takesValue then .ok (.done [(s, value)]) else .error (.takesNoValue name)
  | some s, none =>
    if s.takesValue then .ok (.waiting [] ⟨s, name⟩) else .ok (.done [(s, "")])
  | none, _ =>
    match word.toList with
    | '-' :: '-' :: _ =>
      .error (.noSuchOption name (Text.similar name (switches.map Switch.long)))
    | cs => readShort switches [] (Points.ofChars cs.tail)

def isOption (word : String) : Bool :=
  match word.toList with
  | '-' :: _ :: _ => true
  | _ => false

/-- Reads options up to the first other argument, or all over the words. What was read before an
error stands beside it. -/
def readWords (switches : List Switch) (allOver : Bool) (waiting : Option Waiting) :
    List String → Arguments × Option UsageError
  | [] => ({}, waiting.map fun w => .needsValue w.spelling)
  | word :: words =>
    match waiting with
    | some w =>
      let (a, e) := readWords switches allOver none words
      (a.withOption w.switch word, e)
    | none =>
      if word = "--" then ({ others := words }, none)
      else if isOption word then
        match readWord switches word with
        | .error e => ({}, some e)
        | .ok (.done options) =>
          let (a, e) := readWords switches allOver none words
          (a.withOptions options, e)
        | .ok (.waiting options w) =>
          let (a, e) := readWords switches allOver (some w) words
          (a.withOptions options, e)
      else if allOver then
        let (a, e) := readWords switches allOver none words
        (a.withOther word, e)
      else ({ others := word :: words }, none)

def read (switches : List Switch) (allOver : Bool) (words : List String) :
    Except UsageError Arguments :=
  match readWords switches allOver none words with
  | (a, none) => .ok a
  | (_, some e) => .error e

def readPart (switches : List Switch) (allOver : Bool) (words : List String) : Arguments :=
  (readWords switches allOver none words).1

end Arguments
end EnclaveFleet.Console
