import EnclaveFleet.Shell.Quote

/-!
# Words of the shell

* `Shell.words`: the words of a text; one that is not finished counts as far as it goes

Blanks separate words. Single quotes keep all that is between them, double quotes all but
backslashes, and a backslash outside of quotes keeps the next character.
-/
namespace EnclaveFleet.Shell
set_option autoImplicit false

inductive WordState where
  | between
  | plain
  | quoted (quote : Char)
  /-- Behind a backslash, inside double quotes or outside of quotes. -/
  | escaped (inQuotes : Bool)

def isSeparator (c : Char) : Bool := [' ', '\t', '\r', '\n'].contains c

def isQuote (c : Char) : Bool := c = '\'' || c = '"'

/-- A backslash that keeps neither a double quote nor another one stays in double quotes. -/
def keptByBackslash (inQuotes : Bool) (c : Char) : List Char :=
  if inQuotes ∧ c ≠ '"' ∧ c ≠ '\\' then ['\\', c] else [c]

/-- The state after a character outside of quotes that separates nothing, and what the character
adds to the word. -/
def plainStep (c : Char) : WordState × List Char :=
  if isQuote c then (.quoted c, [])
  else if c = '\\' then (.escaped false, [])
  else (.plain, [c])

/-- The words from a state on in which some of a word has been read. -/
def wordsFrom (s : WordState) (word : List Char) : List Char → List (List Char)
  | [] =>
    match s with
    | .between => []
    | _ => [word]
  | c :: cs =>
    match s with
    | .between =>
      if isSeparator c then wordsFrom .between [] cs
      else wordsFrom (plainStep c).1 (plainStep c).2 cs
    | .plain =>
      if isSeparator c then word :: wordsFrom .between [] cs
      else wordsFrom (plainStep c).1 (word ++ (plainStep c).2) cs
    | .quoted quote =>
      if c = quote then wordsFrom .plain word cs
      else if c = '\\' ∧ quote = '"' then wordsFrom (.escaped true) word cs
      else wordsFrom (.quoted quote) (word ++ [c]) cs
    | .escaped inQuotes =>
      wordsFrom (if inQuotes then .quoted '"' else .plain) (word ++ keptByBackslash inQuotes c) cs

def words (s : String) : List String :=
  (wordsFrom .between [] s.toList).map String.ofList

end EnclaveFleet.Shell
