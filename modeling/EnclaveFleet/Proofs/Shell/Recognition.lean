import EnclaveFleet.Proofs.Shell.Lexer
import EnclaveFleet.Settings.Validation

/-!
# Recognition of words with expansions

Token recognition of a POSIX shell for texts in which values are put in. The quotes are taken away,
and what the shell puts a value in for stays in the word, marked as such. Patterns and tildes are
looked at only after this and count as they stand.

* `Glyph`, `Token`: the characters of words, and the tokens
* `step`, `scanner`, `commands?`: one character, the scanner of these steps, and the lines of tokens
  of a script; there are none where a quote stays open or an expansion is not among those that are
  known here: variables, and commands without quotes, parentheses and comments
* `Reads`, `ReadsLine`, `Lines`: what a text leads to, the tokens of a line, and the lines of them
* `Literal`: the texts that stand for themselves; `Literal.reads` says that they do
-/
namespace EnclaveFleet.Shell.Recognition
set_option autoImplicit false

open Lexer (isBlank isOperator)

inductive Glyph where
  | plain (c : Char)
  /-- A part of something that the shell puts a value in for. -/
  | active (c : Char)
deriving DecidableEq

abbrev Word := List Glyph

def Word.plain (cs : List Char) : Word := cs.map .plain

def Word.active (cs : List Char) : Word := cs.map .active

inductive Token where
  | word (w : Word)
  /-- A control or redirection character; one of two characters is two of them. -/
  | operator (c : Char)
  | newline
deriving DecidableEq

/-- Where the reader is; inside a word it has the glyphs so far. -/
inductive Mode where
  | outside (word? : Option Word)
  | single (word : Word)
  | double (word : Word)
  /-- Behind a backslash outside of quotes. -/
  | escaped (word? : Option Word)
  /-- Behind a backslash in double quotes. -/
  | escapedInside (word : Word)
  /-- Behind a dollar sign, in double quotes or outside. In front of anything but a name or a
  parenthesis its meaning is left open. -/
  | dollar (inside : Bool) (word : Word)
  | variable (inside : Bool) (word : Word)
  /-- In a command whose output is put in. -/
  | command (word : Word)
  | comment
deriving DecidableEq

/-! ## Steps -/

def ended (word? : Option Word) : List Token := word?.toList.map .word

def grown (word? : Option Word) (g : Glyph) : Word := word?.getD [] ++ [g]

def stepOutside (word? : Option Word) (c : Char) : Option (Mode × List Token) :=
  if isBlank c then some (.outside none, ended word?)
  else if c = '\n' then some (.outside none, ended word? ++ [.newline])
  else if isOperator c then some (.outside none, ended word? ++ [.operator c])
  else if c = '\'' then some (.single (word?.getD []), [])
  else if c = '"' then some (.double (word?.getD []), [])
  else if c = '\\' then some (.escaped word?, [])
  else if c = '$' then some (.dollar false (grown word? (.active c)), [])
  else if c = '\u0060' then none
  else if c = '#' ∧ word? = none then some (.comment, [])
  else some (.outside (some (grown word? (.plain c))), [])

def stepDouble (word : Word) (c : Char) : Option (Mode × List Token) :=
  if c = '"' then some (.outside (some word), [])
  else if c = '\\' then some (.escapedInside word, [])
  else if c = '$' then some (.dollar true (word ++ [.active c]), [])
  else if c = '\u0060' then none
  else some (.double (word ++ [.plain c]), [])

/-- What a backslash takes its meaning from in double quotes. -/
def isEscapable (c : Char) : Bool := ['$', '\u0060', '"', '\\'].contains c

/-- What makes the end of a command hard to find. -/
def intricate : List Char := ['\'', '"', '\\', '\u0060', '(', '#', '\n']

def step : Mode → Char → Option (Mode × List Token)
  | .outside word?, c => stepOutside word? c
  | .single word, c =>
    if c = '\'' then some (.outside (some word), []) else some (.single (word ++ [.plain c]), [])
  | .double word, c => stepDouble word c
  | .escaped word?, c =>
    if c = '\n' then some (.outside word?, [])
    else some (.outside (some (grown word? (.plain c))), [])
  | .escapedInside word, c =>
    if c = '\n' then some (.double word, [])
    else if isEscapable c then some (.double (word ++ [.plain c]), [])
    else some (.double (word ++ [.plain '\\', .plain c]), [])
  | .dollar inside word, c =>
    if VariableName.isStart c then some (.variable inside (word ++ [.active c]), [])
    else if c = '(' ∧ inside = false then some (.command (word ++ [.active c]), [])
    else none
  | .variable inside word, c =>
    if VariableName.isRest c then some (.variable inside (word ++ [.active c]), [])
    else if inside then stepDouble word c
    else stepOutside (some word) c
  | .command word, c =>
    if c = ')' then some (.outside (some (word ++ [.active c])), [])
    else if intricate.contains c then none
    else some (.command (word ++ [.active c]), [])
  | .comment, c =>
    if c = '\n' then some (.outside none, [.newline]) else some (.comment, [])

@[reducible] def scanner : Scanner Mode Token := ⟨step, .outside none, .newline⟩

abbrev commands? (text : String) : Option (List (List Token)) := scanner.commands? text

abbrev Reads := scanner.Reads

abbrev ReadsLine := scanner.ReadsLine

abbrev Lines := scanner.Lines

/-! ## Texts that stand for themselves -/

def special : List Char :=
  [' ', '\t', '\n', '|', '&', ';', '<', '>', '(', ')', '\'', '"', '$', '\u0060', '\\']

def isOrdinary (c : Char) : Bool := !special.contains c

theorem isOrdinary_iff {c : Char} : isOrdinary c ↔ c ∉ special := by
  rw [isOrdinary, Bool.not_eq_true', ← Bool.not_eq_true, List.contains_iff_mem]

/-- A text of ordinary characters that does not begin a comment. -/
structure Literal (v : List Char) : Prop where
  ne_nil : v ≠ []
  no_comment : v.head? ≠ some '#'
  ordinary : ∀ c ∈ v, isOrdinary c

theorem literal_iff (v : List Char) :
    Literal v ↔ v ≠ [] ∧ v.head? ≠ some '#' ∧ v.all isOrdinary = true := by
  rw [List.all_eq_true]
  exact ⟨fun h => ⟨h.ne_nil, h.no_comment, h.ordinary⟩, fun h => ⟨h.1, h.2.1, h.2.2⟩⟩

instance (v : List Char) : Decidable (Literal v) := decidable_of_iff _ (literal_iff v).symm

theorem step_ordinary (word? : Option Word) {c : Char} (h : isOrdinary c)
    (hcomment : c = '#' → word? ≠ none) :
    scanner.step (.outside word?) c = some (.outside (some (grown word? (.plain c))), []) := by
  have hno : ¬(c = '#' ∧ word? = none) := fun hboth => hcomment hboth.1 hboth.2
  have hc := isOrdinary_iff.mp h
  simp only [special, List.mem_cons, List.not_mem_nil, or_false, not_or] at hc
  simp [step, stepOutside, isBlank, isOperator, hc, hno]

theorem reads_ordinary (w : Word) {cs : List Char} (h : ∀ c ∈ cs, isOrdinary c) :
    Reads (.outside (some w)) cs (.outside (some (w ++ Word.plain cs))) [] :=
  Scanner.reads_along (S := scanner) (fun w => .outside (some w)) .plain w fun c hc v =>
    step_ordinary (some v) (h c hc) (by simp)

theorem Literal.reads {v : List Char} (h : Literal v) :
    Reads (.outside none) v (.outside (some (Word.plain v))) [] := by
  cases v with
  | nil => exact absurd rfl h.ne_nil
  | cons c cs =>
    have hcomment : c ≠ '#' := fun e => h.no_comment (congrArg some e)
    have hstep := step_ordinary none (h.ordinary c (by simp)) fun e => absurd e hcomment
    have hrest := reads_ordinary (grown none (.plain c)) fun d hd =>
      h.ordinary d (List.mem_cons_of_mem c hd)
    exact hrest.cons hstep

theorem Literal.readsLine {front v : List Char} {ts : List Token} (h : Literal v)
    (hfront : Reads (.outside none) front (.outside none) ts) (hnew : .newline ∉ ts) :
    ReadsLine (front ++ v) (ts ++ [.word (Word.plain v)]) := by
  have hend : Reads (.outside (some (Word.plain v))) ['\n'] (.outside none)
      [.word (Word.plain v), .newline] := by
    simp [Scanner.Reads, Scanner.run, step, stepOutside, isBlank, ended]
  refine ⟨?_, by simp [hnew]⟩
  simpa using (hfront.append h.reads).append hend

end EnclaveFleet.Shell.Recognition
