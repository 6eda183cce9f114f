import EnclaveFleet.Proofs.Shell.Scanner
import EnclaveFleet.Shell.Quote

/-!
# Tokens of a shell script

Token recognition of a POSIX shell, with quotes taken away, for texts in which nothing is replaced.

* `step`, `scanner`: one character from a mode on, and the scanner of these steps
* `tokens?`, `commands?`: the tokens of a script, and its lines of them; a text that the shell would
  replace something in has none, nor has one whose quotes stay open
* `Reads`, `ReadsLine`: what a text leads to, and the tokens of a line
* `Quoting q v`: `q` is `v` as it stands or `v` between single quotes; `Quoting.reads` says that a
  word goes on with exactly `v` behind it, whatever `v` holds
* `quoting_quote`: `Shell.quote` writes such a text, also where pseudo parameters are still open
-/
namespace EnclaveFleet.Shell.Lexer
set_option autoImplicit false

inductive Token where
  | word (s : String)
  /-- A control or redirection character; one of two characters is two of them. -/
  | operator (c : Char)
  | newline
deriving DecidableEq

/-- Where the reader is; inside a word it has the characters so far. -/
inductive Mode where
  | outside (word? : Option (List Char))
  | single (word : List Char)
  | double (word : List Char)
  | comment
deriving DecidableEq

def isBlank (c : Char) : Bool := c = ' ' || c = '\t'

def isOperator (c : Char) : Bool := ['|', '&', ';', '<', '>', '(', ')'].contains c

/-- What a shell would replace, outside of quotes and inside double ones. -/
def isActive (c : Char) : Bool :=
  ['$', '\u0060', '\\', '*', '?', '[', ']', '~', '!', '{', '}'].contains c

def isActiveInside (c : Char) : Bool := ['$', '\u0060', '\\'].contains c

def ended (word? : Option (List Char)) : List Token :=
  word?.toList.map fun w => .word (String.ofList w)

def stepOutside (word? : Option (List Char)) (c : Char) : Option (Mode × List Token) :=
  if isBlank c then some (.outside none, ended word?)
  else if c = '\n' then some (.outside none, ended word? ++ [.newline])
  else if isOperator c then some (.outside none, ended word? ++ [.operator c])
  else if c = '\'' then some (.single (word?.getD []), [])
  else if c = '"' then some (.double (word?.getD []), [])
  else if isActive c then none
  else if c = '#' ∧ word? = none then some (.comment, [])
  else some (.outside (some (word?.getD [] ++ [c])), [])

def step : Mode → Char → Option (Mode × List Token)
  | .outside word?, c => stepOutside word? c
  | .single word, c =>
    if c = '\'' then some (.outside (some word), []) else some (.single (word ++ [c]), [])
  | .double word, c =>
    if c = '"' then some (.outside (some word), [])
    else if isActiveInside c then none
    else some (.double (word ++ [c]), [])
  | .comment, c =>
    if c = '\n' then some (.outside none, [.newline]) else some (.comment, [])

@[reducible] def scanner : Scanner Mode Token := ⟨step, .outside none, .newline⟩

abbrev tokens? (text : String) : Option (List Token) := scanner.tokens? text

abbrev commands? (text : String) : Option (List (List Token)) := scanner.commands? text

abbrev Reads := scanner.Reads

abbrev ReadsLine := scanner.ReadsLine

/-! ## Words -/

/-- What cannot stand in a word as it is, the start of a comment included. -/
def special : List Char := [' ', '\t', '\n', '|', '&', ';', '<', '>', '(', ')', '\'', '"', '$',
  '\u0060', '\\', '*', '?', '[', ']', '~', '!', '{', '}', '#']

theorem not_mem_of_isPlain {cs : List Char} (hall : cs.all (!isPlain ·) = true) {c : Char}
    (h : isPlain c) : c ∉ cs := by
  intro hc
  have hn := List.all_eq_true.mp hall c hc
  rw [h] at hn
  cases hn

theorem not_special_of_isPlain {c : Char} (h : isPlain c) : c ∉ special :=
  not_mem_of_isPlain (by decide) h

theorem step_of_isPlain (word? : Option (List Char)) {c : Char} (h : isPlain c) :
    step (.outside word?) c = some (.outside (some (word?.getD [] ++ [c])), []) := by
  have hc := not_special_of_isPlain h
  simp only [special, List.mem_cons, not_or] at hc
  simp [step, stepOutside, isBlank, isOperator, isActive, hc]

theorem reads_plain (w cs : List Char) (h : ∀ c ∈ cs, isPlain c) :
    Reads (.outside (some w)) cs (.outside (some (w ++ cs))) [] := by
  have hreads := Scanner.reads_along (S := scanner) (fun w => .outside (some w)) id w
    fun c hc v => step_of_isPlain (some v) (h c hc)
  rwa [List.map_id] at hreads

/-- A word of plain characters begins where there was none. -/
theorem reads_word (cs : List Char) (hne : cs ≠ []) (h : ∀ c ∈ cs, isPlain c) :
    Reads (.outside none) cs (.outside (some cs)) [] := by
  cases cs with
  | nil => exact absurd rfl hne
  | cons c cs =>
    have hc : scanner.step (.outside none) c = some (.outside (some [c]), []) :=
      step_of_isPlain none (h c (by simp))
    exact (reads_plain [c] cs fun d hd => h d (by simp [hd])).cons hc

theorem reads_gap (w : List Char) :
    Reads (.outside (some w)) [' '] (.outside none) [.word (String.ofList w)] := rfl

theorem reads_break (w : List Char) :
    Reads (.outside (some w)) ['\n'] (.outside none) [.word (String.ofList w), .newline] := rfl

theorem reads_single (w cs : List Char) (h : '\'' ∉ cs) :
    Reads (.single w) cs (.single (w ++ cs)) [] := by
  have hstep : ∀ c ∈ cs, ∀ v, step (.single v) c = some (.single (v ++ [c]), []) :=
    fun c hc v => if_neg fun (hquote : c = '\'') => h (hquote ▸ hc)
  have hreads := Scanner.reads_along (S := scanner) .single id w hstep
  rwa [List.map_id] at hreads

/-- The five characters that a single quote is written by leave the quotes and enter them again. -/
theorem reads_escaped_quote (w : List Char) :
    Reads (.single w) ['\'', '"', '\'', '"', '\''] (.single (w ++ ['\''])) [] := by
  simp [Scanner.Reads, Scanner.run, step, stepOutside, isBlank, isOperator, isActiveInside]

theorem reads_enclosedChars (w cs : List Char) :
    Reads (.single w) (enclosedChars cs) (.single (w ++ cs)) [] := by
  induction cs generalizing w with
  | nil => simpa [enclosedChars] using Scanner.Reads.nil (S := scanner) (.single w)
  | cons c cs ih =>
    have hrest := ih (w ++ [c])
    rw [List.append_assoc, List.singleton_append] at hrest
    rw [enclosedChars, List.flatMap_cons]
    by_cases hc : c = '\''
    · subst hc
      exact (reads_escaped_quote w).append hrest
    · rw [if_neg hc]
      exact (reads_single w [c] (by simpa using Ne.symm hc)).append hrest

/-! ## Quoting -/

/-- How a value is written in a word. -/
inductive Quoting : List Char → List Char → Prop
  | plain {v : List Char} (hne : v ≠ []) (h : ∀ c ∈ v, isPlain c) : Quoting v v
  | enclosed (v : List Char) : Quoting ('\'' :: enclosedChars v ++ ['\'']) v

theorem Quoting.reads {q v : List Char} (h : Quoting q v) (w : List Char) :
    Reads (.outside (some w)) q (.outside (some (w ++ v))) [] := by
  cases h with
  | plain hne h => exact reads_plain w q h
  | enclosed =>
    have hopen : Reads (.outside (some w)) ['\''] (.single w) [] := by
      simp [Scanner.Reads, Scanner.run, step, stepOutside, isBlank, isOperator]
    have hclose : Reads (.single (w ++ v)) ['\''] (.outside (some (w ++ v))) [] := by
      simp [Scanner.Reads, Scanner.run, step]
    exact (hopen.append (reads_enclosedChars w v)).append hclose

theorem enclosedChars_append (xs ys : List Char) :
    enclosedChars (xs ++ ys) = enclosedChars xs ++ enclosedChars ys := by
  simp [enclosedChars]

theorem enclosedChars_eq_self {cs : List Char} (h : '\'' ∉ cs) : enclosedChars cs = cs := by
  induction cs with
  | nil => rfl
  | cons c cs ih =>
    obtain ⟨hc, hcs⟩ : '\'' ≠ c ∧ '\'' ∉ cs := by simpa using h
    rw [enclosedChars, List.flatMap_cons, if_neg hc.symm]
    exact congrArg (c :: ·) (ih hcs)

variable (values : PseudoParameter → String)

/-- Nothing is known of the values when the text is quoted; they must not end the quotes. -/
theorem resolve_map_enclosed (hv : ∀ p, '\'' ∉ (values p).toList) (d : Deferred) :
    (Deferred.resolve values (d.map enclosed)).toList = enclosedChars (d.resolve values).toList := by
  induction d with
  | nil => simp [enclosedChars]
  | cons p d ih =>
    rw [List.map_cons, Deferred.resolve_cons, Deferred.resolve_cons, String.toList_append,
      String.toList_append, enclosedChars_append, ih]
    cases p with
    | literal s => simp [enclosed, Piece.resolve]
    | parameter p =>
      have hp : enclosedChars (values p).toList = (values p).toList := enclosedChars_eq_self (hv p)
      simp [enclosed, Piece.resolve, hp]

theorem resolve_of_isLiteral {d : Deferred} (h : d.isLiteral) : d.resolve values = d.plain := by
  induction d with
  | nil => simp [Deferred.plain]
  | cons p d ih =>
    rw [Deferred.isLiteral, List.all_cons, Bool.and_eq_true] at h
    obtain ⟨hp, hd⟩ := h
    cases p with
    | literal s =>
      rw [Deferred.plain, Deferred.resolve_cons, Deferred.resolve_cons, ih hd]
      rfl
    | parameter p => cases hp

theorem quoting_quote (hv : ∀ p, '\'' ∉ (values p).toList) (d : Deferred) :
    Quoting ((quote d).resolve values).toList (d.resolve values).toList := by
  rw [quote]
  split
  · next h =>
    simp only [needsNoQuotes, Bool.and_eq_true, decide_eq_true_eq, List.all_eq_true] at h
    obtain ⟨⟨hlit, hne⟩, hall⟩ := h
    rw [resolve_of_isLiteral values hlit]
    exact .plain (by simpa using hne) hall
  · have h := Quoting.enclosed (d.resolve values).toList
    rw [← resolve_map_enclosed values hv] at h
    simpa [enclose, Piece.resolve] using h

end EnclaveFleet.Shell.Lexer
