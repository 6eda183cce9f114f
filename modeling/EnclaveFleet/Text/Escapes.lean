/-!
# Terminal escapes

A terminal escape is the escape character, an opening bracket, parameters, intermediates and one
final character. Each of the three classes is a range of ASCII.

* `dropEscapes`: the text without its terminal escapes
* `dropEscapes_append`: a text without the escape character stays as it is
* `dropEscapes_append_newline`: so does the end of a line
-/
namespace EnclaveFleet.Text
set_option autoImplicit false

def escapeChar : Char := '\x1b'

/-- Digits, the colon, the semicolon and `<=>?`. -/
def isParameter (c : Char) : Bool := 0x30 ≤ c.toNat && c.toNat ≤ 0x3F

/-- The space and the signs up to the slash. -/
def isIntermediate (c : Char) : Bool := 0x20 ≤ c.toNat && c.toNat ≤ 0x2F

/-- From the at sign to the tilde. -/
def isFinal (c : Char) : Bool := 0x40 ≤ c.toNat && c.toNat ≤ 0x7E

/-- How much of an escape has been read; what was read behind the bracket is kept in case it turns
out to be none. -/
inductive EscapeState where
  | outside
  | opened
  | parameters (read : List Char)
  | intermediates (read : List Char)

namespace EscapeState

/-- What has been read and may not belong to an escape. -/
def pending : EscapeState → List Char
  | .outside => []
  | .opened => [escapeChar]
  | .parameters read | .intermediates read => escapeChar :: '[' :: read

def outsideStep (c : Char) : EscapeState × List Char :=
  if c = escapeChar then (.opened, []) else (.outside, [c])

/-- What was pending is no escape, and the character begins anew. -/
def giveUp (s : EscapeState) (c : Char) : EscapeState × List Char :=
  ((outsideStep c).1, s.pending ++ (outsideStep c).2)

/-- The state after a character, and the characters that are now known to be none of an escape. -/
def step (s : EscapeState) (c : Char) : EscapeState × List Char :=
  match s with
  | .outside => outsideStep c
  | .opened => if c = '[' then (.parameters [], []) else s.giveUp c
  | .parameters read =>
    if isParameter c then (.parameters (read ++ [c]), [])
    else if isIntermediate c then (.intermediates (read ++ [c]), [])
    else if isFinal c then (.outside, [])
    else s.giveUp c
  | .intermediates read =>
    if isIntermediate c then (.intermediates (read ++ [c]), [])
    else if isFinal c then (.outside, [])
    else s.giveUp c

end EscapeState

def dropEscapesFrom (s : EscapeState) : List Char → List Char
  | [] => s.pending
  | c :: cs => (s.step c).2 ++ dropEscapesFrom (s.step c).1 cs

def dropEscapes (cs : List Char) : List Char :=
  dropEscapesFrom .outside cs

theorem dropEscapes_append {cs : List Char} (h : escapeChar ∉ cs) (ds : List Char) :
    dropEscapes (cs ++ ds) = cs ++ dropEscapes ds := by
  unfold dropEscapes
  induction cs with
  | nil => rfl
  | cons c cs ih =>
    obtain ⟨hc, hcs⟩ := not_or.mp (fun m => h (List.mem_cons.mpr m))
    have hne : c ≠ escapeChar := fun e => hc e.symm
    simp [dropEscapesFrom, EscapeState.step, EscapeState.outsideStep, hne, ih hcs]

theorem EscapeState.step_newline (s : EscapeState) :
    s.step '\n' = (.outside, s.pending ++ ['\n']) := by
  cases s <;> rfl

/-- No escape goes on over the end of a line. -/
theorem dropEscapes_append_newline (cs : List Char) :
    dropEscapes (cs ++ ['\n']) = dropEscapes cs ++ ['\n'] := by
  have hfrom : ∀ s, dropEscapesFrom s (cs ++ ['\n']) = dropEscapesFrom s cs ++ ['\n'] := by
    induction cs with
    | nil =>
      intro s
      rw [List.nil_append, dropEscapesFrom, dropEscapesFrom, EscapeState.step_newline]
      simp [dropEscapesFrom, EscapeState.pending]
    | cons c cs ih =>
      intro s
      rw [List.cons_append, dropEscapesFrom, dropEscapesFrom, ih, List.append_assoc]
  exact hfrom .outside

end EnclaveFleet.Text

def String.dropEscapes (s : String) : String :=
  String.ofList (EnclaveFleet.Text.dropEscapes s.toList)
