import EnclaveFleet.Text.Split

/-!
# Texts in short

* `brief`: the first sentence of a text; where it is longer than a limit, as many words as fit with
  an ellipsis behind them
-/
namespace EnclaveFleet.Text
set_option autoImplicit false

/-- The words up to one that ends with a full stop. -/
def firstSentence : List (List Char) → List (List Char)
  | [] => []
  | w :: ws => if w.getLast? = some '.' then [w] else w :: firstSentence ws

/-- The first words that have room when each takes one character more than it has. -/
def wordsWithin (room : Nat) : List (List Char) → List (List Char)
  | [] => []
  | w :: ws => if w.length < room then w :: wordsWithin (room - (w.length + 1)) ws else []

def ellipsis : List Char := "...".toList

def brief (limit : Nat) (cs : List Char) : List Char :=
  let words := (splitAt ' ' cs).filter (· ≠ [])
  let sentence := joinWith ' ' (firstSentence words)
  if sentence.length ≤ limit then sentence
  else joinWith ' ' (wordsWithin (limit - ellipsis.length + 1) words) ++ ellipsis

end EnclaveFleet.Text

/-- The text in short. -/
def String.brief (limit : Nat) (s : String) : String :=
  String.ofList (EnclaveFleet.Text.brief limit s.toList)
