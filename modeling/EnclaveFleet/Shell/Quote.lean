import EnclaveFleet.Deferred

/-!
# Quoting for the shell

* `Shell.isPlain`: characters that need no quotes
* `Shell.quote`: a single word of a POSIX shell whose value is the text

A text with a pseudo parameter in it is always quoted, since nothing is known of the value.
-/
namespace EnclaveFleet.Shell
set_option autoImplicit false

def isPlain (c : Char) : Bool :=
  c.isAlphanum || "_@%+=:,./-".toList.contains c

/-- Inside single quotes a single quote is written by leaving them, quoting it in double quotes and
entering them again. -/
def enclosedChars (cs : List Char) : List Char :=
  cs.flatMap fun c => if c = '\'' then ['\'', '"', '\'', '"', '\''] else [c]

def enclosed : Piece → Piece
  | .literal s => .literal (String.ofList (enclosedChars s.toList))
  | .parameter p => .parameter p

def enclose (d : Deferred) : Deferred :=
  .literal "'" :: d.map enclosed ++ [.literal "'"]

def needsNoQuotes (d : Deferred) : Bool :=
  d.isLiteral && d.plain ≠ "" && d.plain.toList.all isPlain

def quote (d : Deferred) : Deferred :=
  if needsNoQuotes d then d else enclose d

end EnclaveFleet.Shell
