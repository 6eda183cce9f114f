import EnclaveFleet.Text.Split

/-!
# Paths

* `Path`: where a path starts and the names it goes through
* `Path.parse`, `Path.text`: reading drops empty names, single dots and slashes at the end, so one
  path has many spellings and `text` gives the plain one
* `Path.push`, `Path.parent`: a path with a name more, or one less
* `Path.straight`: the path without steps back, as far as they can be taken without looking
-/
namespace EnclaveFleet
set_option autoImplicit false

inductive Anchor where
  /-- The working directory. -/
  | relative
  | root
  /-- Exactly two slashes, which POSIX keeps apart from one. -/
  | doubleRoot
deriving DecidableEq

structure Path where
  anchor : Anchor
  names : List String
deriving DecidableEq

namespace Path

def anchorOf (slashes : Nat) : Anchor :=
  match slashes with
  | 0 => .relative
  | 2 => .doubleRoot
  | _ => .root

def parse (s : String) : Path where
  anchor := anchorOf (s.toList.takeWhile (· = '/')).length
  names := (s.piecesAt '/').filter fun name => name ≠ "" ∧ name ≠ "."

def text (p : Path) : String :=
  let names := "/".intercalate p.names
  match p.anchor with
  | .relative => if p.names.isEmpty then "." else names
  | .root => "/" ++ names
  | .doubleRoot => "//" ++ names

def push (p : Path) (name : String) : Path := { p with names := p.names ++ [name] }

def parent (p : Path) : Path := { p with names := p.names.dropLast }

def lastName (p : Path) : String := p.names.getLastD ""

/-- The file system takes no name with a NUL in it. -/
def nameHasNul (name : String) : Bool := name.toList.contains '\x00'

def hasNul (p : Path) : Bool := p.names.any nameHasNul

def stepBack (anchor : Anchor) (place : List String) : List String :=
  match place.getLast?, anchor with
  | some "..", _ => place ++ [".."]
  | some _, _ => place.dropLast
  | none, .relative => [".."]
  | none, _ => []

/-- Two slashes at the start count as one here. -/
def straight (p : Path) : Path where
  anchor := if p.anchor = .relative then .relative else .root
  names := p.names.foldl (fun place name =>
    if name = ".." then stepBack p.anchor place else place ++ [name]) []

end Path
end EnclaveFleet
