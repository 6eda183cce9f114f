import EnclaveFleet.Files.Location

/-!
# Trees of files

* `Tree`: files and directories by their place
* `Tree.find?`, `Tree.insert`, `Tree.restrict`: the entries of places
* `Tree.look`, `Tree.enter`: what is at a place, and a step from a directory
* `Tree.locate`: what names lead to, one after the other
* `Tree.status`: what a path leads to
* `Tree.read`, `Tree.isFile`: the content of a file, and whether a path leads to one
-/
namespace EnclaveFleet
set_option autoImplicit false

/-- The newest entry of a place counts. -/
structure Tree where
  entries : List (Location × Entry)
  /-- The directories in which nothing can be looked up. -/
  closed : List (Location × FileFault) := []
  /-- The places that cannot be looked at. -/
  refused : List (Location × FileFault) := []

namespace Tree

def empty : Tree := { entries := [] }

def find? (t : Tree) (l : Location) : Option Entry :=
  if l.isTop then some .directory else (t.entries.lookup l).or l.standard?

def insert (t : Tree) (l : Location) (e : Entry) : Tree :=
  { t with entries := (l, e) :: t.entries }

/-- What is known of some places only. -/
def restrict (t : Tree) (kept : Location → Bool) : Tree where
  entries := t.entries.filter fun (l, _) => kept l
  closed := t.closed.filter fun (l, _) => kept l
  refused := t.refused.filter fun (l, _) => kept l

/-- Takes a file away, or a directory with all it holds. -/
def remove (t : Tree) (l : Location) : Tree :=
  t.restrict fun other => !other.isWithin l

/-- Takes away what a directory holds. -/
def clear (t : Tree) (l : Location) : Tree :=
  t.restrict fun other => other = l || !other.isWithin l

/-! ## Following a path -/

def maxNameBytes : Nat := 255

def maxPathBytes : Nat := 4095

/-- The path of the working directory is not known; it counts as one of so many bytes. -/
def workPathBytes : Nat := 16

/-- How much of the path from the root to the same place stands in front of a path. -/
def bytesBefore (anchor : Anchor) : Nat :=
  if anchor = .relative then workPathBytes + 1 else 0

def fromRootTooLong (anchor : Anchor) (spelling : String) : Bool :=
  maxPathBytes < bytesBefore anchor + spelling.fileBytes

/-- What keeps the path from the root from being one. -/
def fromRootFault? (anchor : Anchor) (spelling : String) : Option EncodingFault :=
  spelling.pathFault?.map fun e => { e with position := bytesBefore anchor + e.position }

def look (t : Tree) (l : Location) : Except FileFault Entry :=
  match t.refused.lookup l, t.find? l with
  | some fault, _ => .error fault
  | none, some e => .ok e
  | none, none => .error .notFound

/-- One step from a directory. Whether names can be looked up in it counts before the name does, for
dots as well. -/
def enter (t : Tree) (here : Location) (name : String) : Except FileFault (Location × Entry) :=
  if name = "" then .ok (here, .directory)
  else
    match t.closed.lookup here with
    | some fault => .error fault
    | none =>
      if name = "." ∨ name = ".." then .ok (here.step name, .directory)
      else if maxNameBytes < name.fileBytes then .error .nameTooLong
      else (t.look (here.child name)).map fun e => (here.child name, e)

/-- Follows names from a directory to a place and what is there. -/
def locate (t : Tree) (here : Location) : List String → Except FileFault (Location × Entry)
  | [] => .ok (here, .directory)
  | name :: rest =>
    match t.enter here name with
    | .error fault => .error fault
    | .ok (there, .directory) => t.locate there rest
    | .ok (there, e) => if rest.isEmpty then .ok (there, e) else .error .notDirectory

/-- The names of a path as the file system gets them. -/
def steps (p : Path) : List String :=
  if p.anchor = .relative ∧ p.names = [] then ["."] else p.names

def status (t : Tree) (p : Path) : Except FileFault Entry :=
  if maxPathBytes < p.text.fileBytes then .error .nameTooLong
  else (t.locate (.start p.anchor) (steps p)).map (·.2)

def read (t : Tree) (p : Path) : Except ReadFault (List UInt8) :=
  match t.status p with
  | .error e => .error (.unopened e)
  | .ok .directory => .error (.unopened .isDirectory)
  | .ok (.unreadable fault) => .error fault
  | .ok .sink => .ok []
  | .ok (.file content) => .ok content

/-- What is not there is no file. Other refusals are no answer. -/
def isFile (t : Tree) (p : Path) : Except FileFault Bool :=
  if p.hasNul || p.text.pathFault?.isSome then .ok false
  else
    match t.status p with
    | .ok (.file _) | .ok (.unreadable _) => .ok true
    | .ok .directory | .ok .sink => .ok false
    | .error fault => if fault.isAbsence then .ok false else .error fault

end Tree
end EnclaveFleet
