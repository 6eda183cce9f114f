import EnclaveFleet.Files.Tree

/-!
# Directories by their spelling

Here a path counts as it is spelled: a slash or a dot at its end asks for a directory, and what is
left by a step back has to be there.

* `Tree.spelledStatus`: what a spelled path leads to
* `Tree.makeDirectory`: a directory is made, with those on the way to it
* `Tree.holding`: the tree of one file
* `Tree.discard`: what is at a spelled path is taken away
-/
namespace EnclaveFleet.Tree
set_option autoImplicit false

/-- Follows a path as it is spelled. -/
def locateSpelled (t : Tree) (spelling : String) : Except FileFault (Location × Entry) :=
  if maxPathBytes < spelling.fileBytes then .error .nameTooLong
  else t.locate (.start (Path.parse spelling).anchor) (spelling.piecesAt '/')

def spelledStatus (t : Tree) (spelling : String) : Except FileFault Entry :=
  (t.locateSpelled spelling).map (·.2)

/-! ## Making directories -/

/-- Goes from a directory through names and makes what is missing. Directories can be made everywhere
but below a file or in its stead. -/
def walk (t : Tree) (here : Location) : List String → Except FileFault Tree
  | [] => .ok t
  | name :: rest =>
    match t.enter here name with
    | .ok (there, .directory) => t.walk there rest
    | .ok _ => .error (if rest.isEmpty then .occupied else .notDirectory)
    | .error .notFound => (t.insert (here.child name) .directory).walk (here.child name) rest
    | .error fault => .error fault

def makeDirectory (t : Tree) (spelling : String) : Except FileFault Tree :=
  if maxPathBytes < spelling.fileBytes then .error .nameTooLong
  else t.walk (.start (Path.parse spelling).anchor) (spelling.piecesAt '/')

/-- One place with what is there, and the directories that its path goes through. -/
def holding (p : Path) (e : Entry) : Tree :=
  match empty.walk (.start p.anchor) p.names.dropLast with
  | .error _ => empty
  | .ok t => t.insert (.ofPath p) e

/-! ## Taking away -/

/-- A directory that holds nothing is taken away by its name: neither dots nor what was taken away
before can stand for it. -/
def discardEmpty (t : Tree) (place : Location) (spelling : String) : Tree × Except FileFault Unit :=
  let names := (spelling.piecesAt '/').reverse.dropWhile (· = "")
  match t.locate (.start (Path.parse spelling).anchor) names.tail.reverse with
  | .error fault => (t, .error fault)
  | .ok _ =>
    match names.head? with
    | some "." => (t, .error .invalid)
    | some ".." => (t, .error .notEmpty)
    | _ => (t.remove place, .ok ())

/-- A directory loses what it holds, and then it is taken away itself. -/
def discard (t : Tree) (spelling : String) : Tree × Except FileFault Unit :=
  if fromRootTooLong (Path.parse spelling).anchor spelling then (t, .error .nameTooLong)
  else
    match t.locateSpelled spelling with
    | .error fault => (t, .error fault)
    | .ok (place, .directory) => (t.clear place).discardEmpty place spelling
    | .ok (place, _) => (t.remove place, .ok ())

end EnclaveFleet.Tree
