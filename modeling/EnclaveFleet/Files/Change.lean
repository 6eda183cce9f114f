import EnclaveFleet.Files.Tree

/-!
# Putting files in their place

* `Tree.makeWay`: directories are made one after the other as far as they can be
* `Tree.makeDirectories`: a path leads to a directory from then on
* `Tree.makeParent`: the directories on the way to a path are made
* `Tree.makeFile`: a file is put at a place

A change that is refused keeps the directories that were made before. A path counts as the one that
leads to it from the root. What can be looked up can be changed as well.
-/
namespace EnclaveFleet
set_option autoImplicit false

/-- Why a change is not made. -/
inductive ChangeFault where
  /-- The file system refuses it at a path. -/
  | refused (fault : FileFault) (p : Path)
  /-- A path has no bytes. -/
  | unencodable (fault : EncodingFault)
  /-- A name has a NUL in it. -/
  | nulByte
deriving DecidableEq

namespace Tree

/-- What keeps the file system from looking at a path at all, where all but the last name is known to
be good. -/
def spellingFault? (p : Path) : Option ChangeFault :=
  match fromRootFault? p.anchor p.text with
  | some fault => some (.unencodable fault)
  | none =>
    if Path.nameHasNul p.lastName then some .nulByte
    else if fromRootTooLong p.anchor p.text then some (.refused .nameTooLong p)
    else none

/-- Nothing is put at a path whose last name is no name of a file. -/
def pathFault? (p : Path) : Option ChangeFault :=
  (spellingFault? p).or
    (if maxNameBytes < p.lastName.fileBytes then some (.refused .nameTooLong p) else none)

/-- Nothing is put in the stead of something else or below it. -/
def blockedWay (p : Path) : List String → ChangeFault
  | [] => .refused .occupied p
  | below :: _ => (spellingFault? (p.push below)).getD (.refused .notDirectory (p.push below))

/-- Goes on from a place that a path leads to. -/
def makeWay (t : Tree) (here : Location) (p : Path) :
    List String → Tree × Except ChangeFault Location
  | [] => (t, .ok here)
  | name :: rest =>
    let p := p.push name
    match t.enter here name with
    | .ok (there, .directory) => t.makeWay there p rest
    | .ok _ => (t, .error (blockedWay p rest))
    | .error fault =>
      match pathFault? p with
      | some fault => (t, .error fault)
      | none =>
        if fault = .notFound then
          (t.insert (here.child name) .directory).makeWay (here.child name) p rest
        else (t, .error (.refused fault p))

def makeDirectories (t : Tree) (p : Path) : Tree × Except ChangeFault Location :=
  t.makeWay (.start p.anchor) ⟨p.anchor, []⟩ p.names

/-- Gives the place of the path itself. -/
def makeParent (t : Tree) (p : Path) : Tree × Except ChangeFault Location :=
  let (t, outcome) := t.makeDirectories p.parent
  (t, outcome.map fun directory => directory.step p.lastName)

/-- Puts content in the stead of what is there, unless that is a directory. What is put into a sink
is lost. The path leads to the place. -/
def makeFile (t : Tree) (place : Location) (p : Path) (content : List UInt8) :
    Tree × Except ChangeFault Unit :=
  match t.find? place with
  | some .directory => (t, .error (.refused .isDirectory p))
  | some .sink => (t, .ok ())
  | some (.unreadable (.unopened fault)) => (t, .error (.refused fault p))
  | _ =>
    match pathFault? p with
    | some fault => (t, .error fault)
    | none => (t.insert place (.file content), .ok ())

end Tree
end EnclaveFleet
