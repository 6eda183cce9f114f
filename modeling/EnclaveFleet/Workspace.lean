import EnclaveFleet.Failure
import EnclaveFleet.Files.Change
import EnclaveFleet.Files.Directory
import EnclaveFleet.Settings.Change

/-!
# Working with settings

* `Workspace`: the settings at hand, settings kept under names, and files
* `Workspace.save`, `Workspace.load`: keeping settings and taking them back
* `Workspace.agrees`: the settings at hand agree with kept ones
* `Workspace.makeDirectory`, `Workspace.write`, `Workspace.erase`: changing the files

Settings are replaced and never changed in place.
-/
namespace EnclaveFleet
set_option autoImplicit false

structure Workspace where
  current : Settings := {}
  slots : List (String × Settings) := []
  files : Tree

namespace Workspace

def use (w : Workspace) (s : Settings) : Workspace :=
  { w with current := s }

def slot (w : Workspace) (name : String) : Except Failure Settings :=
  match w.slots.lookup name with
  | some s => .ok s
  | none => .error (.noSlot name)

def load (w : Workspace) (name : String) : Except Failure Workspace :=
  (w.slot name).map w.use

def save (w : Workspace) (name : String) : Workspace :=
  { w with slots := (name, w.current) :: w.slots.filter (·.1 ≠ name) }

/-- The names of the kept settings, in the order of their code points. -/
def slotNames (w : Workspace) : List String :=
  (w.slots.map (·.1)).mergeSort fun a b => !b.points.lex a.points (· < ·)

def agrees (w : Workspace) (name : String) : Except Failure Bool :=
  (w.slot name).map w.current.agree

/-! ## Files -/

/-- A path as it leads from the root, where `<work>` stands for the working directory. -/
def placeText (p : Path) : String :=
  let place := "/".intercalate p.names
  if p.anchor ≠ .relative then "/" ++ place
  else if p.names = [] then "<work>"
  else "<work>/" ++ place

/-- The same of a path as it is spelled. -/
def pathText (spelling : String) : String :=
  if (Path.parse spelling).anchor = .relative then "<work>/" ++ spelling else spelling

def failureOf : ChangeFault → Failure
  | .refused fault p => .file fault (placeText p)
  | .unencodable fault => .unencodable fault
  | .nulByte => .nulByte

/-- From then on a directory is at the path; the path is taken without looking as far as it leads
back. -/
def makeDirectory (w : Workspace) (p : Path) : Workspace × Except Failure Unit :=
  let (files, outcome) := w.files.makeDirectories p.straight
  ({ w with files := files }, (outcome.map fun _ => ()).mapError failureOf)

/-- From then on a file is at the path, with the directories on the way to it. Its content is asked
for after these are made. -/
def write (w : Workspace) (p : Path) (content : Except Failure (List UInt8)) :
    Workspace × Except Failure Unit :=
  match w.files.makeParent p.straight, content with
  | (files, .error fault), _ => ({ w with files := files }, .error (failureOf fault))
  | (files, .ok _), .error e => ({ w with files := files }, .error e)
  | (files, .ok place), .ok bytes =>
    let (files, outcome) := files.makeFile place p.straight bytes
    ({ w with files := files }, outcome.mapError failureOf)

/-- What is at a path is taken away; the path counts as it is spelled. -/
def erase (w : Workspace) (spelling : String) : Workspace × Except Failure Unit :=
  match Tree.fromRootFault? (Path.parse spelling).anchor spelling with
  | some fault => (w, .error (.unencodable fault))
  | none =>
    if Path.nameHasNul spelling then (w, .error .nulByte)
    else
      let (files, outcome) := w.files.discard spelling
      ({ w with files := files }, outcome.mapError (.file · (pathText spelling)))

end Workspace
end EnclaveFleet
