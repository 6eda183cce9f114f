import EnclaveFleet.Files.Fault
import EnclaveFleet.Files.Path
import EnclaveFleet.Text.Encoding

/-!
# Where paths lead

* `Entry`: what can be at a place
* `Location`: a place below the working directory, below one of those above it, or below the root
* `Location.parent`, `Location.child`, `Location.step`: one step on a path
* `Location.ofPath`: where a path leads
* `Location.standard?`: what is found there on every system

Of the directories above the working directory it is known only that they are there.
-/
namespace EnclaveFleet
set_option autoImplicit false

inductive Entry where
  | file (content : List UInt8)
  | directory
  /-- A file whose content is not had. -/
  | unreadable (fault : ReadFault)
  /-- Takes whatever is written and gives nothing back. -/
  | sink
deriving DecidableEq

inductive Location where
  /-- Below the directory so many steps above the working directory. -/
  | near (above : Nat) (place : List String)
  | root (place : List String)
deriving DecidableEq

/-! ## Outside the working directory -/

namespace Standard

def directories : List (List String) := [
  ["bin"], ["dev"], ["etc"], ["home"], ["lib"], ["opt"], ["proc"], ["proc", "self"], ["root"],
  ["run"], ["sbin"], ["srv"], ["sys"], ["tmp"], ["usr"], ["usr", "bin"], ["usr", "lib"],
  ["usr", "local"], ["usr", "share"], ["var"], ["var", "lib"], ["var", "log"], ["var", "tmp"]]

/-- Nothing is known of what they hold, and they count as empty. -/
def files : List (List String) := [
  ["bin", "bash"], ["bin", "cat"], ["bin", "ls"], ["bin", "sh"], ["etc", "group"],
  ["etc", "hostname"], ["etc", "hosts"], ["etc", "passwd"], ["etc", "resolv.conf"],
  ["usr", "bin", "bash"], ["usr", "bin", "env"], ["usr", "bin", "sh"]]

def sinks : List (List String) := [["dev", "null"]]

/-- The memory of a process is a file, and nothing is at its beginning. -/
def memory : List String := ["proc", "self", "mem"]

/-- Leads to the working directory, whatever that is. -/
def workLink : List String := ["proc", "self", "cwd"]

def find? (place : List String) : Option Entry :=
  if directories.contains place then some .directory
  else if files.contains place then some (.file [])
  else if sinks.contains place then some .sink
  else if place = memory then some (.unreadable (.unread .broken))
  else none

end Standard

/-! ## Steps -/

namespace Location

def work : Location := .near 0 []

def start : Anchor → Location
  | .relative => work
  | .root | .doubleRoot => .root []

/-- Fewer directories than these are above the working directory. -/
def maxAbove : Nat := 16

/-- The root is its own parent. -/
def parent : Location → Location
  | .near above [] => if above + 1 < maxAbove then .near (above + 1) [] else .root []
  | .near above place => .near above place.dropLast
  | .root place => .root place.dropLast

/-- A name is known by its bytes. -/
def child (name : String) : Location → Location
  | .near above place => .near above (place ++ [name.decoded])
  | .root place =>
    if place ++ [name.decoded] = Standard.workLink then work else .root (place ++ [name.decoded])

/-- Empty names and single dots lead from a directory to itself. -/
def isIdle (name : String) : Bool := name = "" || name = "."

def step (name : String) (l : Location) : Location :=
  if isIdle name then l else if name = ".." then l.parent else l.child name

/-- Where a path leads if all that it goes through is there. -/
def ofPath (p : Path) : Location := p.names.foldl (fun l name => l.step name) (start p.anchor)

/-- The directories at the top are always there. -/
def isTop : Location → Bool
  | .near _ place | .root place => place.isEmpty

def standard? : Location → Option Entry
  | .near _ _ => none
  | .root place => Standard.find? place

/-- The place is the other one or below it. -/
def isWithin (l top : Location) : Bool :=
  match l, top with
  | .near m place, .near n outer => m = n && outer.isPrefixOf place
  | .root place, .root outer => outer.isPrefixOf place
  | _, _ => false

end Location
end EnclaveFleet
