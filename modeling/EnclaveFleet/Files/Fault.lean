import EnclaveFleet.Text.Quoted

/-!
# What the file system refuses

* `SystemFault`: a refusal as the system gives it
* `FileFault`: why a path is refused
* `FileFault.text`, `FileFault.code`: how that is told
* `FileFault.isAbsence`: the refusals by which nothing counts as being there
* `ReadFault`: why the content of a file is not had
-/
namespace EnclaveFleet
set_option autoImplicit false

/-- A number with its reason, and the same in other words behind the name of the number. -/
structure SystemFault where
  number : Nat
  reason : String
  code : String
deriving DecidableEq

inductive FileFault where
  | notFound
  | notDirectory
  | isDirectory
  | nameTooLong
  /-- Something else is there where a directory is to be made. -/
  | occupied
  /-- A dot is no name of a directory that is to be taken away. -/
  | invalid
  /-- Two dots lead to a directory that holds another one. -/
  | notEmpty
  /-- The system has other reasons: permissions, links that lead nowhere, a device that fails. -/
  | system (e : SystemFault)
deriving DecidableEq

namespace FileFault

def denied : FileFault := .system ⟨13, "Permission denied", "EACCES: permission denied"⟩

def broken : FileFault := .system ⟨5, "Input/output error", "EIO: i/o error"⟩

def number : FileFault → Nat
  | .notFound => 2
  | .occupied => 17
  | .notDirectory => 20
  | .isDirectory => 21
  | .invalid => 22
  | .nameTooLong => 36
  | .notEmpty => 39
  | .system e => e.number

def reason : FileFault → String
  | .notFound => "No such file or directory"
  | .occupied => "File exists"
  | .notDirectory => "Not a directory"
  | .isDirectory => "Is a directory"
  | .invalid => "Invalid argument"
  | .nameTooLong => "File name too long"
  | .notEmpty => "Directory not empty"
  | .system e => e.reason

/-- The name of the fault and its reason in other words. -/
def code : FileFault → String
  | .notFound => "ENOENT: no such file or directory"
  | .occupied => "EEXIST: file already exists"
  | .notDirectory => "ENOTDIR: not a directory"
  | .isDirectory => "EISDIR: illegal operation on a directory"
  | .invalid => "EINVAL: invalid argument"
  | .nameTooLong => "ENAMETOOLONG: name too long"
  | .notEmpty => "ENOTEMPTY: directory not empty"
  | .system e => e.code

def text (e : FileFault) : String := s!"[Errno {e.number}] {e.reason}"

def message (e : FileFault) (path : String) : String := s!"{e.text}: {path.quotedText}"

/-- Nothing is there, a directory on the way is none, or links lead in a circle. -/
def isAbsence (e : FileFault) : Bool := [2, 9, 20, 40].contains e.number

end FileFault

inductive ReadFault where
  /-- The file cannot be opened. -/
  | unopened (fault : FileFault)
  /-- It is open, and its content does not come. -/
  | unread (fault : FileFault)
deriving DecidableEq

/-- An open file has no path. -/
def ReadFault.message (path : String) : ReadFault → String
  | .unopened fault => fault.message path
  | .unread fault => fault.text

end EnclaveFleet
