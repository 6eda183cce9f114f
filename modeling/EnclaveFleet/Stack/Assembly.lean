import EnclaveFleet.Files.Directory
import EnclaveFleet.Stack.Build
import EnclaveFleet.Template.Texts

/-!
# Assemblies

An assembly is a directory with the templates to deploy and files that tell of them.

* `Assembly.start`: the directory is there or is made
* `Assembly.checkTemplate`: the template of a stack can be completed and written
* `Assembly.finish`: the other files can be written and the stack can be found in the assembly
* `Assembly.synthesize`: the template of the fleet, and `Assembly.synthesizeAt`: that of a stack in
  an assembly elsewhere
-/
namespace EnclaveFleet.Assembly
set_option autoImplicit false

/-- The directory, unless it has no name and is a new one elsewhere. -/
def named? (directory : Option String) : Option String :=
  directory.filter (· ≠ "")

def elsewhere : String := "/tmp/cdk.out"

def prepare (files : Tree) (directory : String) : Except Failure Tree :=
  if directory.toList.contains '\x00' then .error (.nulInOutput directory)
  else
    match files.spelledStatus directory.wellFormed with
    | .ok .directory => .ok files
    | .ok _ => .error (.outputNotDirectory directory.paired)
    | .error _ =>
      (files.makeDirectory directory.wellFormed).mapError (.outputNotMade · directory.wellFormed)

/-- The files with the directory among them. -/
def start (files : Tree) (directory : Option String) : Run Tree :=
  match named? directory with
  | some d => Run.ofExcept (prepare files d)
  | none => .pure files

/-! ## The files -/

def path (directory : Option String) (file : String) : Path :=
  (Path.parse ((named? directory).getD elsewhere ++ "/" ++ file)).straight

def templateFile (p : Placement) : String := p.name ++ ".template.json"

/-- The place of the template as it is told. -/
def templatePath (directory : Option String) (p : Placement) : Path :=
  path (directory.map String.paired) (templateFile p)

/-- Where a file is written; surrogates that stand alone are replaced in the names of directories. -/
def storedPath (directory : Option String) (file : String) : Path :=
  path (directory.map String.wellFormed) file

/-- The label of the tree of all that is declared, unless a stack has taken it. -/
def treeLabel : String := "Tree"

/-- The files beside the template, in the order in which they are written. -/
def otherFiles (p : Placement) : List String :=
  [p.name ++ ".assets.json", p.name ++ ".metadata.json"] ++
    (if p.label = treeLabel then [] else ["tree.json"]) ++ ["manifest.json", "cdk.out"]

/-- The report on the whole assembly is written last. -/
def reportFile : String := "validation-report.json"

def checkFile (files : Tree) (directory : Option String) (file : String) : Except Failure Unit :=
  let stored := storedPath directory file
  match files.status stored with
  | .ok .directory => .error (.outputNotWritten .isDirectory stored.text)
  | .ok (.unreadable (.unopened fault)) => .error (.outputNotWritten fault stored.text)
  | .ok _ | .error .notFound | .error .notDirectory => .ok ()
  | .error fault => .error (.outputNotWritten fault stored.text)

/-! ## The template -/

/-- The first of the texts that cannot be completed counts. -/
def checkTexts (t : Template) : Except Failure Unit :=
  match t.texts.findSome? fun w => w.text.markerFault?.map (Failure.marker · w.wraps) with
  | some e => .error e
  | none => .ok ()

def checkTemplate (files : Tree) (directory : Option String) (p : Placement) (t : Template) :
    Except Failure Unit := do
  checkTexts t
  checkFile files directory (templateFile p)

/-- The environment is looked at when everything but the report is written. -/
def finish (files : Tree) (directory : Option String) (p : Placement) : Except Failure Unit := do
  (otherFiles p).forM (checkFile files directory)
  p.checkEnvironment
  checkFile files directory reportFile

/-- The assembly is asked for the stack by its id, which can differ from its name. -/
def checkArtifact (s : Settings) : Except Failure Unit :=
  if (Placement.ofSettings s).name = s.stackId then .ok () else .error (.noArtifact s.stackId)

def complete (files : Tree) (directory : Option String) (p : Placement) (t : Template) :
    Run Template :=
  Run.ofExcept do
    checkTemplate files directory p t
    finish files directory p
    return t

def synthesizeAt (p : Placement) (s : Settings) (files : Tree) : Run Template := do
  let t ← Stack.build s files p
  complete files none p t

def synthesize (s : Settings) (files : Tree) (directory : Option String) (known : Lookup) :
    Run Template := do
  let files ← start files directory
  let t ← Stack.buildFleet s files known
  complete files directory (.ofSettings s) t

end EnclaveFleet.Assembly
