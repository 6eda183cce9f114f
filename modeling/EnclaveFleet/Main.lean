import EnclaveFleet.Console.Execute
import EnclaveFleet.Json.Writer
import EnclaveFleet.Template.Document
import Std.Time.Format

/-!
# The program

Gathers what the command line works on, executes it and shows what came of it. No client of the
cloud services is built in: every check before a deployment finds no credentials. The bootstrap
script is looked for below the working directory; a file that it is not allowed to read counts as
one that is there.
-/
namespace EnclaveFleet.Console
set_option autoImplicit false

def programName : String := "tee-fleet"

def loaded (environment : Environment) : Program := ⟨programName, environment.logLevel⟩

/-- The variables that the program looks at. -/
def variableNames : List String :=
  Variable.all.map (·.name) ++ [Environment.logLevelVariable,
    (loaded (.ofList [])).completionVariable, Typed.wordsVariable, Typed.positionVariable]

def readEnvironment : IO Environment := do
  let values ← variableNames.filterMapM fun name => do
    return (← IO.getEnv name).map (name, ·)
  return .ofList values

def readScript : BootScript → IO Tree
  | .shipped => return .empty
  | .file p => do
    match ← (IO.FS.readBinFile p.text).toBaseIO with
    | .ok content => return .holding p (.file content.toList)
    | .error (.permissionDenied ..) => return .holding p (.unreadable (.unopened .denied))
    | .error _ => return .empty

/-- What the calls of the program leave for the text of a secret. -/
def levels : Nat := 960

def unreachableCloud : Cloud :=
  ⟨.made (.error (.connection .noCredentials)), .made (.error (.connection .noCredentials))⟩

def display (time : String) : Output → IO Unit
  | .out text => do
    (← IO.getStdout).putStr text
    (← IO.getStdout).flush
  | .err text => IO.eprint text
  | .record r => IO.eprintln (r.line time)

def save (w : Written) : IO Unit := do
  let directory : Path := { w.path with names := w.path.names.dropLast }
  IO.FS.createDirAll directory.text
  IO.FS.writeFile w.path.text w.template.document.render

def timeStamp : IO String := do
  return (← Std.Time.PlainDateTime.now).format "uuuu-MM-dd HH:mm:ss,SSS"

def program (words : List String) : IO UInt32 := do
  let environment ← readEnvironment
  let files ← readScript (Settings.ofEnvironment environment).bootScript
  let world : World :=
    { program := loaded environment
      environment := environment
      files := files
      preflight := fun s => Preflight.run levels s unreachableCloud }
  let session := execute world words
  let time ← timeStamp
  session.output.forM (display time)
  session.written.forM save
  match session.failure? with
  | some e => IO.eprintln e.message
  | none => pure ()
  return UInt32.ofNat session.exitCode

end EnclaveFleet.Console

def main (words : List String) : IO UInt32 :=
  EnclaveFleet.Console.program words
