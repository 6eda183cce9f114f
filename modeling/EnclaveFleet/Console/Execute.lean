import EnclaveFleet.Console.Completion
import EnclaveFleet.Console.Page
import EnclaveFleet.Console.Session
import EnclaveFleet.Preflight
import EnclaveFleet.Settings.Change
import EnclaveFleet.Settings.Environment

/-!
# Executing the command line

* `World`: what the commands work on
* `threshold?`: from which level on the log is shown
* `info`, `preflight`, `synth`, `userData`: the commands
* `executeWords`: the session for the words of a command line
* `execute`: the same, unless a shell asks for completions

Settings are checked before a command does anything else; only `info` shows them first.
-/
namespace EnclaveFleet.Console
set_option autoImplicit false

structure World where
  program : Program
  environment : Environment
  files : Tree
  preflight : Settings → Run (List CheckResult)
  /-- What an earlier deployment left in the project. -/
  known : Lookup := nothingKnown

/-! ## The level of the log -/

def thresholds : List (String × Nat) := [("CRITICAL", 50), ("FATAL", 50), ("ERROR", 40),
  ("WARN", 30), ("WARNING", 30), ("INFO", 20), ("DEBUG", 10), ("NOTSET", 0)]

def threshold (level : String) : Except Failure Nat :=
  match thresholds.lookup level.upperCase with
  | some n => .ok n
  | none => .error (.logLevel level.upperCase)

/-! ## The commands -/

def loadSettings (w : World) (changes : List Settings.Change) : Session Settings := do
  let s := (Settings.ofEnvironment w.environment).changed changes
  Session.ofExcept (s.check w.files)
  return s

def info (w : World) : Session Unit := Session.reporting do
  let s := Settings.ofEnvironment w.environment
  Session.say ""
  s.summaryLines.forM Session.print
  Session.ofExcept (s.check w.files)
  Session.say "✅ Configuration is valid"
  Session.say ""

/-- Stand for what is known at deployment only. -/
def arnPlaceholder : Deferred := .ofString "<secret-arn>"

def regionPlaceholder : Deferred := .ofString "<region>"

/-- The script is shown whole or not at all. -/
def userData (w : World) (mode : Option String) : Session Unit := Session.reporting do
  let s ← loadSettings w (mode.toList.map .bootMode)
  let commands ← Session.ofExcept (match s.mode? with
    | some .script => Bootstrap.scriptCommands s w.files arnPlaceholder regionPlaceholder
    | _ => .ok (Bootstrap.inlineCommands s arnPlaceholder regionPlaceholder))
  (Bootstrap.shebang :: commands.map Deferred.plain).forM Session.say

/-- The template is written before the assembly is looked through. -/
def synth (w : World) (log : Nat) (directory : String) : Session Unit := Session.reporting do
  let s ← loadSettings w []
  Session.say ""
  Session.say s!"🏗️  Synthesizing {s.stackId}..."
  let place := Placement.ofSettings s
  let files ← Session.ofRun log (Assembly.start w.files directory)
  let template ← Session.ofRun log (Stack.buildFleet s files w.known)
  Session.ofExcept (Assembly.checkTemplate files directory place template)
  Session.write (Assembly.storedPath directory (Assembly.templateFile place)) template
  Session.ofExcept (Assembly.finish files directory place)
  Session.ofExcept (Assembly.checkArtifact s)
  Session.say s!"✅ Template written to {(Assembly.templatePath directory place).text}"
  Session.say ""

def resultLine (r : CheckResult) : String :=
  (if r.passed then "✅ " else "❌ ") ++ Settings.padEnd 15 r.name ++ " " ++ r.detail

def preflight (w : World) (log : Nat) : Session Unit := Session.reporting do
  let s ← loadSettings w []
  Session.say ""
  Session.say s!"🔍 Preflight for {s.stackId} in {s.regionText}"
  Session.say (String.ofList (List.replicate 60 '-'))
  let results ← Session.ofRun log (w.preflight s)
  (results.map resultLine).forM Session.say
  Session.say ""
  let failed := results.countP (!·.passed)
  if failed = 0 then
    Session.say "✅ Ready to deploy"
    Session.say ""
  else Session.giveUp s!"{failed} preflight check(s) failed"

/-! ## The command line -/

/-- An error of usage ends the session with a code of its own. -/
def misused {α : Type} (p : Page) (e : UsageError) : Session α := do
  if !e.isBare then Session.complain p.reminder
  Session.complain ("Error: " ++ e.message)
  Session.exit 2

/-- Answers the first option that is answered at once, if there is one. -/
def answerEager (program : Program) (p : Page) (a : Arguments) : Session Unit :=
  match a.eager? with
  | some .version => do
    Session.say s!"{program.name}, version {programVersion}"
    Session.exit 0
  | some _ => do
    Session.say p.render
    Session.exit 0
  | none => .pure ()

def readOptions (program : Program) (p : Page) (switches : List Switch) (allOver : Bool)
    (words : List String) : Session Arguments :=
  match Arguments.read switches allOver words with
  | .error e => misused p e
  | .ok a => do
    answerEager program p a
    return a

def perform (w : World) (log : Nat) (c : Command) (a : Arguments) : Session Unit :=
  match c with
  | .info => info w
  | .preflight => preflight w log
  | .synth => synth w log ((a.value? .directory).getD defaultDirectory)
  | .userData => userData w (a.value? .mode)

/-- What is wrong with the values and the number of the arguments of a command. -/
def argumentError? (a : Arguments) : Option UsageError :=
  let modes := BootMode.all.map BootMode.name
  match (a.value? .mode).filter (!modes.contains ·) with
  | some value => some (.noSuchMode value modes)
  | none => if a.others.isEmpty then none else some (.unexpected a.others)

def executeCommand (w : World) (log : Nat) (c : Command) (words : List String) :
    Session Unit := do
  let page := w.program.commandPage c
  let a ← readOptions w.program page c.switches true words
  match argumentError? a with
  | some e => misused page e
  | none => perform w log c a

/-- The command of a name. Words that name no command may be options behind two hyphens, which are
answered as such before the name is refused. -/
def findCommand (p : Program) (name : String) (words : List String) : Session Command :=
  match Command.ofName? name with
  | some c => .pure c
  | none => do
    let _ ← readOptions p p.page programSwitches false (name :: words)
    misused p.page (.noSuchCommand name (Text.similar name (Command.all.map Command.name)))

def executeWords (w : World) (words : List String) : Session Unit :=
  if words.isEmpty then do
    Session.complain w.program.page.render
    Session.exit 2
  else do
    let a ← readOptions w.program w.program.page programSwitches false words
    match a.others with
    | [] => misused w.program.page .missingCommand
    | name :: rest =>
      let c ← findCommand w.program name rest
      let log ← Session.ofExcept (threshold ((a.value? .logLevel).getD w.program.logLevel))
      executeCommand w log c rest

/-- A shell that asks for completions is answered in the stead of the words. -/
def execute (w : World) (words : List String) : Session Unit :=
  match w.environment.nonempty w.program.completionVariable with
  | some value => answerShell w.program w.environment value
  | none => executeWords w words

end EnclaveFleet.Console
