import EnclaveFleet.Console.Option
import EnclaveFleet.Settings.Summary
import EnclaveFleet.Text.Brief

/-!
# What the command line offers

* `Command`: the commands
* `Program`: the name that the program is called by, and its level of the log
* `Page`: the help for the program or one command; `Page.render` is its text
* `Page.reminder`: the usage as it stands over an error
-/
namespace EnclaveFleet.Console
set_option autoImplicit false

inductive Command where
  | info
  | preflight
  | synth
  | userData
deriving DecidableEq

namespace Command

def all : List Command := [.info, .preflight, .synth, .userData]

def name : Command → String
  | .info => "info"
  | .preflight => "preflight"
  | .synth => "synth"
  | .userData => "user-data"

def ofName? (s : String) : Option Command :=
  all.find? (·.name = s)

def switches : Command → List Switch
  | .info | .preflight => [.help]
  | .synth => [.directory, .help]
  | .userData => [.mode, .help]

end Command

def programSwitches : List Switch := [.version, .logLevel, .help]

/-- The program as it was called and loaded. -/
structure Program where
  name : String
  /-- The level of the log where none is given. -/
  logLevel : String
deriving DecidableEq

def defaultDirectory : String := "cdk.out"

/-! ## Pages -/

structure Page where
  /-- The words that lead to what the page is about. -/
  path : String
  /-- What follows these words. -/
  form : String
  about : List String
  options : List (String × String)
  commands : List (String × String) := []

namespace Page

def usage (p : Page) : String := s!"Usage: {p.path} {p.form}"

/-- A line for each entry, the second column aligned. -/
def table (entries : List (String × String)) : List String :=
  let width := (entries.map (·.1.length)).foldl max 0
  entries.map fun (name, text) => "  " ++ Settings.padEnd (width + 2) name ++ text

def part (title : String) (entries : List (String × String)) : List String :=
  if entries.isEmpty then [] else ["", title ++ ":"] ++ table entries

def indented (line : String) : String :=
  if line = "" then line else "  " ++ line

def lines (p : Page) : List String :=
  [p.usage, ""] ++ p.about.map indented ++ part "Options" p.options ++ part "Commands" p.commands

def render (p : Page) : String := "\n".intercalate p.lines

def reminder (p : Page) : String :=
  p.usage ++ s!"\nTry '{p.path} --help' for help.\n"

end Page

def Switch.form : Switch → String
  | .version => "--version"
  | .help => "--help"
  | .logLevel => "--log-level TEXT"
  | .directory => "-o, --outdir TEXT"
  | .mode => "-m, --mode [inline|script]"

def Switch.about : Switch → String
  | .version => "Show the version and exit."
  | .help => "Show this message and exit."
  | .logLevel => "Python logging level"
  | .directory => "Cloud assembly output directory"
  | .mode => "Override TEE_FLEET_USER_DATA_MODE"

def Program.default? (p : Program) : Switch → Option String
  | .logLevel => some p.logLevel
  | .directory => some defaultDirectory
  | .version | .help | .mode => none

/-- An option with what it is for and what counts when it is not given. -/
def Program.entry (p : Program) (s : Switch) : String × String :=
  (s.form, match p.default? s with
    | some value => s.about ++ "  [default: " ++ (if value = "" then "\"\"" else value) ++ "]"
    | none => s.about)

def Command.about : Command → List String
  | .info => ["Display the effective configuration (never secret values)."]
  | .preflight => [
      "Check deploy prerequisites in the target account (read-only).",
      "",
      "- The host secret exists and has every configured key - The instance type",
      "supports Nitro Enclaves in the region",
      "",
      "Uses the standard AWS credential chain."]
  | .synth => [
      "Synthesize the fleet stack to a cloud assembly.",
      "",
      "Equivalent to \x60cdk synth\x60 without the CDK toolkit; useful in CI to check that",
      "the stack still builds."]
  | .userData => [
      "Print the host bootstrap commands as they go into the launch template.",
      "",
      "The secret ARN and region are resolved at deploy time and are shown as",
      "placeholders."]

/-- One line about a command: the first sentence, cut off where it is too long. -/
def Command.brief (c : Command) (limit : Nat) : String :=
  (" ".intercalate (c.about.takeWhile (· ≠ ""))).brief limit

/-- What a line of the page leaves for the text about a command. -/
def briefLimit : Nat := 65

def programVersion : String := "0.1.0"

def Program.commandPage (p : Program) (c : Command) : Page where
  path := p.name ++ " " ++ c.name
  form := "[OPTIONS]"
  about := c.about
  options := c.switches.map p.entry

def Program.page (p : Program) : Page where
  path := p.name
  form := "[OPTIONS] COMMAND [ARGS]..."
  about := [
    "TEE Fleet CLI - build and check the Nitro Enclave host fleet stack",
    "",
    "Settings are read from the environment and from a .env file.",
    "",
    "Examples:     tee-fleet info     tee-fleet synth --outdir cdk.out     tee-",
    "fleet user-data --mode script     tee-fleet preflight"]
  options := programSwitches.map p.entry
  commands := Command.all.map fun c => (c.name, c.brief briefLimit)

end EnclaveFleet.Console
