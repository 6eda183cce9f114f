import EnclaveFleet.Bytes.Base64
import EnclaveFleet.Run
import EnclaveFleet.Shell.Quote
import EnclaveFleet.Text.CaseMap

/-!
# The first boot of a host

Both modes leave the same host behind: the repository checked out in the home directory, a `.env`
file with the configured keys of the secret, and the installation run.

* `Bootstrap.inlineCommands`: the steps as commands of the user data
* `Bootstrap.scriptCommands`: commands that set variables, unpack a script and run it
* `Bootstrap.userData`: the user data for the configured mode

The ARN of the secret and the region may be known at deployment only; they are put into the
commands without being looked at.
-/
namespace EnclaveFleet.Bootstrap
set_option autoImplicit false

def shebang : String := "#!/bin/bash"

/-- The variable that holds the value of a key of the secret. -/
def variableName (key : String) : String :=
  key.upperCase

/-! ## Inline -/

/-- The commands that clone the repository and go into it. -/
def checkout (s : Settings) : List Deferred :=
  [.ofString ("git clone " ++ s.repoUrl), .ofString ("cd " ++ s.repoDir)] ++
    match s.ref? with
    | some ref => [.ofString ("git checkout " ++ ref)]
    | none => []

def fetchSecret (arn region : Deferred) : Deferred :=
  [.literal "SECRET_JSON=$(aws secretsmanager get-secret-value --secret-id "] ++ arn ++
    [.literal " --region "] ++ region ++ [.literal " --query SecretString --output text)"]

/-- Takes the value of a key out of the secret. -/
def extract (key : String) : String :=
  variableName key ++ "=$(echo $SECRET_JSON | jq -r ." ++ key ++ ")"

/-- Adds the value of a key to the `.env` file. -/
def store (key : String) : String :=
  "echo \"" ++ variableName key ++ "=$" ++ variableName key ++ "\" >> .env"

def install (s : Settings) : String :=
  " ".intercalate ("./scripts/install-host.sh" :: s.installArgs)

def inlineCommands (s : Settings) (arn region : Deferred) : List Deferred :=
  [.ofString "su ec2-user", .ofString "sudo dnf install git aws-cli jq -y",
    .ofString "cd /home/ec2-user"] ++
  checkout s ++
  [.ofString "export HOME=/home/ec2-user", fetchSecret arn region] ++
  s.secretKeys.map (fun key => .ofString (extract key)) ++
  s.secretKeys.map (fun key => .ofString (store key)) ++
  [.ofString (install s)]

/-! ## Script -/

/-- White space of ASCII; a script of nothing else is blank. -/
def isBlankByte (b : UInt8) : Bool :=
  (0x09 ≤ b && b ≤ 0x0D) || b = 0x20

/-- The script in base64. -/
def encodeScript (files : Tree) (script : BootScript) : Except Failure String :=
  match script.pathFault? with
  | some fault => .error (.unencodable fault)
  | none =>
    if script.hasNul then .error .nulByte
    else
      match script.read files with
      | .error fault => .error (.configuration [.scriptUnreadable script fault])
      | .ok content =>
        if content.all isBlankByte then .error (.configuration [.scriptBlank script])
        else .ok (String.ofList (Base64.encode content))

/-- The variables that the script reads. -/
def exports (s : Settings) (arn region : Deferred) : List (String × Deferred) := [
  ("SECRET_ARN", arn),
  ("AWS_REGION", region),
  ("REPO_URL", .ofString s.repoUrl),
  ("REPO_DIR", .ofString s.repoDir),
  ("REPO_REF", .ofString (s.repoRef.getD "")),
  ("SECRET_KEYS", .ofString (" ".intercalate s.secretKeys)),
  ("INSTALL_ARGS", .ofString (" ".intercalate s.installArgs))
]

def exportCommand (name : String) (value : Deferred) : Deferred :=
  .literal ("export " ++ name ++ "=") :: Shell.quote value

def scriptTarget : String := "/opt/tee-fleet/bootstrap-host.sh"

/-- The commands that unpack a script and run it. -/
def unpack (encoded : String) : List Deferred := [
  .ofString "mkdir -p /opt/tee-fleet",
  .ofString ("echo " ++ encoded ++ " | base64 --decode > " ++ scriptTarget),
  .ofString ("chmod +x " ++ scriptTarget),
  .ofString scriptTarget
]

def scriptCommands (s : Settings) (files : Tree) (arn region : Deferred) :
    Except Failure (List Deferred) :=
  match encodeScript files s.bootScript with
  | .error e => .error e
  | .ok encoded =>
    .ok ((exports s arn region).map (fun (name, value) => exportCommand name value) ++
      unpack encoded)

/-! ## User data -/

def render (commands : List Deferred) : Deferred :=
  Deferred.joinWith "\n" (.ofString shebang :: commands)

def userData (s : Settings) (files : Tree) (arn region : Deferred) : Run Deferred :=
  match s.mode? with
  | none => .fail (.configuration [.unknownMode s.bootMode])
  | some .inline => .pure (render (inlineCommands s arn region))
  | some .script => do
    let commands ← Run.ofExcept (scriptCommands s files arn region)
    Run.log .userData .info ("📜 Embedded bootstrap script " ++ s.bootScript.text)
    return render commands

end EnclaveFleet.Bootstrap
