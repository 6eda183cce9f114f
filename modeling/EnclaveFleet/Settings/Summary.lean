import EnclaveFleet.Settings.Basic

/-!
# Summary of settings

* `Settings.summary`: labels and values, for people to read; it holds names only
* `Settings.summaryLines`, `Settings.printedSummary`: the summary as it is printed
-/
namespace EnclaveFleet.Settings
set_option autoImplicit false

/-- A value that is absent or empty is left to the credentials. -/
def orFromCredentials (value : Option String) : String :=
  (value.filter (· ≠ "")).getD "(from CLI credentials)"

def bootText (s : Settings) : String :=
  if s.bootMode = BootMode.script.name then s!"script ({s.bootScript.text})" else s.bootMode

def refSuffix (s : Settings) : String :=
  match s.ref? with
  | some r => s!" @ {r}"
  | none => ""

def keyList (s : Settings) : String :=
  ", ".intercalate s.secretKeys

def summary (s : Settings) : List (String × String) := [
  ("Stack", s.stackId),
  ("Account", orFromCredentials s.account),
  ("Region", orFromCredentials s.region),
  ("Instance Type", s.instanceType),
  ("Fleet Size", s!"{s.fleetSize} (min = max)"),
  ("Secret", s!"{s.secretName} [{s.keyList}]"),
  ("Repository", s.repoUrl ++ s.refSuffix),
  ("User Data", s.bootText),
  ("Production Install", if s.production then "yes" else "no"),
  ("Listener", s!"TCP/{s.listenerPort}"),
  ("NAT Gateways", toString s.natGateways),
  ("VPC HTTPS Ingress", if s.allowVpcHttps then "enabled" else "disabled")
]

def padEnd (width : Nat) (s : String) : String :=
  s ++ String.ofList (List.replicate (width - s.points.length) ' ')

def rule : String := String.ofList (List.replicate 60 '=')

def summaryLines (s : Settings) : List String :=
  [rule, "TEE Fleet Configuration Summary", rule] ++
    (s.summary.map fun (label, value) => padEnd 20 (label ++ ":") ++ " " ++ value) ++ [rule]

def printedSummary (s : Settings) : String :=
  String.join (s.summaryLines.map (· ++ "\n"))

end EnclaveFleet.Settings
