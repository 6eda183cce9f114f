import EnclaveFleet.Settings.Basic

/-!
# Changing settings

* `Settings.Change`: a new value for one of the settings
* `Settings.changed`: the settings after some changes; the last one of a setting counts
-/
namespace EnclaveFleet.Settings
set_option autoImplicit false

inductive Change where
  | stackName (v : String)
  | stackPrefix (v : String)
  | account (v : Option String)
  | region (v : Option String)
  | instanceType (v : String)
  | fleetSize (v : Int)
  | secretName (v : String)
  | secretKeys (v : List String)
  | repoUrl (v : String)
  | repoRef (v : Option String)
  | bootMode (v : String)
  | bootScript (v : BootScript)
  | production (v : Bool)
  | listenerPort (v : Int)
  | natGateways (v : Int)
  | allowVpcHttps (v : Bool)
  | notes (v : List String)
deriving DecidableEq

def Change.apply (s : Settings) : Change → Settings
  | .stackName v => { s with stackName := v }
  | .stackPrefix v => { s with stackPrefix := v }
  | .account v => { s with account := v }
  | .region v => { s with region := v }
  | .instanceType v => { s with instanceType := v }
  | .fleetSize v => { s with fleetSize := v }
  | .secretName v => { s with secretName := v }
  | .secretKeys v => { s with secretKeys := v }
  | .repoUrl v => { s with repoUrl := v }
  | .repoRef v => { s with repoRef := v }
  | .bootMode v => { s with bootMode := v }
  | .bootScript v => { s with bootScript := v }
  | .production v => { s with production := v }
  | .listenerPort v => { s with listenerPort := v }
  | .natGateways v => { s with natGateways := v }
  | .allowVpcHttps v => { s with allowVpcHttps := v }
  | .notes v => { s with notes := v }

def changed (s : Settings) (changes : List Change) : Settings :=
  changes.foldl Change.apply s

end EnclaveFleet.Settings
