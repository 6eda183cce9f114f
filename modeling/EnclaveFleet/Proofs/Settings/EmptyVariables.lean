import EnclaveFleet.Proofs.Stack.LaunchedText
import EnclaveFleet.Settings.Environment

/-!
# Empty variables

A variable that is empty counts as one that is unset, with one exception: where no account is given,
the default account is taken as it is, and the fleet goes to an account without a name.

* `Environment.withoutEmpty`: the environment that is left without the empty variables
* `Environment.filled_withoutEmpty`, `Environment.nonempty_withoutEmpty`: it has the same values
* `Environment.NamelessAccount`: the exception
* `ofEnvironment_withoutEmpty`: what it changes in the settings
* `empty_means_unset_iff`: the settings, the target and the ARN of the secret are the same for both
  environments exactly where there is no exception
-/
namespace EnclaveFleet
set_option autoImplicit false

namespace Environment

def withoutEmpty (env : Environment) : Environment :=
  fun name => (env name).filter (· ≠ "")

variable (env : Environment) (name : String)

theorem nonempty_withoutEmpty : env.withoutEmpty.nonempty name = env.nonempty name := by
  unfold nonempty withoutEmpty
  simp

theorem filled_withoutEmpty : env.withoutEmpty.filled name = env.filled name := by
  have hblank : "".isAllBlank = true := rfl
  unfold filled withoutEmpty
  rw [Option.filter_filter]
  congr 1
  funext value
  by_cases h : value = ""
  · simp [h, hblank]
  · simp [h]

theorem flag_withoutEmpty (default : Bool) :
    env.withoutEmpty.flag name default = env.flag name default := by
  unfold flag
  rw [filled_withoutEmpty]

theorem integer_withoutEmpty (default : Int) :
    env.withoutEmpty.integer name default = env.integer name default := by
  unfold integer
  rw [filled_withoutEmpty]

theorem items_withoutEmpty (default : List String) :
    env.withoutEmpty.items name default = env.items name default := by
  unfold items
  rw [filled_withoutEmpty]

theorem ne_empty_of_nonempty {value : String} (h : env.nonempty name = some value) :
    value ≠ "" := by
  have hfilter := Option.filter_eq_some_iff.mp h
  simpa using hfilter.2

/-- A text that is empty by default is empty either way. -/
theorem getD_withoutEmpty : (env.withoutEmpty name).getD "" = (env name).getD "" := by
  unfold withoutEmpty
  cases env name with
  | none => rfl
  | some value => by_cases h : value = "" <;> simp [Option.filter, h]

/-- No account is given, and the default one is empty. -/
def NamelessAccount : Prop :=
  env.nonempty (Variable.name .deployAccount) = none ∧
    env (Variable.name .defaultAccount) = some ""

end Environment

namespace Settings

variable (env : Environment)

theorem account_ofEnvironment :
    (ofEnvironment env).account =
      (env.nonempty (Variable.name .deployAccount)).or (env (Variable.name .defaultAccount)) := rfl

theorem account_eq_empty_iff :
    (ofEnvironment env).account = some "" ↔ env.NamelessAccount := by
  rw [account_ofEnvironment, Environment.NamelessAccount]
  cases h : env.nonempty (Variable.name .deployAccount) with
  | none => simp
  | some account =>
    have hne : account ≠ "" := env.ne_empty_of_nonempty _ h
    simp [hne]

theorem account_withoutEmpty :
    (ofEnvironment env.withoutEmpty).account = (ofEnvironment env).account.filter (· ≠ "") := by
  rw [account_ofEnvironment, account_ofEnvironment, Environment.nonempty_withoutEmpty]
  cases h : env.nonempty (Variable.name .deployAccount) with
  | none => rfl
  | some account =>
    have hne : account ≠ "" := env.ne_empty_of_nonempty _ h
    simp [Option.filter, hne]

theorem account_withoutEmpty_eq_iff :
    (ofEnvironment env.withoutEmpty).account = (ofEnvironment env).account ↔
      ¬env.NamelessAccount := by
  rw [account_withoutEmpty, ← account_eq_empty_iff]
  cases (ofEnvironment env).account with
  | none => simp
  | some account => by_cases h : account = "" <;> simp [Option.filter, h]

/-- All but the account are the same settings. -/
theorem ofEnvironment_withoutEmpty :
    ofEnvironment env.withoutEmpty =
      { ofEnvironment env with account := (ofEnvironment env).account.filter (· ≠ "") } := by
  rw [← account_withoutEmpty]
  simp only [ofEnvironment, Environment.nonempty_withoutEmpty, Environment.flag_withoutEmpty,
    Environment.integer_withoutEmpty, Environment.items_withoutEmpty,
    Environment.getD_withoutEmpty]

/-! ## Where the fleet goes -/

theorem region_ofEnvironment : (ofEnvironment env).region.getD "" ≠ "" := by
  have hdefault : defaultRegion ≠ "" := by decide
  show ((env.nonempty (Variable.name .deployRegion)).or
    (env.nonempty (Variable.name .defaultRegion))).getD defaultRegion ≠ ""
  cases hdeploy : env.nonempty (Variable.name .deployRegion) with
  | some region => exact env.ne_empty_of_nonempty _ hdeploy
  | none =>
    cases hregion : env.nonempty (Variable.name .defaultRegion) with
    | some region => exact env.ne_empty_of_nonempty _ hregion
    | none => exact hdefault

theorem region_withoutEmpty :
    (ofEnvironment env.withoutEmpty).region = (ofEnvironment env).region := by
  rw [ofEnvironment_withoutEmpty]

theorem withoutEmpty_eq_iff :
    ofEnvironment env.withoutEmpty = ofEnvironment env ↔ ¬env.NamelessAccount := by
  rw [← account_withoutEmpty_eq_iff]
  constructor
  · intro h
    rw [h]
  · intro h
    rw [ofEnvironment_withoutEmpty, ← account_withoutEmpty, h]

/-- There is always a target, since the region is never left open. -/
theorem target_ofEnvironment :
    (ofEnvironment env).target? =
      some ⟨(ofEnvironment env).account, (ofEnvironment env).region⟩ := by
  unfold target?
  exact if_neg fun h => region_ofEnvironment env h.2

theorem target_withoutEmpty_eq_iff :
    (ofEnvironment env.withoutEmpty).target? = (ofEnvironment env).target? ↔
      ¬env.NamelessAccount := by
  rw [target_ofEnvironment, target_ofEnvironment, region_withoutEmpty,
    ← account_withoutEmpty_eq_iff]
  simp

end Settings

namespace Stack

open Settings

theorem arnAt_eq_iff (values : PseudoParameter → String) {s t : Settings} {p q : Placement}
    (hregion : p.region? = q.region?) (hname : s.secretName = t.secretName) :
    arnAt values s p = arnAt values t q ↔
      p.account?.getD (values .accountId) = q.account?.getD (values .accountId) := by
  unfold arnAt regionAt
  rw [hregion, hname]
  constructor
  · intro h
    have hlist := congrArg String.toList h
    simp only [String.toList_append, List.append_cancel_left_eq, List.append_cancel_right_eq]
      at hlist
    exact String.ext hlist
  · intro h
    rw [h]

theorem account_ofSettings_ofEnvironment (env : Environment) :
    (Placement.ofSettings (ofEnvironment env)).account? = (ofEnvironment env).account := by
  show (ofEnvironment env).target?.bind (·.account) = _
  rw [target_ofEnvironment, Option.bind_some]

theorem region_ofSettings_ofEnvironment (env : Environment) :
    (Placement.ofSettings (ofEnvironment env)).region? = (ofEnvironment env).region := by
  show (ofEnvironment env).target?.bind (·.region) = _
  rw [target_ofEnvironment, Option.bind_some]

theorem secretArn_withoutEmpty_eq_iff (env : Environment) (values : PseudoParameter → String) :
    (secretArn (ofEnvironment env.withoutEmpty)
        (.ofSettings (ofEnvironment env.withoutEmpty))).resolve values =
      (secretArn (ofEnvironment env) (.ofSettings (ofEnvironment env))).resolve values ↔
        (env.NamelessAccount → values .accountId = "") := by
  have hregion : (Placement.ofSettings (ofEnvironment env.withoutEmpty)).region? =
      (Placement.ofSettings (ofEnvironment env)).region? := by
    rw [region_ofSettings_ofEnvironment, region_ofSettings_ofEnvironment, region_withoutEmpty]
  have hname : (ofEnvironment env.withoutEmpty).secretName = (ofEnvironment env).secretName := by
    rw [ofEnvironment_withoutEmpty]
  rw [resolve_secretArn, resolve_secretArn, arnAt_eq_iff values hregion hname,
    account_ofSettings_ofEnvironment, account_ofSettings_ofEnvironment]
  by_cases hnameless : env.NamelessAccount
  · have hempty := (account_eq_empty_iff env).mpr hnameless
    rw [account_withoutEmpty, hempty]
    simp [Option.filter, hnameless]
  · rw [(account_withoutEmpty_eq_iff env).mpr hnameless]
    simp [hnameless]

/-- An empty variable means the same as an unset one, unless the account is without a name. -/
theorem empty_means_unset_iff (env : Environment) (values : PseudoParameter → String) :
    ofEnvironment env.withoutEmpty =
      { ofEnvironment env with account := (ofEnvironment env).account.filter (· ≠ "") } ∧
    (ofEnvironment env.withoutEmpty = ofEnvironment env ↔ ¬env.NamelessAccount) ∧
    ((ofEnvironment env.withoutEmpty).target? = (ofEnvironment env).target? ↔
      ¬env.NamelessAccount) ∧
    ((secretArn (ofEnvironment env.withoutEmpty)
        (.ofSettings (ofEnvironment env.withoutEmpty))).resolve values =
      (secretArn (ofEnvironment env) (.ofSettings (ofEnvironment env))).resolve values ↔
        (env.NamelessAccount → values .accountId = "")) :=
  ⟨ofEnvironment_withoutEmpty env, withoutEmpty_eq_iff env, target_withoutEmpty_eq_iff env,
    secretArn_withoutEmpty_eq_iff env values⟩

/-! ## An account without a name -/

def nameless : Environment := .ofList [(Variable.name .defaultAccount, "")]

/-- Nothing else is set, and the fleet cannot be put anywhere. -/
theorem empty_account_is_kept :
    nameless.NamelessAccount ∧
    (ofEnvironment nameless).account = some "" ∧
    (ofEnvironment nameless.withoutEmpty).account = none ∧
    (ofEnvironment nameless).target? ≠ (ofEnvironment nameless.withoutEmpty).target? ∧
    (secretArn (ofEnvironment nameless) (.ofSettings (ofEnvironment nameless))).resolve deployed =
      "arn:aws:secretsmanager:us-east-1::secret:sp1_tee" ∧
    (Placement.ofSettings (ofEnvironment nameless)).checkEnvironment =
      .error (.environment "" "us-east-1") ∧
    (Placement.ofSettings (ofEnvironment nameless.withoutEmpty)).checkEnvironment = .ok () := by
  refine ⟨⟨by decide, by decide⟩, by decide, by decide, by decide, by decide, rfl, rfl⟩

end Stack
end EnclaveFleet
