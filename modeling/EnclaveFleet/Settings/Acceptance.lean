import EnclaveFleet.Failure
import EnclaveFleet.Settings.Validation

/-!
# Accepting settings

* `Settings.check`: fails with every problem of the settings, or with the file system's refusal to
  say whether the bootstrap script is there
* `Settings.check_eq_ok_iff`: settings pass exactly when nothing is wrong with them
-/
namespace EnclaveFleet.Settings
set_option autoImplicit false

def check (s : Settings) (files : Tree) : Except Failure Unit :=
  match s.problems files with
  | .error fault => .error (.file fault s.bootScript.text)
  | .ok [] => .ok ()
  | .ok problems => .error (.configuration problems)

theorem check_eq_ok_iff (s : Settings) (files : Tree) :
    s.check files = .ok () ↔ s.problems files = .ok [] := by
  unfold check
  cases h : s.problems files with
  | error fault => simp
  | ok problems => cases problems <;> simp

end EnclaveFleet.Settings
