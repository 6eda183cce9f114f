import EnclaveFleet.Run
import EnclaveFleet.Stack.Assembly
import EnclaveFleet.Text.Breaks
import EnclaveFleet.Text.Escapes

/-!
# A session at the console

* `Output`: what appears at the console, in order
* `Session`: how a command ended, what it showed, whom it called and which templates it wrote
* `Session.reporting`: the failures that are foreseen and those of the provider become a message
* `Session.ofRun`: a run inside a session; its log is shown from a threshold upwards
* `Session.standardOutput`, `Session.standardError`: what was shown, as two texts
* `Session.bind_of_ok`, `Session.bind_of_error`: a session goes on exactly where it did not end
* `Session.bind_assoc`: it does not matter which steps are put together first
-/
namespace EnclaveFleet.Console
set_option autoImplicit false

inductive Output where
  | out (text : String)
  | err (text : String)
  | record (r : LogRecord)
deriving DecidableEq

/-- Why a command does not go on. -/
inductive Stop where
  | exit (code : Nat)
  | failed (e : Failure)

structure Written where
  path : Path
  template : Template

structure Session (α : Type) where
  outcome : Except Stop α
  output : List Output := []
  calls : List Call := []
  written : List Written := []

namespace Session

variable {α β γ : Type}

def pure (a : α) : Session α := { outcome := .ok a }

def stop (s : Stop) : Session α := { outcome := .error s }

def exit (code : Nat) : Session α := stop (.exit code)

/-- What the first session did comes before what the second one did. -/
def andThen (r : Session α) (s : Session β) : Session β where
  outcome := s.outcome
  output := r.output ++ s.output
  calls := r.calls ++ s.calls
  written := r.written ++ s.written

def bind (r : Session α) (f : α → Session β) : Session β :=
  match r.outcome with
  | .ok a => r.andThen (f a)
  | .error s => r.andThen (stop s)

instance : Monad Session where
  pure := Session.pure
  bind := Session.bind

theorem bind_of_ok (r : Session α) (f : α → Session β) (a : α) (h : r.outcome = .ok a) :
    r.bind f = r.andThen (f a) := by
  simp [bind, h]

theorem bind_of_error (r : Session α) (f : α → Session β) (s : Stop) (h : r.outcome = .error s) :
    r.bind f = r.andThen (stop s) := by
  simp [bind, h]

theorem pure_bind (a : α) (f : α → Session β) : (pure a).bind f = f a := by
  simp [pure, bind, andThen]

theorem andThen_assoc (r : Session α) (s : Session β) (t : Session γ) :
    (r.andThen s).andThen t = r.andThen (s.andThen t) := by
  simp [andThen]

theorem bind_assoc (r : Session α) (f : α → Session β) (g : β → Session γ) :
    (r.bind f).bind g = r.bind fun a => (f a).bind g := by
  cases hr : r.outcome with
  | error s =>
    rw [bind_of_error r _ s hr, bind_of_error r _ s hr]
    exact andThen_assoc r (stop s) (stop s)
  | ok a =>
    rw [bind_of_ok r _ a hr, bind_of_ok r _ a hr]
    cases hf : (f a).outcome with
    | error s =>
      have hboth : (r.andThen (f a)).outcome = .error s := hf
      rw [bind_of_error _ _ s hboth, bind_of_error _ _ s hf, andThen_assoc]
    | ok b =>
      have hboth : (r.andThen (f a)).outcome = .ok b := hf
      rw [bind_of_ok _ _ b hboth, bind_of_ok _ _ b hf, andThen_assoc]

/-! ## Showing -/

def emit (o : Output) : Session Unit := { outcome := .ok (), output := [o] }

/-- Shows text, unless it has no bytes. -/
def put (text : String) : Session Unit :=
  match text.showFault? with
  | some fault => stop (.failed (.unencodable fault))
  | none => emit (.out text)

/-- Shows a line as it is. -/
def print (line : String) : Session Unit := put (line ++ "\n")

/-- Shows a line; terminal escapes are left out. -/
def say (line : String) : Session Unit := put (line ++ "\n").dropEscapes

def complain (line : String) : Session Unit := emit (.err (line ++ "\n").dropEscapes)

def write (path : Path) (template : Template) : Session Unit :=
  { outcome := .ok (), written := [⟨path, template⟩] }

/-! ## Runs and their failures -/

/-- Records of a level at or above the threshold are shown. -/
def ofRun (threshold : Nat) (r : Run α) : Session α where
  outcome := r.outcome.mapError .failed
  output := (r.logs.filter fun record => threshold ≤ record.level.severity).map .record
  calls := r.calls

def ofExcept (outcome : Except Failure α) : Session α where
  outcome := outcome.mapError .failed

/-- Ends the session with a message between blank lines. -/
def giveUp (message : String) : Session α := do
  say ""
  complain ("❌ " ++ message)
  say ""
  exit 1

/-- What is shown of a failure; one that was not foreseen goes on as it is. -/
def report (e : Failure) : Session α :=
  if e.isForeseen then giveUp e.message
  else if e.isCloud then giveUp ("AWS error: " ++ e.message)
  else stop (.failed e)

def reporting (r : Session α) : Session α :=
  match r.outcome with
  | .error (.failed e) => r.andThen (report e)
  | _ => r

/-! ## The end -/

/-- What was shown of the answers. -/
def standardOutput (r : Session α) : String :=
  (String.join (r.output.map fun
    | .out text => text
    | .err _ | .record _ => "")).plainBreaks

/-- What was shown beside the answers; here surrogates are shown as escapes. -/
def standardError (r : Session α) (time : String) : String :=
  (String.join (r.output.map fun
    | .out _ => ""
    | .err text => text.escapeSurrogates
    | .record record => (record.line time ++ "\n").escapeSurrogates)).plainBreaks

def exitCode (r : Session α) : Nat :=
  match r.outcome with
  | .ok _ => 0
  | .error (.exit code) => code
  | .error (.failed _) => 1

/-- Where a session does not leave by itself, it ends well when each part of it does. -/
theorem exitCode_bind_eq_zero_iff {r : Session α} {f : α → Session β}
    (h : ∀ code, r.outcome ≠ .error (.exit code)) :
    (r.bind f).exitCode = 0 ↔ ∃ a, r.outcome = .ok a ∧ (f a).exitCode = 0 := by
  cases hr : r.outcome with
  | ok a =>
    have hcode : (r.andThen (f a)).exitCode = (f a).exitCode := rfl
    rw [bind_of_ok r f a hr, hcode]
    simp
  | error s =>
    cases s with
    | exit code => exact absurd hr (h code)
    | failed e =>
      have hcode : (r.andThen (stop (.failed e) : Session β)).exitCode = 1 := rfl
      rw [bind_of_error r f _ hr, hcode]
      simp

theorem outcome_ofExcept_iff {outcome : Except Failure α} {a : α} :
    (ofExcept outcome).outcome = .ok a ↔ outcome = .ok a := by
  cases outcome with
  | ok b =>
    have hok : (ofExcept (.ok b)).outcome = .ok b := rfl
    rw [hok, Except.ok.injEq, Except.ok.injEq]
  | error e =>
    have herror : (ofExcept (.error e) : Session α).outcome = .error (.failed e) := rfl
    rw [herror]
    simp

theorem outcome_ofRun_iff {threshold : Nat} {r : Run α} {a : α} :
    (ofRun threshold r).outcome = .ok a ↔ r.outcome = .ok a :=
  outcome_ofExcept_iff

theorem ofExcept_ne_exit (outcome : Except Failure α) (code : Nat) :
    (ofExcept outcome).outcome ≠ .error (.exit code) := by
  intro h
  cases outcome with
  | ok a => cases h
  | error e => cases h

theorem ofRun_ne_exit (threshold : Nat) (r : Run α) (code : Nat) :
    (ofRun threshold r).outcome ≠ .error (.exit code) :=
  ofExcept_ne_exit r.outcome code

def failure? (r : Session α) : Option Failure :=
  match r.outcome with
  | .error (.failed e) => some e
  | _ => none

end Session
end EnclaveFleet.Console
