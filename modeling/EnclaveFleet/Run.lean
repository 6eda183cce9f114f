import EnclaveFleet.Failure

/-!
# Runs

What a program does beside its answer is part of the answer: a run carries the log it wrote and
the calls it made, in order, up to its end.

* `Level`, `Origin`, `LogRecord`: the log
* `Run`: how it ended, what it logged, what it called
* `Run.bind_eq_ok_iff`: what ended well had parts that ended well
* `Run.calls_bind`: a second run adds to the first one
-/
namespace EnclaveFleet
set_option autoImplicit false

inductive Level where
  | debug
  | info
  | warning
  | error
deriving DecidableEq

def Level.name : Level → String
  | .debug => "DEBUG"
  | .info => "INFO"
  | .warning => "WARNING"
  | .error => "ERROR"

/-- Records of a higher severity are shown where those of a lower one are not. -/
def Level.severity : Level → Nat
  | .debug => 10
  | .info => 20
  | .warning => 30
  | .error => 40

/-- The part of the program that writes a record. -/
inductive Origin where
  | app
  | stack
  | userData
  | preflight
deriving DecidableEq

def Origin.name : Origin → String
  | .app => "tee_fleet.app"
  | .stack => "tee_fleet.stack"
  | .userData => "tee_fleet.user_data"
  | .preflight => "tee_fleet.preflight"

structure LogRecord where
  origin : Origin
  level : Level
  message : String
deriving DecidableEq

/-- The record as it is shown. -/
def LogRecord.line (r : LogRecord) (time : String) : String :=
  s!"{time} {r.level.name} {r.origin.name}: {r.message}"

structure Run (α : Type) where
  outcome : Except Failure α
  logs : List LogRecord
  calls : List Call

namespace Run

variable {α β : Type}

def pure (a : α) : Run α := ⟨.ok a, [], []⟩

def fail (e : Failure) : Run α := ⟨.error e, [], []⟩

def ofExcept (outcome : Except Failure α) : Run α := ⟨outcome, [], []⟩

def bind (r : Run α) (f : α → Run β) : Run β :=
  match r.outcome with
  | .error e => ⟨.error e, r.logs, r.calls⟩
  | .ok a => ⟨(f a).outcome, r.logs ++ (f a).logs, r.calls ++ (f a).calls⟩

instance : Monad Run where
  pure := Run.pure
  bind := Run.bind

def log (origin : Origin) (level : Level) (message : String) : Run Unit :=
  ⟨.ok (), [⟨origin, level, message⟩], []⟩

/-- A call and what came of it. -/
def call (c : Call) (outcome : Except Failure α) : Run α :=
  ⟨outcome, [], [c]⟩

/-- Goes on from a failure, with all that was logged and called. -/
def orElse (r : Run α) (handle : Failure → Run α) : Run α :=
  match r.outcome with
  | .ok _ => r
  | .error e => ⟨(handle e).outcome, r.logs ++ (handle e).logs, r.calls ++ (handle e).calls⟩

theorem pure_bind (a : α) (f : α → Run β) : (pure a).bind f = f a := by
  simp [pure, bind]

theorem fail_bind (e : Failure) (f : α → Run β) : (fail e : Run α).bind f = fail e := by
  simp [fail, bind]

theorem outcome_bind (r : Run α) (f : α → Run β) :
    (r.bind f).outcome = r.outcome.bind fun a => (f a).outcome := by
  unfold bind
  cases r.outcome <;> rfl

theorem bind_eq_ok_iff {r : Run α} {f : α → Run β} {b : β} :
    (r.bind f).outcome = .ok b ↔ ∃ a, r.outcome = .ok a ∧ (f a).outcome = .ok b := by
  rw [outcome_bind]
  cases r.outcome with
  | error e => exact iff_of_false nofun nofun
  | ok a =>
    constructor
    · intro h
      exact ⟨a, rfl, h⟩
    · rintro ⟨_, ha, h⟩
      cases ha
      exact h

theorem exists_of_bind_ok {r : Run α} {f : α → Run β} {b : β} (h : (r >>= f).outcome = .ok b) :
    ∃ a, r.outcome = .ok a ∧ (f a).outcome = .ok b :=
  bind_eq_ok_iff.mp h

theorem calls_bind (r : Run α) (f : α → Run β) (a : α) (h : r.outcome = .ok a) :
    (r.bind f).calls = r.calls ++ (f a).calls := by
  simp [bind, h]

theorem calls_bind_of_nil (r : Run α) {f : α → Run β} (h : ∀ a, (f a).calls = []) :
    (r.bind f).calls = r.calls := by
  cases ha : r.outcome with
  | error e => rw [bind, ha]
  | ok a => rw [calls_bind r f a ha, h a, List.append_nil]

end Run
end EnclaveFleet
