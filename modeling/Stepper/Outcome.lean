import Stepper.Text.Basic

/-! What a command answers: the state it leaves, also when it fails, the messages it logged on the way, and
its result. -/

namespace Stepper

inductive Level where
  | debug
  | info
  | warning
  | error
  deriving DecidableEq, Repr

structure LogEntry where
  level : Level
  message : Text
  deriving DecidableEq, Repr

/-- Everything but the messages for debugging. -/
def LogEntry.isNotable (e : LogEntry) : Bool :=
  e.level != .debug

def LogEntry.isShown (verbose : Bool) (e : LogEntry) : Bool :=
  verbose || e.isNotable

structure Outcome (σ ε α : Type) where
  state : σ
  log : List LogEntry
  result : Except ε α

namespace Outcome

def ok {σ ε α : Type} (state : σ) (log : List LogEntry) (a : α) : Outcome σ ε α :=
  ⟨state, log, .ok a⟩

def error {σ ε α : Type} (state : σ) (log : List LogEntry) (e : ε) : Outcome σ ε α :=
  ⟨state, log, .error e⟩

end Outcome

end Stepper
