import TuningTasks.Failure

/-!
How a computation can end other than with a value: with a failure that its caller gets as an answer,
or with a panic that unwinds through its caller.
-/
namespace TuningTasks

/-- A panic carries a text, or a payload that is none. -/
structure Panic where
  text : Option String
deriving DecidableEq, Repr

inductive Exit
  | failure (failure : Failure)
  | panic (panic : Panic)
deriving DecidableEq, Repr

namespace Failure

def ledgerPoisoned : Failure :=
  { kind := .internal, message := "invocation ledger mutex poisoned" }

def hookPoisoned : Failure :=
  { kind := .internal, message := "dispatch hook lock poisoned" }

def scopeActive : Failure :=
  { kind := .alreadyTracing, message := "an interception scope is already active" }

end Failure

end TuningTasks
