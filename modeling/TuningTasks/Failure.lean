/-!
Failures that a caller gets as an answer: a kind, a message, and the operator and the program they
concern when these are known.
-/
namespace TuningTasks

inductive FailureKind
  | alreadyTracing
  | loweringFailure
  | invalidShape
  | invalidInput
  | targetResolution
  | constructionFailure
  | timeout
  | internal
deriving DecidableEq, Repr

def FailureKind.name : FailureKind → String
  | .alreadyTracing => "AlreadyTracing"
  | .loweringFailure => "LoweringFailure"
  | .invalidShape => "InvalidShape"
  | .invalidInput => "InvalidInput"
  | .targetResolution => "TargetResolution"
  | .constructionFailure => "ConstructionFailure"
  | .timeout => "Timeout"
  | .internal => "Internal"

structure Failure where
  kind : FailureKind
  message : String
  operator : Option String := none
  program : Option Nat := none
deriving DecidableEq, Repr

namespace Failure

def invalidShape (operator message : String) : Failure :=
  { kind := .invalidShape, message, operator := some operator }

/-- A rejected shape loses one task; every other failure ends the batch. -/
def isRecoverable (failure : Failure) : Bool := failure.kind = .invalidShape

def display (failure : Failure) : String := failure.kind.name ++ ": " ++ failure.message

def atProgram (failure : Failure) (index : Nat) : Failure :=
  { failure with program := failure.program.or (some index) }

def atOperator (failure : Failure) (operator : String) : Failure :=
  { failure with operator := failure.operator.or (some operator) }

end Failure

end TuningTasks
