import TuningTasks.Argument
import TuningTasks.Target.Text

/-!
Log events. Each cause has a level, a message and named fields; a note is a message that a pipeline
or a caller logs on its own account.
-/
namespace TuningTasks

inductive Level
  | debug
  | info
  | warn
deriving DecidableEq, Repr

inductive FieldValue
  | text (value : String)
  | count (value : Nat)
deriving DecidableEq, Repr

inductive Event
  | scopeEntered
  | scopeExited
  | recorded (invocation : Invocation)
  | auxiliaryLowering (backend : String)
  | fallback (warning : String)
  | skipped (invocation : Invocation) (reason : String)
  | extracted (target : Target) (programs invocations tasks skips : Nat)
  | note (message : String)
deriving DecidableEq

namespace Event

def level : Event → Level
  | scopeEntered | scopeExited | recorded _ | auxiliaryLowering _ => .debug
  | extracted .. => .info
  | fallback _ | skipped .. | note _ => .warn

def message : Event → String
  | scopeEntered => "interception scope entered"
  | scopeExited => "interception scope exited"
  | recorded _ => "recorded tunable invocation"
  | auxiliaryLowering _ => "lowering with auxiliary backend configuration"
  | fallback _ => "using fallback schedule"
  | skipped .. => "invalid shape during task creation; skipping invocation"
  | extracted .. => "extracted tuning tasks"
  | note message => message

def fields : Event → List (String × FieldValue)
  | recorded invocation =>
      [("operator", .text invocation.operator), ("signature", .text invocation.signature.display)]
  | auxiliaryLowering backend => [("backend", .text backend)]
  | fallback warning => [("warning", .text warning)]
  | skipped invocation reason =>
      [("operator", .text invocation.operator), ("signature", .text invocation.signature.display),
        ("reason", .text reason)]
  | extracted target programs invocations tasks skips =>
      [("compile_target", .text target.display), ("programs", .count programs),
        ("invocations", .count invocations), ("tasks", .count tasks), ("skipped", .count skips)]
  | scopeEntered | scopeExited | note _ => []

end Event

end TuningTasks
