import TuningTasks.Argument
import TuningTasks.Filter

/-!
The ledger of one tracing session: the distinct invocations submitted since the last reset whose
operator the filter accepts. `seen` answers whether an invocation is known, latest first; `ordered`
lists the same invocations in the order of their first submission.
-/
namespace TuningTasks

inductive RecordOutcome
  | recorded
  | duplicate
  | filtered
deriving DecidableEq, Repr

structure Ledger where
  filter : Option Filter := none
  seen : List Invocation := []
  ordered : List Invocation := []
deriving DecidableEq, Inhabited

namespace Ledger

def reset (filter : Option Filter) : Ledger := { filter }

/-- Without a filter every operator is accepted, with an empty one none is. -/
def accepts (ledger : Ledger) (operator : String) : Bool :=
  ledger.filter.all fun filter => filter.accepts operator

def outcome (ledger : Ledger) (invocation : Invocation) : RecordOutcome :=
  if !ledger.accepts invocation.operator then .filtered
  else if ledger.seen.contains invocation then .duplicate
  else .recorded

def add (ledger : Ledger) (invocation : Invocation) : Ledger :=
  { ledger with
    seen := invocation :: ledger.seen
    ordered := ledger.ordered ++ [invocation] }

def submit (ledger : Ledger) (invocation : Invocation) : Ledger :=
  if ledger.outcome invocation = .recorded then ledger.add invocation else ledger

end Ledger

end TuningTasks
