import TuningTasks.Failure
import TuningTasks.Names.Table
import TuningTasks.Operator

/-!
Sets of operator names that a ledger records. A filter made from graph operators accepts exactly the
operators they lower to.
-/
namespace TuningTasks

structure Filter where
  operators : NameSet
deriving DecidableEq, Inhabited

namespace Filter

def ofList (operators : List String) : Filter := ⟨.ofList operators⟩

def accepts (filter : Filter) (operator : String) : Bool := filter.operators.contains operator

def notTunable (graphOp : String) : Failure :=
  { kind := .invalidInput
    message := "graph operator '" ++ graphOp ++ "' has no tunable implementation"
    operator := some graphOp }

def addGraphOps (filter : Filter) : List String → Except Failure Filter
  | [] => .ok filter
  | graphOp :: rest =>
      match Operator.loweredFrom graphOp with
      | [] => .error (notTunable graphOp)
      | operators => addGraphOps ⟨filter.operators.insertAll (operators.map Operator.name)⟩ rest

def ofGraphOps (graphOps : List String) : Except Failure Filter := addGraphOps ⟨.empty⟩ graphOps

end Filter

end TuningTasks
