import TuningTasks.Argument
import TuningTasks.Target.Basic

/-!
Tuning tasks and the requests they are made from.
-/
namespace TuningTasks

structure TaskRequest where
  operator : String
  signature : Signature
  target : Target
  template : Option String
deriving DecidableEq, Inhabited

structure Task where
  name : String
  args : Signature
  target : Target
  template : Option String
deriving DecidableEq, Inhabited

def Task.ofRequest (request : TaskRequest) : Task :=
  ⟨request.operator, request.signature, request.target, request.template⟩

end TuningTasks
