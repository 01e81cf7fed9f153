import TuningTasks.Names.Table
import TuningTasks.Target.Basic

/-!
The pass configuration of one lowering call, which depends on the target's device alone.
-/
namespace TuningTasks

structure PassConfig where
  optLevel : Option Nat := none
  disabledPasses : NameSet := .empty
  auxiliaryBackend : Option String := none
deriving DecidableEq

namespace PassConfig

def auxiliaryDevice : String := "vta"

def auxiliary : PassConfig :=
  { optLevel := some 3
    disabledPasses := .ofList ["AlterOpLayout"]
    auxiliaryBackend := some auxiliaryDevice }

def ofTarget (target : Target) : PassConfig :=
  if target.device = some auxiliaryDevice then auxiliary else {}

def disables (config : PassConfig) (pass : String) : Bool := config.disabledPasses.contains pass

end PassConfig

end TuningTasks
