import TuningTasks.Batch.Pass
import TuningTasks.Batch.Tasks

/-!
Extraction of a batch: the programs are lowered with a ledger as the dispatch hook, one session at a
time, and tasks are built from the distinct invocations that the ledger then holds.
-/
namespace TuningTasks

universe u v
variable {σ : Type} {Program : Type u} {Params : Type v}

structure Report where
  tasks : List Task
  skipped : List Skip
  programs : Nat
  invocations : Nat
deriving DecidableEq, Inhabited

namespace Failure

def unpaired (programs params : Nat) : Failure :=
  { kind := .invalidInput
    message :=
      "got " ++ toString programs ++ " programs but " ++ toString params ++ " parameter sets" }

def insidePass : Failure :=
  { kind := .alreadyTracing
    message := "task extraction started from inside a traced lowering pass" }

end Failure

structure Extractor (σ : Type) (Program : Type u) (Params : Type v) where
  pipeline : Pipeline σ Program Params
  factory : Factory σ := Factory.passthrough
  resolver : Resolver σ := Resolver.canonical
  /-- The ledger of the whole process unless another one is named. -/
  ledger : String := "global"
  settings : Settings := {}

namespace Extractor

def traced (extractor : Extractor σ Program Params) (pair : TargetPair)
    (work : List (Program × Params)) (filter : Option Filter) : Routine σ (List Invocation) :=
  .exclusively do
    .failing (.resetLedger extractor.ledger filter)
    .intercepting (.ledger extractor.ledger)
      (.quietly extractor.settings.suppressLogs
        (extractor.pipeline.passes extractor.settings pair 0 work))
    return (← Routine.failing (.readLedger extractor.ledger)).ordered

/-- Every refusal but that of an active scope comes before anything is changed. -/
def report (extractor : Extractor σ Program Params) (programs : List Program)
    (params : List Params) (filter : Option Filter) (target : Target) (host : Option Target) :
    Routine σ Report := do
  if programs.length ≠ params.length then
    .fail (.unpaired programs.length params.length)
  if (← Routine.perform .thread).inPass then
    .fail .insidePass
  let pair ← extractor.resolver target host
  let invocations ← extractor.traced pair (programs.zip params) filter
  let made ← extractor.factory.materialize extractor.settings pair.target invocations
  .emit (.extracted pair.target programs.length invocations.length made.tasks.length
    made.skipped.length)
  return {
    tasks := made.tasks
    skipped := made.skipped
    programs := programs.length
    invocations := invocations.length }

def tasks (extractor : Extractor σ Program Params) (programs : List Program)
    (params : List Params) (filter : Option Filter) (target : Target) (host : Option Target) :
    Routine σ (List Task) := do
  return (← extractor.report programs params filter target host).tasks

end Extractor

end TuningTasks
