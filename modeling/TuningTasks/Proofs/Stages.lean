import TuningTasks.Batch.Report
import TuningTasks.Proofs.Execution

/-!
The stages of an extraction: its refusals, the resolved target, tracing under the session lock, and
what is concluded from the invocations found. Each stage has one lemma that says how it runs.
-/
namespace TuningTasks

universe u v
variable {σ : Type} {Program : Type u} {Params : Type v}

namespace Pipeline

/-- What is left of a pass once an auxiliary lowering has been announced. -/
def lowering (pipeline : Pipeline σ Program Params) (pair : TargetPair) (program : Program)
    (params : Params) : Routine σ Unit := do
  let lowered ← Routine.catchFailure
    (pipeline.lower program pair params (PassConfig.ofTarget pair.target))
  .panicking pipeline.clearFunctions
  match lowered with
  | .ok () => return
  | .error failure => .fail failure.wrapped

def further (pipeline : Pipeline σ Program Params) (settings : Settings) (pair : TargetPair)
    (index : Nat) (rest : List (Program × Params)) : Except Failure Unit → Routine σ Unit
  | .ok () => pipeline.passes settings pair (index + 1) rest
  | .error failure => .fail (failure.atProgram index)

end Pipeline

namespace Extractor

def concluded (extractor : Extractor σ Program Params) (programs : Nat) (pair : TargetPair)
    (invocations : List Invocation) : Routine σ Report := do
  let made ← extractor.factory.materialize extractor.settings pair.target invocations
  .emit (.extracted pair.target programs invocations.length made.tasks.length made.skipped.length)
  return {
    tasks := made.tasks
    skipped := made.skipped
    programs := programs
    invocations := invocations.length }

def tracing (extractor : Extractor σ Program Params) (pair : TargetPair)
    (work : List (Program × Params)) (filter : Option Filter) : Routine σ (List Invocation) := do
  .failing (.resetLedger extractor.ledger filter)
  .intercepting (.ledger extractor.ledger)
    (.quietly extractor.settings.suppressLogs
      (extractor.pipeline.passes extractor.settings pair 0 work))
  return (← Routine.failing (.readLedger extractor.ledger)).ordered

theorem traced_eq (extractor : Extractor σ Program Params) (pair : TargetPair)
    (work : List (Program × Params)) (filter : Option Filter) :
    extractor.traced pair work filter = .exclusively (extractor.tracing pair work filter) := rfl

def resolved (extractor : Extractor σ Program Params) (programs : List Program)
    (params : List Params) (filter : Option Filter) (pair : TargetPair) : Routine σ Report := do
  let invocations ← extractor.traced pair (programs.zip params) filter
  extractor.concluded programs.length pair invocations

variable (extractor : Extractor σ Program Params) (programs : List Program)
  (params : List Params) (filter : Option Filter) (target : Target) (host : Option Target)

theorem report_eq : extractor.report programs params filter target host =
    if programs.length ≠ params.length then
      .fail (.unpaired programs.length params.length)
    else Routine.perform .thread >>= fun thread =>
      if thread.inPass then .fail .insidePass
      else extractor.resolver target host >>= extractor.resolved programs params filter := by
  simp only [report]
  split
  · rfl
  · rfl

theorem exec_report_unpaired (differ : programs.length ≠ params.length) (t : Thread)
    (world : World σ) :
    (extractor.report programs params filter target host).run.exec t world =
      some (.error (.failure (.unpaired programs.length params.length)), t, world) := by
  rw [report_eq, if_pos differ]
  rfl

theorem exec_report_inside (paired : programs.length = params.length) {t : Thread}
    (inside : t.inPass = true) (world : World σ) :
    (extractor.report programs params filter target host).run.exec t world =
      some (.error (.failure .insidePass), t, world) := by
  rw [report_eq, if_neg (not_not_intro paired), Routine.exec_bind, Routine.exec_perform _ rfl]
  simp only [Action.perform, Option.bind_some, Routine.onward, inside, ↓reduceIte,
    Routine.exec_fail]

theorem exec_report (paired : programs.length = params.length) {t : Thread}
    (outside : t.inPass = false) (world : World σ) :
    (extractor.report programs params filter target host).run.exec t world =
      ((extractor.resolver target host).run.exec t world).bind
        (Routine.onward (extractor.resolved programs params filter)) := by
  rw [report_eq, if_neg (not_not_intro paired), Routine.exec_bind, Routine.exec_perform _ rfl]
  simp only [Action.perform, Option.bind_some, Routine.onward, outside, Bool.false_eq_true,
    ↓reduceIte, Routine.exec_bind]

end Extractor

structure Batch (σ : Type) where
  {Program Params : Type u}
  extractor : Extractor σ Program Params
  programs : List Program
  params : List Params
  filter : Option Filter
  target : Target
  host : Option Target

def Batch.report (batch : Batch σ) : Routine σ Report :=
  batch.extractor.report batch.programs batch.params batch.filter batch.target batch.host

def Batch.resolving (batch : Batch σ) : Routine σ TargetPair :=
  batch.extractor.resolver batch.target batch.host

theorem Batch.exec_report (batch : Batch σ) (paired : batch.programs.length = batch.params.length)
    {t : Thread} (outside : t.inPass = false) (world : World σ) :
    batch.report.run.exec t world = (batch.resolving.run.exec t world).bind
      (Routine.onward (batch.extractor.resolved batch.programs batch.params batch.filter)) :=
  batch.extractor.exec_report _ _ _ _ _ paired outside world

def Batch.passes (batch : Batch σ) (pair : TargetPair) : Routine σ Unit :=
  batch.extractor.pipeline.passes batch.extractor.settings pair 0 (batch.programs.zip batch.params)

/-- Lowers a program, which is a list of invocations, by dispatching them in turn. -/
def Pipeline.replay : Pipeline σ (List Invocation) Unit where
  lower program _ _ _ := program.forM fun invocation => discard (Routine.dispatch invocation)
  clearFunctions := .ret (.ok ())
  clearFallback := none

def Batch.replay (ledger : String) (programs : List (List Invocation)) (filter : Option Filter) :
    Batch.{0} σ where
  extractor := { pipeline := .replay, ledger }
  programs := programs
  params := programs.map fun _ => ()
  filter := filter
  target := default
  host := none

end TuningTasks
