import TuningTasks.Scenario.Script

/-!
The scripted collaborators at work. They keep their own state beside the shared one: what they noted
so far, the settings of each pipeline with a count of its cache clears, and whether the time limit of
the innermost background batch has run out.
-/
namespace TuningTasks.Scenario

inductive Answer
  | null
  | bool (value : Bool)
  | count (value : Nat)
  | text (value : String)
  | config (value : Option String)
  | decision (value : Decision)
  | outcome (value : RecordOutcome)
  | invocations (value : List Invocation)
  | report (value : Report)
  | tasks (value : List Task)
  | materialized (value : Materialized)
  | failure (value : Failure)
  | panic (value : Panic)
  | all (answers : List Answer)
  /-- The step waits for ever. -/
  | stuck

structure LowerNote where
  thread : Option String
  inPass : Bool
  tracing : Bool
  config : PassConfig
  pair : TargetPair
  params : String

inductive Note
  | text (value : String)
  | lower (value : LowerNote)
  | construct (operator : String) (template : Option String) (target : String)
  | state (inPass tracing : Bool)
  | answer (value : Answer)

structure PipelineState where
  hasFallback : Bool := true
  /-- The numbers of the cache clears that panic, counted from one. -/
  panicsOn : List Nat := []
  clears : Nat := 0

structure Bench where
  notes : List Note := []
  pipelines : String → PipelineState := fun _ => {}
  elapsed : Bool := false

namespace Bench

def note (bench : Bench) (note : Note) : Bench := { bench with notes := bench.notes ++ [note] }

def setPipeline (bench : Bench) (name : String) (state : PipelineState) : Bench :=
  { bench with
    pipelines := fun other => if other = name then state else bench.pipelines other }

def countClear (bench : Bench) (name : String) : Bench :=
  let state := bench.pipelines name
  bench.setPipeline name { state with clears := state.clears + 1 }

end Bench

abbrev Act := Routine Bench

def change (f : Bench → Bench) : Act Bench := .perform (.client f)

def note (note : Note) : Act Unit := do let _ ← change (·.note note)

def answering (act : Act Answer) : Act Answer := do
  match ← Routine.catchFailure act with
  | .ok answer => return answer
  | .error failure => return .failure failure

def onHelper (helper : Bool) (act : Act Answer) : Act Answer :=
  if helper then .onThread {} act else act

def LedgerOp.act (ledger : String) : LedgerOp → Act Answer
  | reset filter => do
      .failing (.resetLedger ledger (← Routine.ofExcept filter))
      return .null
  | record invocation => return .outcome (← Routine.attempt (.record ledger invocation))
  | onDispatch invocation =>
      return .decision (← Routine.attempt (.consult (.ledger ledger) invocation))
  | drain => return .invocations (← Routine.drain ledger)
  | size => return .count (← Routine.size ledger)
  | isEmpty => return .bool (← Routine.isEmpty ledger)
  | accepts operator => return .bool (← Routine.accepts ledger operator)

def CacheOp.act (cache : String) : CacheOp → Act Answer
  | warnOnce message => return .bool (← Routine.panicking (.perform (.warnOnce cache message)))
  | remember target workload config => do
      let _ ← Routine.perform (.updateCache cache (·.remember target workload config))
      return .null
  | lookup target workload =>
      return .config ((← Routine.perform (.updateCache cache id)).lookup? target workload)
  | warningCount => return .count (← Routine.perform (.updateCache cache id)).warned.length
  | configCount => return .count (← Routine.perform (.updateCache cache id)).configs.length
  | clear => do
      let _ ← Routine.perform (.updateCache cache fun _ => {})
      return .null

def HookScript.hook : HookScript → Hook Bench
  | ledger name => .ledger name
  | always answer => .custom fun _ bench => (answer.mapError .failure, bench)

def stateNote : Act Note := do
  return .state (← Routine.perform .thread).inPass (← Routine.perform .isTracing)

/-! ### Factories and resolvers -/

def Rule.applies (rule : Rule) (request : TaskRequest) : Bool :=
  rule.operator.all (· = request.operator) &&
    rule.dimAtMost.all fun bound =>
      request.signature.shapes.any fun shape => shape.any fun dim => dim.toInt ≤ bound

def Verdict.act (request : TaskRequest) : Verdict → Act Task
  | build => return Task.ofRequest request
  | panic text => .panic ⟨some text⟩
  | failure cause => .fail cause
  | invalidShape message => .fail (.invalidShape request.operator message)

def FactoryScript.factory : FactoryScript → Factory Bench
  | passthrough => .passthrough
  | rules inOrder => fun request => do
      note (.construct request.operator request.template request.target.display)
      match inOrder.find? (·.applies request) with
      | none => return Task.ofRequest request
      | some rule => rule.verdict.act request

def ResolverScript.resolver : ResolverScript → Resolver Bench
  | canonical => .canonical
  | failing failure => fun _ _ => .fail failure
  | answering pair => fun _ _ => return pair

/-! ### Pipelines -/

def clearFunctions (name : String) : Act Unit := do
  let inPass := (← Routine.perform .thread).inPass
  note (.text (if inPass then "clear:pass" else "clear:driver"))
  let before := (← change (·.countClear name)).pipelines name
  let number := before.clears + 1
  if before.panicsOn.contains number then
    .panic ⟨some ("cache clear " ++ toString number ++ " crashed")⟩

def clearFallback (name : String) : Act Unit := do
  note (.text "clear_warnings")
  let _ ← Routine.perform (.updateCache name fun _ => {})

/-- A program that has been given its meaning: what lowering it does on a pipeline of a name. -/
abbrev Meaning := String → Act Unit

def lower (name : String) (program : Meaning) (pair : TargetPair) (params : String)
    (config : PassConfig) : Act Unit := do
  let thread ← Routine.perform .thread
  let tracing ← Routine.perform .isTracing
  note (.lower ⟨thread.name, thread.inPass, tracing, config, pair, params⟩)
  program name

def onlyPanics (act : Act Unit) : Code Bench (Except Panic Unit) := do
  match ← act.run with
  | .error (.panic panic) => return .error panic
  | _ => return .ok ()

def scripted (name : String) (hasFallback : Bool) : Pipeline Bench Meaning String where
  lower := lower name
  clearFunctions := onlyPanics (clearFunctions name)
  clearFallback := if hasFallback then some (onlyPanics (clearFallback name)) else none

def hasFallback (name : String) : Act Bool := do
  return ((← change id).pipelines name).hasFallback

def noParams : String := "null"

/-- Runs the body under a time limit of its own, which has not run out when it starts; on every way
out the limit around it is as it was. -/
def limited {α : Type} (body : Act α) : Act α := do
  let around ← change fun bench => { bench with elapsed := false }
  let ended ← ExceptT.lift body.run
  let _ ← change fun bench => { bench with elapsed := around.elapsed }
  ExceptT.mk (pure ended)

/-- All background tasks of a scenario share one number. -/
def backgroundTask : Nat := 0

def Call.report (call : Call) (programs : List Meaning) (params : List String) : Act Report := do
  let extractor : Extractor Bench Meaning String := {
    pipeline := scripted call.pipeline (← hasFallback call.pipeline)
    factory := call.factory.factory
    resolver := call.resolver.resolver
    ledger := call.ledger
    settings := call.settings }
  if call.mode = .awaitedReport ∨ call.mode = .awaitedTasks then
    limited (extractor.reportAwaited backgroundTask programs params call.filter call.target
      call.host call.limit do return (← Code.perform (.client id)).elapsed)
  else extractor.report programs params call.filter call.target call.host

def Call.act (call : Call) (programs : List Meaning) : Act Answer := do
  let params := call.params.getD (programs.map fun _ => noParams)
  match call.mode with
  | .report | .awaitedReport => return .report (← call.report programs params)
  | .tasks | .awaitedTasks => return .tasks (← call.report programs params).tasks
  | .single =>
      return .tasks (← call.report (programs.take 1) [params.head?.getD noParams]).tasks

/-! ### Programs -/

mutual
def Instruction.act : Instruction → Meaning
  | dispatch invocation helper ignoreFailure, _ => do
      let dispatched : Act Answer := return .decision (← Routine.dispatch invocation)
      let answer ← onHelper helper (if ignoreFailure then answering dispatched else dispatched)
      note (.answer answer)
  | warnUnlessTraced invocation, pipeline => do
      match ← Routine.dispatch invocation with
      | .traced => note (.text "traced")
      | .passThrough =>
          let warned ← CacheOp.act pipeline
            (.warnOnce ("no tuned schedule for " ++ invocation.operator))
          note (.answer warned)
  | fail cause, _ => .fail cause
  | panic payload, _ => .panic payload
  | log message, _ => .emit (.note message)
  | block, _ => do
      let _ ← change fun bench => { bench with elapsed := true }
      note (.text "unblocked")
  | tryEnter name, _ => do
      let entered : Act Answer :=
        Routine.intercepting (.ledger name) (return .text "entered")
      note (.answer (← answering entered))
  | state helper, _ => do
      note (← if helper then Routine.onThread {} stateNote else stateNote)
  | ledger name op helper, _ => do note (.answer (← onHelper helper (answering (op.act name))))
  | cache op, pipeline => do note (.answer (← op.act pipeline))
  | nested call programs, _ => do
      let answer ← answering do (← Routine.ofExcept call).act (Instruction.meanings programs)
      note (.answer answer)

def Instruction.run : List Instruction → Meaning
  | [], _ => return
  | instruction :: rest, pipeline => do
      instruction.act pipeline
      Instruction.run rest pipeline

def Instruction.meanings : List (List Instruction) → List Meaning
  | [] => []
  | program :: rest => Instruction.run program :: Instruction.meanings rest
end

end TuningTasks.Scenario
