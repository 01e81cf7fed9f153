import TuningTasks.Proofs.Outline
import TuningTasks.Proofs.Stages

/-!
What an extraction asks of its collaborators. The drafts below leave the resolver, the pipeline and the
factory open; given an extractor's own they are its routines (`Extractor.draft_report`), so that the
requests of a draft are all that a run of the extraction asks of them.
-/
namespace TuningTasks

universe u v
variable {σ α : Type} {Program : Type u} {Params : Type v}

inductive Request (Program : Type u) (Params : Type v)
  | resolve (target : Target) (host : Option Target)
  | clearFunctions
  | lower (program : Program) (pair : TargetPair) (params : Params) (config : PassConfig)
  | clearFallback
  | construct (request : TaskRequest)

namespace Request

abbrev Reply : Request Program Params → Type
  | resolve .. => TargetPair
  | construct _ => Task
  | _ => Unit

def toPipeline : Request Program Params → Bool
  | clearFunctions | lower .. | clearFallback => true
  | resolve .. | construct _ => false

def toFactory : Request Program Params → Bool
  | construct _ => true
  | _ => false

theorem toFactory_other {request : Request Program Params} (factory : request.toFactory = true) :
    ¬ request.toPipeline = true := by
  cases request with
  | construct _ => exact Bool.false_ne_true
  | _ => cases factory

end Request

namespace Pipeline

def announcing (pair : TargetPair) : Routine σ Unit :=
  match (PassConfig.ofTarget pair.target).auxiliaryBackend with
  | some backend => .emit (.auxiliaryLowering backend)
  | none => pure ()

def verdict : Except Failure Unit → Routine σ Unit
  | .ok () => return
  | .error failure => .fail failure.wrapped

variable (pipeline : Pipeline σ Program Params)

def forgetting : Routine σ Unit :=
  match pipeline.clearFallback with
  | some clear => .panicking clear
  | none => pure ()

theorem pass_eq (pair : TargetPair) (program : Program) (params : Params) :
    pipeline.pass pair program params = (do
      .panicking pipeline.clearFunctions
      announcing pair
      pipeline.lowering pair program params) := by
  rw [pass]
  congr 1
  funext _
  cases backend : (PassConfig.ofTarget pair.target).auxiliaryBackend with
  | none => simp only [announcing, backend, pure_bind]; rfl
  | some name => simp only [announcing, backend]; rfl

theorem passes_cons (settings : Settings) (pair : TargetPair) (index : Nat) (program : Program)
    (params : Params) (rest : List (Program × Params)) :
    pipeline.passes settings pair index ((program, params) :: rest) = (do
      .panicking pipeline.clearFunctions
      let traced ← ExceptT.lift
        (isolated settings index (pipeline.pass pair program params))
      .panicking pipeline.clearFunctions
      pipeline.forgetting
      pipeline.further settings pair index rest traced) := by
  rw [passes]
  congr 1
  funext _
  congr 1
  funext traced
  congr 1
  funext _
  cases fallback : pipeline.clearFallback with
  | none => simp only [forgetting, fallback, pure_bind]; rfl
  | some clear => simp only [forgetting, fallback]; rfl

end Pipeline

def Extractor.reply (extractor : Extractor σ Program Params) :
    (request : Request Program Params) → Routine σ request.Reply
  | .resolve target host => extractor.resolver target host
  | .clearFunctions => .panicking extractor.pipeline.clearFunctions
  | .lower program pair params config => extractor.pipeline.lower program pair params config
  | .clearFallback => extractor.pipeline.forgetting
  | .construct request => extractor.factory request

abbrev Extraction (σ : Type) (Program : Type u) (Params : Type v) :=
  Draft σ (@Request.Reply Program Params)

namespace Extraction

open Draft

def clearFunctions : Extraction σ Program Params Unit := ask Request.clearFunctions

def lower (program : Program) (pair : TargetPair) (params : Params) :
    Extraction σ Program Params Unit :=
  ask (Request.lower program pair params (PassConfig.ofTarget pair.target))

def quietly (mute : Bool) (body : Extraction σ Program Params α) : Extraction σ Program Params α :=
  if mute then around (.perform .mute) (fun found => .perform (.unmute found)) body else body

def lowering (pair : TargetPair) (program : Program) (params : Params) :
    Extraction σ Program Params Unit := do
  let lowered ← catchFailure (lower program pair params)
  clearFunctions
  own (Pipeline.verdict lowered)

def pass (pair : TargetPair) (program : Program) (params : Params) :
    Extraction σ Program Params Unit := do
  clearFunctions
  own (Pipeline.announcing pair)
  lowering pair program params

/-- What the driving thread makes of the end of a pass that it waited for. -/
def joined (index : Nat) : Except Exit Unit → Except Failure Unit
  | .ok () => .ok ()
  | .error (.failure failure) => .error failure
  | .error (.panic panic) => .error (.passPanicked index panic)

def isolated (settings : Settings) (index : Nat) (body : Extraction σ Program Params Unit) :
    Outline σ (@Request.Reply Program Params) (Except Failure Unit) :=
  .act (.spawn settings.stackSize) fun
    | .error reason => .ret (.error (.threadRefused index reason))
    | .ok () =>
        .fork (settings.passThread index) (quietly settings.suppressLogs body).run fun ended =>
          .ret (joined index ended)

/-- `forgets` tells whether the pipeline has a fallback state. -/
def forgetting (forgets : Bool) : Extraction σ Program Params Unit :=
  if forgets then ask Request.clearFallback else pure ()

def reset (forgets : Bool) : Extraction σ Program Params Unit := do
  clearFunctions
  forgetting forgets

def passes (forgets : Bool) (settings : Settings) (pair : TargetPair) :
    (index : Nat) → List (Program × Params) → Extraction σ Program Params Unit
  | _, [] => return
  | index, (program, params) :: rest => do
      clearFunctions
      let traced ← lift (isolated settings index (pass pair program params))
      reset forgets
      match traced with
      | .ok () => passes forgets settings pair (index + 1) rest
      | .error failure => own (.fail (failure.atProgram index))

def materialize (settings : Settings) (target : Target) :
    List Invocation → Extraction σ Program Params Materialized
  | [] => return {}
  | invocation :: rest => do
      match ← catchFailure (ask (Request.construct (invocation.request settings target))) with
      | .ok task =>
          let later ← materialize settings target rest
          return { later with tasks := task :: later.tasks }
      | .error failure =>
          if failure.isRecoverable then
            own (.emit (.skipped invocation failure.message))
            let later ← materialize settings target rest
            return { later with skipped := ⟨invocation, failure.message⟩ :: later.skipped }
          else own (.fail (failure.atOperator invocation.operator))

def tracing (ledger : String) (settings : Settings) (forgets : Bool) (pair : TargetPair)
    (work : List (Program × Params)) (filter : Option Filter) :
    Extraction σ Program Params (List Invocation) := do
  own (.failing (.resetLedger ledger filter))
  around (.attempt (.install (.ledger ledger))) (fun _ => .panicking (.perform .uninstall))
    (quietly settings.suppressLogs (passes forgets settings pair 0 work))
  own do return (← Routine.failing (.readLedger ledger)).ordered

def traced (ledger : String) (settings : Settings) (forgets : Bool) (pair : TargetPair)
    (work : List (Program × Params)) (filter : Option Filter) :
    Extraction σ Program Params (List Invocation) :=
  around (.perform .lockSession) (fun _ => .perform .unlockSession)
    (tracing ledger settings forgets pair work filter)

def concluded (settings : Settings) (programs : Nat) (pair : TargetPair)
    (invocations : List Invocation) : Extraction σ Program Params Report := do
  let made ← materialize settings pair.target invocations
  own (.emit (.extracted pair.target programs invocations.length made.tasks.length
    made.skipped.length))
  return {
    tasks := made.tasks
    skipped := made.skipped
    programs := programs
    invocations := invocations.length }

def report (ledger : String) (settings : Settings) (forgets : Bool) (programs : List Program)
    (params : List Params) (filter : Option Filter) (target : Target) (host : Option Target) :
    Extraction σ Program Params Report :=
  if programs.length ≠ params.length then own (.fail (.unpaired programs.length params.length))
  else do
    let thread ← own (.perform .thread)
    if thread.inPass then own (.fail .insidePass)
    else
      let pair ← ask (Request.resolve target host)
      let invocations ← traced ledger settings forgets pair (programs.zip params) filter
      concluded settings programs.length pair invocations

variable (extractor : Extractor σ Program Params)

theorem routine_quietly (mute : Bool) (body : Extraction σ Program Params α) :
    (quietly mute body).routine extractor.reply =
      .quietly mute (body.routine extractor.reply) := by
  cases mute with
  | false => rfl
  | true => exact routine_around extractor.reply _ _ body

theorem routine_clearFunctions :
    (clearFunctions : Extraction σ Program Params Unit).routine extractor.reply =
      .panicking extractor.pipeline.clearFunctions :=
  routine_ask extractor.reply Request.clearFunctions

theorem routine_lower (program : Program) (pair : TargetPair) (params : Params) :
    (lower program pair params).routine extractor.reply =
      extractor.pipeline.lower program pair params (PassConfig.ofTarget pair.target) :=
  routine_ask extractor.reply (Request.lower program pair params _)

theorem routine_forgetting :
    (forgetting extractor.pipeline.clearFallback.isSome).routine extractor.reply =
      extractor.pipeline.forgetting := by
  cases fallback : extractor.pipeline.clearFallback with
  | none =>
      simp only [Pipeline.forgetting, fallback]
      rfl
  | some clear => exact routine_ask extractor.reply Request.clearFallback

theorem routine_lowering (pair : TargetPair) (program : Program) (params : Params) :
    (lowering pair program params).routine extractor.reply =
      extractor.pipeline.lowering pair program params := by
  rw [Pipeline.lowering, lowering]
  simp only [routine_bind, routine_clearFunctions, routine_own, routine_catchFailure, routine_lower]
  rfl

theorem routine_reset :
    (reset extractor.pipeline.clearFallback.isSome).routine extractor.reply = (do
      .panicking extractor.pipeline.clearFunctions
      extractor.pipeline.forgetting) := by
  rw [reset, routine_bind, routine_clearFunctions, routine_forgetting]

theorem routine_pass (pair : TargetPair) (program : Program) (params : Params) :
    (pass pair program params).routine extractor.reply =
      extractor.pipeline.pass pair program params := by
  rw [Pipeline.pass_eq, pass]
  simp only [routine_bind, routine_clearFunctions, routine_own, routine_lowering]

theorem answered_isolated (settings : Settings) (index : Nat)
    (body : Extraction σ Program Params Unit) :
    (isolated settings index body).answered extractor.reply =
      TuningTasks.isolated settings index (body.routine extractor.reply) := by
  have quiet := routine_quietly extractor settings.suppressLogs body
  change Code.act _ _ = Code.act _ _
  congr 1
  funext answer
  cases answer with
  | error reason => rfl
  | ok spawned =>
      change Code.fork _ _ _ = Code.fork _ _ _
      congr 1
      funext ended
      rcases ended with (failure | panic) | value
      all_goals rfl

theorem routine_passes (pair : TargetPair) (index : Nat) (work : List (Program × Params)) :
    (passes extractor.pipeline.clearFallback.isSome extractor.settings pair index work).routine
        extractor.reply =
      extractor.pipeline.passes extractor.settings pair index work := by
  induction work generalizing index with
  | nil => rfl
  | cons item rest ih =>
      obtain ⟨program, params⟩ := item
      rw [Pipeline.passes_cons, passes]
      simp only [routine_bind, routine_clearFunctions, routine_lift, answered_isolated, routine_pass,
        routine_reset, bind_assoc]
      congr 1
      funext _
      congr 1
      funext traced
      congr 1
      funext _
      congr 1
      funext _
      cases traced with
      | ok done => exact ih (index + 1)
      | error failure => rfl

theorem routine_materialize (settings : Settings) (target : Target) (calls : List Invocation) :
    (materialize settings target calls : Extraction σ Program Params Materialized).routine
        extractor.reply =
      extractor.factory.materialize settings target calls := by
  induction calls with
  | nil => rfl
  | cons call rest ih =>
      have asking : (ask (Request.construct (call.request settings target)) :
          Extraction σ Program Params Task).routine extractor.reply =
            extractor.factory (call.request settings target) :=
        routine_ask extractor.reply _
      rw [materialize, Factory.materialize, routine_bind, routine_catchFailure, asking]
      congr 1
      funext built
      cases built with
      | ok task =>
          simp only [routine_bind, ih]
          rfl
      | error failure =>
          simp only
          split
          · simp only [routine_bind, routine_own, ih]
            rfl
          · rfl

theorem routine_concluded (programs : Nat) (pair : TargetPair) (calls : List Invocation) :
    (concluded extractor.settings programs pair calls : Extraction σ Program Params Report).routine
        extractor.reply = extractor.concluded programs pair calls := by
  simp only [concluded, Extractor.concluded, routine_bind, routine_materialize, routine_own]
  rfl

theorem routine_traced (pair : TargetPair) (work : List (Program × Params))
    (filter : Option Filter) :
    (traced extractor.ledger extractor.settings extractor.pipeline.clearFallback.isSome pair work
        filter).routine extractor.reply =
      extractor.traced pair work filter := by
  have within : (around (.attempt (.install (.ledger extractor.ledger)))
      (fun _ => .panicking (.perform .uninstall)) (quietly extractor.settings.suppressLogs
        (passes extractor.pipeline.clearFallback.isSome extractor.settings pair 0 work))).routine
          extractor.reply = Routine.intercepting (.ledger extractor.ledger)
            (.quietly extractor.settings.suppressLogs
              (extractor.pipeline.passes extractor.settings pair 0 work)) := by
    rw [routine_around, routine_quietly, routine_passes]
    rfl
  have inside : (tracing extractor.ledger extractor.settings
      extractor.pipeline.clearFallback.isSome pair work filter).routine extractor.reply =
        extractor.tracing pair work filter := by
    simp only [tracing, routine_bind, routine_own, within]
    rfl
  rw [traced, routine_around, inside]
  rfl

theorem routine_report (programs : List Program) (params : List Params) (filter : Option Filter)
    (target : Target) (host : Option Target) :
    (report extractor.ledger extractor.settings extractor.pipeline.clearFallback.isSome programs
        params filter target host).routine extractor.reply =
      extractor.report programs params filter target host := by
  have resolving : (ask (Request.resolve target host) :
      Extraction σ Program Params TargetPair).routine extractor.reply =
        extractor.resolver target host :=
    routine_ask extractor.reply _
  rw [Extractor.report_eq, report]
  split
  · rfl
  · rw [routine_bind, routine_own]
    congr 1
    funext thread
    split
    · rfl
    · simp only [routine_bind, resolving, routine_traced, routine_concluded]
      rfl

end Extraction

end TuningTasks
