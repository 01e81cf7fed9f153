import TuningTasks.Proofs.Tracing

/-!
The order of the calls that a pipeline receives. Each turn of a batch is a clear on the driving thread,
the calls of one pass on a thread of its own, and a reset on the driving thread again. The relations
below say where a turn may be cut short, and with what end.
-/
namespace TuningTasks

universe u v
variable {σ α : Type} {Program : Type u} {Params : Type v}

/-- What keeps a program from being lowered: its thread, or how its pass came to an end. -/
inductive Fault
  | unspawned (reason : String)
  | inside (exit : Exit)

namespace Fault

/-- The failure that a caller gets. A failure of lowering keeps what it already names, and its message
too if it is of that kind. -/
def failure (index : Nat) : Fault → Failure
  | unspawned reason =>
      { kind := .internal
        message := "failed to spawn lowering thread: " ++ reason
        program := some index }
  | inside (.failure cause) =>
      { kind := .loweringFailure
        message :=
          if cause.kind = .loweringFailure then cause.message
          else "lowering failed (" ++ cause.kind.name ++ "): " ++ cause.message
        operator := cause.operator
        program := cause.program.or (some index) }
  | inside (.panic panic) =>
      { kind := .loweringFailure
        message := "lowering thread panicked: " ++ panic.text.getD "unknown panic payload"
        program := some index }

end Fault

namespace Exit

def wrapped : Exit → Exit
  | .failure cause => .failure cause.wrapped
  | .panic cause => .panic cause

def joined (index : Nat) : Exit → Failure
  | .failure cause => cause.atProgram index
  | .panic cause => .passPanicked index cause

theorem joined_wrapped (index : Nat) (exit : Exit) :
    exit.wrapped.joined index = (Fault.inside exit).failure index := by
  cases exit with
  | panic cause => rfl
  | failure cause =>
      rw [wrapped, joined, Failure.wrapped, Fault.failure]
      split
      · rename_i lowering
        rw [← lowering]
        rfl
      · rfl

end Exit

/-- No pass is refused its thread for the name: what comes after the prefix are a dash and digits. -/
theorem Settings.passThread_nameable (settings : Settings) (index : Nat) :
    ∀ name ∈ (settings.passThread index).name, '\x00' ∉ name.toList := by
  intro name named
  cases named
  have digits : '\x00' ∉ Nat.toDigits 10 index := by
    intro member
    have digit := Nat.isDigit_of_mem_toDigits (by decide) Nat.le.refl member
    exact absurd digit (by decide)
  simp [settings.nameable, digits]

def Settings.threadFor (settings : Settings) (caller : Thread) (index : Nat) : Thread :=
  { settings.passThread index with caller := caller.caller }

def Thread.Same (t thread : Thread) : Prop := t = { thread with muted := t.muted }

namespace Asking

variable (asking : Asking σ (@Request.Reply Program Params))

structure From (thread : Thread) (request : Request Program Params) : Prop where
  request : asking.request = request
  thread : asking.thread.Same thread

inductive Halts : Option Panic → Prop
  | never (unanswered : asking.outcome = none) : Halts none
  | panicked {panic : Panic} (panicked : asking.outcome = some (.error (.panic panic))) :
      Halts (some panic)

theorem Halts.outcome {asking : Asking σ (@Request.Reply Program Params)} {stop : Option Panic}
    (halts : asking.Halts stop) : asking.outcome = stop.map fun panic => .error (.panic panic) := by
  cases halts with
  | never unanswered => exact unanswered
  | panicked panicked => exact panicked

inductive Answered : Prop
  | returned (returned : asking.outcome = some (.ok ()))
  | failed {failure : Failure} (failed : asking.outcome = some (.error (.failure failure)))

end Asking

/-- Requests of one thread, one after another up to the first that halts. -/
inductive InOrder (thread : Thread) : List (Request Program Params) →
    List (Asking σ (@Request.Reply Program Params)) → Option (Except Panic Unit) → Prop
  | nil : InOrder thread [] [] (some (.ok ()))
  | halts {request : Request Program Params} {rest : List (Request Program Params)}
      {asking : Asking σ (@Request.Reply Program Params)} {stop : Option Panic}
      (asks : asking.From thread request) (halts : asking.Halts stop) :
      InOrder thread (request :: rest) [asking] (stop.map .error)
  | answered {request : Request Program Params} {rest : List (Request Program Params)}
      {asking : Asking σ (@Request.Reply Program Params)}
      {askings : List (Asking σ (@Request.Reply Program Params))} {ended : Option (Except Panic Unit)}
      (asks : asking.From thread request) (answered : asking.Answered)
      (later : InOrder thread rest askings ended) :
      InOrder thread (request :: rest) (asking :: askings) ended

section Turns

variable (settings : Settings) (forgets : Bool) (caller : Thread) (pair : TargetPair)

/-- What the log's sink panics with when the thread announces the backend of an auxiliary device. -/
def TargetPair.unannounced (pair : TargetPair) (t : Thread) (world : World σ) : Option Panic :=
  if pair.target.device = some PassConfig.auxiliaryDevice then
    world.panicOn t (.auxiliaryLowering PassConfig.auxiliaryDevice)
  else none

def resetRequests : List (Request Program Params) :=
  .clearFunctions :: if forgets then [.clearFallback] else []

/-- The calls of a pass from its lowering on, and how it comes to an end if it does. -/
inductive LowerCalls (thread : Thread) (program : Program) (params : Params) :
    List (Asking σ (@Request.Reply Program Params)) → Option (Except Exit Unit) → Prop
  | halted {calls : List (Asking σ _)} {stop : Option Panic}
      (halts : InOrder thread [.lower program pair params (.ofTarget pair.target), .clearFunctions]
        calls (stop.map .error)) :
      LowerCalls thread program params calls (stop.map fun panic => .error (.panic panic))
  | complete {lower : Asking σ _} {closing : List (Asking σ _)} {ended : Except Exit Unit}
      (answered : InOrder thread
        [.lower program pair params (.ofTarget pair.target), .clearFunctions]
        (lower :: closing) (some (.ok ())))
      (lowered : lower.outcome = some ended) :
      LowerCalls thread program params (lower :: closing) (some ended)

/-- The calls of a pass on its thread. Between the clear and the lowering, the log is told of an
auxiliary device in the world that the clear left. -/
inductive PassCalls (thread : Thread) (program : Program) (params : Params) :
    List (Asking σ (@Request.Reply Program Params)) → Option (Except Exit Unit) → Prop
  | halted {calls : List (Asking σ _)} {stop : Option Panic}
      (halts : InOrder thread [.clearFunctions] calls (stop.map .error)) :
      PassCalls thread program params calls (stop.map fun panic => .error (.panic panic))
  | announcement {clear : Asking σ _} {t : Thread} {world : World σ} {panic : Panic}
      (cleared : InOrder thread [.clearFunctions] [clear] (some (.ok ())))
      (left : clear.ended.map Prod.snd = some (t, world))
      (panics : pair.unannounced t world = some panic) :
      PassCalls thread program params [clear] (some (.error (.panic panic)))
  | lowering {clear : Asking σ _} {t : Thread} {world : World σ} {later : List (Asking σ _)}
      {ended : Option (Except Exit Unit)}
      (cleared : InOrder thread [.clearFunctions] [clear] (some (.ok ())))
      (left : clear.ended.map Prod.snd = some (t, world))
      (announced : pair.unannounced t world = none)
      (lowering : LowerCalls pair thread program params later ended) :
      PassCalls thread program params (clear :: later) ended

/-- The calls of a pass for which a thread is asked in that world. The thread is a fresh one. -/
inductive Isolated (index : Nat) (program : Program) (params : Params) (world : World σ) :
    List (Asking σ (@Request.Reply Program Params)) → Option (Except Fault Unit) → Prop
  | unspawned {reason : String}
      (refused : world.refusal world.spawned settings.stackSize = some reason) :
      Isolated index program params world [] (some (.error (.unspawned reason)))
  | spawned {calls : List (Asking σ _)} {ended : Option (Except Exit Unit)}
      (granted : world.refusal world.spawned settings.stackSize = none)
      (fresh : ∀ first ∈ calls.head?, first.thread =
        (settings.threadFor caller index).hushed settings.suppressLogs)
      (pass : PassCalls pair (settings.threadFor caller index) program params calls ended) :
      Isolated index program params world calls (ended.map (Except.mapError .inside))

inductive Begun (index : Nat) (program : Program) (params : Params) :
    List (Asking σ (@Request.Reply Program Params)) → Option (Except Fault Unit) → Prop
  | intro {opening : Asking σ _} {world : World σ} {calls : List (Asking σ _)}
      {ended : Option (Except Fault Unit)} (opens : opening.From caller .clearFunctions)
      (answered : opening.Answered) (opened : opening.after = some world)
      (isolated : Isolated settings caller pair index program params world calls ended) :
      Begun index program params (opening :: calls) ended

/-- The calls of the turns from the index on, and how they come to an end if they do. -/
inductive Turns : (index : Nat) → List (Program × Params) →
    List (Asking σ (@Request.Reply Program Params)) → Option (Except Exit Unit) → Prop
  | done (index : Nat) : Turns index [] [] (some (.ok ()))
  | opening {index : Nat} {program : Program} {params : Params} {rest : List (Program × Params)}
      {opening : Asking σ _} {stop : Option Panic}
      (opens : opening.From caller .clearFunctions) (halts : opening.Halts stop) :
      Turns index ((program, params) :: rest) [opening] (stop.map fun panic => .error (.panic panic))
  | stuck {index : Nat} {program : Program} {params : Params} {rest : List (Program × Params)}
      {calls : List (Asking σ _)}
      (begun : Begun settings caller pair index program params calls none) :
      Turns index ((program, params) :: rest) calls none
  | halted {index : Nat} {program : Program} {params : Params} {rest : List (Program × Params)}
      {calls resets : List (Asking σ _)} {ended : Except Fault Unit} {stop : Option Panic}
      (begun : Begun settings caller pair index program params calls (some ended))
      (halts : InOrder caller (resetRequests forgets) resets (stop.map .error)) :
      Turns index ((program, params) :: rest) (calls ++ resets)
        (stop.map fun panic => .error (.panic panic))
  | failed {index : Nat} {program : Program} {params : Params} {rest : List (Program × Params)}
      {calls resets : List (Asking σ _)} {fault : Fault}
      (begun : Begun settings caller pair index program params calls (some (.error fault)))
      (reset : InOrder caller (resetRequests forgets) resets (some (.ok ()))) :
      Turns index ((program, params) :: rest) (calls ++ resets)
        (some (.error (.failure (fault.failure index))))
  | next {index : Nat} {program : Program} {params : Params} {rest : List (Program × Params)}
      {calls resets later : List (Asking σ _)} {ended : Option (Except Exit Unit)}
      (begun : Begun settings caller pair index program params calls (some (.ok ())))
      (reset : InOrder caller (resetRequests forgets) resets (some (.ok ())))
      (turns : Turns (index + 1) rest later ended) :
      Turns index ((program, params) :: rest) (calls ++ (resets ++ later)) ended

end Turns

theorem Thread.Same.exec {thread t t' : Thread} {code : Code σ α} {world last : World σ} {answer : α}
    (same : t.Same thread) (ended : code.exec t world = some (answer, t', last)) : t'.Same thread := by
  have kept := Code.exec_thread ended
  rw [same] at kept
  exact kept

theorem Thread.Same.hushed {t thread : Thread} (same : t.Same thread) (mute : Bool) :
    (t.hushed mute).Same thread := by
  rw [same]
  rfl

theorem Thread.Same.inPass {t thread : Thread} (same : t.Same thread) : t.inPass = thread.inPass := by
  rw [same]

namespace InOrder

variable {thread : Thread} {first second : List (Request Program Params)}
  {left right : List (Asking σ (@Request.Reply Program Params))} {ended : Option (Except Panic Unit)}

theorem append (before : InOrder thread first left (some (.ok ())))
    (later : InOrder thread second right ended) :
    InOrder thread (first ++ second) (left ++ right) ended := by
  generalize completed : (some (.ok ()) : Option (Except Panic Unit)) = outcome at before
  induction before with
  | nil => exact later
  | @halts _ _ _ stop => cases stop <;> cases completed
  | answered asks answered _ ih => exact .answered asks answered (ih completed)

theorem halted {stop : Option Panic} (before : InOrder thread first left (stop.map .error)) :
    InOrder thread (first ++ second) left (stop.map .error) := by
  generalize halted : (stop.map .error : Option (Except Panic Unit)) = outcome at before
  induction before with
  | nil => cases stop <;> cases halted
  | halts asks halts => exact .halts asks halts
  | answered asks answered _ ih => exact .answered asks answered (ih halted)

theorem single {asking : Asking σ (@Request.Reply Program Params)} {request : Request Program Params}
    (asks : asking.From thread request)
    (calm : ∀ failure, asking.outcome ≠ some (.error (.failure failure))) :
    ∃ ended, InOrder thread [request] [asking] ended ∧
      asking.outcome = ended.map (Except.mapError .panic) := by
  rcases outcome : asking.outcome with _ | ⟨failure | panic⟩ | ⟨⟨⟩⟩
  · exact ⟨none, .halts asks (.never outcome), rfl⟩
  · exact absurd outcome (calm failure)
  · exact ⟨some (.error panic), .halts asks (.panicked outcome), rfl⟩
  · exact ⟨some (.ok ()), .answered asks (.returned outcome) .nil, rfl⟩

end InOrder

end TuningTasks
