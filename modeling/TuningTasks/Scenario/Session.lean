import TuningTasks.Scenario.Bench

/-!
Sessions: steps on one process, taken in order by one thread, each with its answer, what the
scripted collaborators noted and which events got through. Scopes and muting guards are held by name
from one step to a later one.
-/
namespace TuningTasks.Scenario

inductive Step
  | ledger (name : String) (op : LedgerOp)
  | cache (pipeline : String) (op : CacheOp)
  | enter (scope : String) (hook : HookScript)
  | exit (scope : String)
  | dispatch (invocation : Invocation)
  | isTracing
  | inPass
  | suppress (guard : String) (enabled : Bool)
  | release (guard : String)
  | log (message : String)
  | initLogging
  | armSink (message : Option String)
  | pipeline (name : String) (hasFallback : Bool) (panicsOn : List Nat)
  | extract (call : Except Failure Call) (programs : List Program)
  | concurrent (calls : List (Except Failure Call × List Program))
  | pass (pipeline : String) (pair : Except Failure TargetPair) (program : Program)
      (params : String)
  | materialize (given : Except Failure (Target × Settings)) (records : List Invocation)
      (factory : FactoryScript)

/-- A guard that is active puts back the muting that it found. -/
structure Session where
  world : World Bench
  thread : Thread
  scopes : List String
  guards : List (String × Option Bool)

namespace Session

/-- A thread of the system cannot have a stack larger than the address space. -/
def addressSpace : Nat := 1 <<< 47

def start : Session where
  world := { World.initial ({} : Bench) with
    refusal := fun _ size =>
      if size.any (addressSpace ≤ ·) then
        some "Resource temporarily unavailable (os error 11)"
      else none }
  thread := {}
  scopes := []
  guards := []

def run (session : Session) (helper : Bool) (act : Act Answer) : Answer × Session :=
  match (onHelper helper act).run.exec session.thread session.world with
  | none => (.stuck, session)
  | some (ended, thread, world) =>
      let answer := match ended with
        | .ok answer => answer
        | .error (.failure failure) => .failure failure
        | .error (.panic panic) => .panic panic
      (answer, { session with thread, world })

/-- The sink panics on the next event with the message, and on none after it. -/
def armedSink (before : Nat) (message : String) (past : List Event) (event : Event) :
    Option Panic :=
  if event.message = message && !(past.drop before).any (·.message = message) then
    some ⟨some "log sink failed"⟩
  else none

def perform {α : Type} (session : Session) (action : Action Bench α) : α × Session :=
  let (answer, thread, world) := action.perform session.thread session.world
  (answer, { session with thread, world })

def dropGuard (session : Session) (name : String) : Session :=
  let kept := session.guards.filter fun guard => guard.1 ≠ name
  match (session.guards.find? fun guard => guard.1 = name).bind Prod.snd with
  | some found => { (session.perform (.unmute found)).2 with guards := kept }
  | none => { session with guards := kept }

/-- A guard that was held under the name is dropped once the new one stands. -/
def addGuard (session : Session) (name : String) (enabled : Bool) : Session :=
  let (guard, muted) :=
    if enabled then
      let (found, muted) := session.perform .mute
      (some found, muted)
    else (none, session)
  let dropped := muted.dropGuard name
  { dropped with guards := (name, guard) :: dropped.guards }

def callAct (call : Except Failure Call) (programs : List Program) : Act Answer := do
  (← Routine.ofExcept call).act (Instruction.meanings programs)

def take (session : Session) (helper : Bool) : Step → Answer × Session
  | .ledger name op => session.run helper (op.act name)
  | .cache pipeline op => session.run helper (op.act pipeline)
  | .enter scope hook =>
      let (answer, after) := session.run helper do
        Routine.attempt (.install hook.hook)
        return .text "entered"
      match answer with
      | .text _ => (answer, { after with scopes := scope :: after.scopes })
      | _ => (answer, after)
  | .exit scope =>
      if session.scopes.contains scope then
        let (answer, after) := session.run helper do
          Routine.panicking (.perform .uninstall)
          return .text "exited"
        (answer, { after with scopes := after.scopes.filter (· ≠ scope) })
      else (.text "no scope", session)
  | .dispatch invocation =>
      session.run helper do return .decision (← Routine.dispatch invocation)
  | .isTracing => session.run helper do return .bool (← Routine.perform .isTracing)
  | .inPass => session.run helper do return .bool (← Routine.perform .thread).inPass
  | .suppress guard enabled => (.bool enabled, session.addGuard guard enabled)
  | .release guard =>
      (.bool (session.guards.any fun held => held.1 = guard), session.dropGuard guard)
  | .log message =>
      session.run helper do
        Routine.emit (.note message)
        return .null
  | .initLogging => (.null, session)
  | .armSink message =>
      let sink := match message with
        | none => fun _ _ => none
        | some message => armedSink session.world.log.length message
      (.null, { session with world := { session.world with sink } })
  | .pipeline name hasFallback panicsOn =>
      let client := session.world.client.setPipeline name { hasFallback, panicsOn }
      (.null, { session with world := { session.world.setCache name {} with client } })
  | .extract call programs => session.run helper (callAct call programs)
  | .concurrent calls =>
      let (answers, after) := calls.foldl
        (fun (answers, session) (call, programs) =>
          let (answer, after) := session.run true (callAct call programs)
          (answers ++ [answer], after))
        ([], session)
      (.all answers, after)
  | .pass name pair program params =>
      session.run helper do
        let pair ← Routine.ofExcept pair
        (scripted name (← hasFallback name)).pass pair (Instruction.run program) params
        return .null
  | .materialize given records factory =>
      session.run helper do
        let (target, settings) ← Routine.ofExcept given
        return .materialized (← factory.factory.materialize settings target records)

structure Outcome where
  answer : Answer
  notes : List Note
  events : List Event

/-- Steps at once keep their notes and events to themselves. -/
def isSilent : Step → Bool
  | .concurrent _ => true
  | _ => false

def step (session : Session) (helper : Bool) (step : Step) : Outcome × Session :=
  let (answer, after) := session.take helper step
  let outcome : Outcome :=
    if isSilent step then ⟨answer, [], []⟩
    else ⟨answer, after.world.client.notes, after.world.log.drop session.world.log.length⟩
  let client := { after.world.client with notes := [] }
  (outcome, { after with world := { after.world with client } })

def runAll (session : Session) : List (Bool × Step) → List Outcome
  | [] => []
  | (helper, next) :: rest =>
      let (outcome, after) := session.step helper next
      outcome :: after.runAll rest

end Session

/-- What each step of a scenario shows; the flag of a step puts it on a helper thread. -/
def outcomes (steps : List (Bool × Step)) : List Session.Outcome := Session.start.runAll steps

end TuningTasks.Scenario
