import TuningTasks.Process.World

/-!
The atomic actions of a thread on the shared state. Each one is a whole critical section, so no two
threads are ever inside one; only taking the session lock may have to wait.
-/
namespace TuningTasks

inductive Action (σ : Type) : Type → Type
  | thread : Action σ Thread
  /-- Makes a muting guard; it answers what the guard has to put back. -/
  | mute : Action σ Bool
  /-- Drops a muting guard, which puts back what it found. -/
  | unmute (found : Bool) : Action σ Unit
  | emit (event : Event) : Action σ (Except Panic Unit)
  | installedHook : Action σ (Except Failure (Option (Hook σ)))
  | consult (hook : Hook σ) (invocation : Invocation) : Action σ (Except Exit Decision)
  | isTracing : Action σ Bool
  | install (hook : Hook σ) : Action σ (Except Exit Unit)
  | uninstall : Action σ (Except Panic Unit)
  | resetLedger (name : String) (filter : Option Filter) : Action σ (Except Failure Unit)
  | record (name : String) (invocation : Invocation) : Action σ (Except Exit RecordOutcome)
  | readLedger (name : String) : Action σ (Except Failure Ledger)
  | warnOnce (cache message : String) : Action σ (Except Panic Bool)
  /-- Answers what the cache was before. -/
  | updateCache (cache : String) (change : FallbackCache → FallbackCache) : Action σ FallbackCache
  | lockSession : Action σ Unit
  | unlockSession : Action σ Unit
  | spawn (stackSize : Option Nat) : Action σ (Except String Unit)
  /-- Answers what the state of the callbacks was before. -/
  | client (change : σ → σ) : Action σ σ

namespace Action

variable {σ α : Type}

/-- Whether the action can be taken now, and its thread need not wait. -/
def ready (action : Action σ α) (world : World σ) : Bool :=
  match action with
  | lockSession => world.session.isNone
  | _ => true

/-- The answer of an action that is ready, with the thread and the world after it. -/
def perform (action : Action σ α) (t : Thread) (world : World σ) : α × Thread × World σ :=
  match action with
  | thread => (t, t, world)
  | mute => (t.muted, { t with muted := true }, { world with guards := world.guards + 1 })
  | unmute found => ((), { t with muted := found }, { world with guards := world.guards - 1 })
  | emit event =>
      let (answer, world) := world.emit t event
      (answer, t, world)
  | installedHook => (world.installedHook, t, world)
  | consult hook invocation =>
      let (answer, world) := world.consult t hook invocation
      (answer, t, world)
  | isTracing => (world.isTracing, t, world)
  | install hook =>
      let (answer, world) := world.install t hook
      (answer, t, world)
  | uninstall =>
      let (answer, world) := world.uninstall t
      (answer, t, world)
  | resetLedger name filter =>
      let (answer, world) := world.resetLedger name filter
      (answer, t, world)
  | record name invocation =>
      let (answer, world) := world.record t name invocation
      (answer, t, world)
  | readLedger name => (world.readLedger name, t, world)
  | warnOnce cache message =>
      let (answer, world) := world.warnOnce t cache message
      (answer, t, world)
  | updateCache cache change =>
      (world.caches cache, t, world.setCache cache (change (world.caches cache)))
  | lockSession => ((), t, { world with session := some t.caller })
  | unlockSession => ((), t, { world with session := none })
  | spawn stackSize =>
      let (answer, world) := world.spawn stackSize
      (answer, t, world)
  | client change => (world.client, t, { world with client := change world.client })

end Action

end TuningTasks
