import TuningTasks.Event
import TuningTasks.FallbackCache
import TuningTasks.Ledger
import TuningTasks.Process.Exit

/-!
The state that the threads of a process share: ledgers and fallback caches by name, the slot of the
dispatch hook, the session lock, the count of muting guards, the log and its sink, and whatever state
`σ` the callbacks keep. A lock whose holder panicked is poisoned: a poisoned ledger refuses every
operation for good, while fallback caches and the session lock recover.
-/
namespace TuningTasks

inductive Decision
  | traced
  | passThrough
deriving DecidableEq, Repr

/-- Who gets the dispatches of a scope: a ledger, or code of the caller that answers each one. -/
inductive Hook (σ : Type)
  | ledger (name : String)
  | custom (answer : Invocation → σ → Except Exit Decision × σ)

structure Guarded (α : Type) where
  value : α
  poisoned : Bool := false

structure Thread where
  /-- The call from outside that the thread works for. -/
  caller : Nat := 0
  name : Option String := none
  inPass : Bool := false
  /-- What the muting guards made on the thread have left behind. -/
  muted : Bool := false
deriving DecidableEq, Inhabited

structure World (σ : Type) where
  ledgers : String → Guarded Ledger
  caches : String → FallbackCache
  hook : Guarded (Option (Hook σ))
  /-- The caller that holds the session lock. -/
  session : Option Nat
  /-- How many muting guards are held, on all threads together. -/
  guards : Nat
  log : List Event
  /-- Whether the sink panics on an event, given the events that came before it. -/
  sink : List Event → Event → Option Panic
  spawned : Nat
  /-- The system's reason to refuse a thread, given its number and stack size. -/
  refusal : Nat → Option Nat → Option String
  client : σ

namespace World

variable {σ : Type}

def initial (client : σ) : World σ where
  ledgers _ := { value := {} }
  caches _ := {}
  hook := { value := none }
  session := none
  guards := 0
  log := []
  sink _ _ := none
  spawned := 0
  refusal _ _ := none
  client := client

def setLedger (world : World σ) (name : String) (ledger : Guarded Ledger) : World σ :=
  { world with ledgers := fun other => if other = name then ledger else world.ledgers other }

def setCache (world : World σ) (name : String) (cache : FallbackCache) : World σ :=
  { world with caches := fun other => if other = name then cache else world.caches other }

/-- A muted thread is heard again while no guard is held anywhere, even if one left it muted. -/
def hears (world : World σ) (thread : Thread) : Bool := world.guards = 0 || !thread.muted

/-- The sink logs an event that it hears before it may panic. -/
def emit (world : World σ) (thread : Thread) (event : Event) : Except Panic Unit × World σ :=
  if world.hears thread then
    ((world.sink world.log event).elim (.ok ()) .error, { world with log := world.log ++ [event] })
  else (.ok (), world)

/-- The event comes before the invocation is stored, and a panic there poisons the ledger. -/
def record (world : World σ) (thread : Thread) (name : String) (invocation : Invocation) :
    Except Exit RecordOutcome × World σ :=
  let cell := world.ledgers name
  if cell.poisoned then (.error (.failure .ledgerPoisoned), world)
  else match cell.value.outcome invocation with
    | .recorded =>
        match world.emit thread (.recorded invocation) with
        | (.ok (), world) =>
            (.ok .recorded, world.setLedger name { cell with value := cell.value.add invocation })
        | (.error panic, world) =>
            (.error (.panic panic), world.setLedger name { cell with poisoned := true })
    | other => (.ok other, world)

def resetLedger (world : World σ) (name : String) (filter : Option Filter) :
    Except Failure Unit × World σ :=
  if (world.ledgers name).poisoned then (.error .ledgerPoisoned, world)
  else (.ok (), world.setLedger name { value := .reset filter })

def readLedger (world : World σ) (name : String) : Except Failure Ledger :=
  let cell := world.ledgers name
  if cell.poisoned then .error .ledgerPoisoned else .ok cell.value

def consult (world : World σ) (thread : Thread) (hook : Hook σ) (invocation : Invocation) :
    Except Exit Decision × World σ :=
  match hook with
  | .ledger name =>
      let (outcome, world) := world.record thread name invocation
      (outcome.map fun
        | .filtered => .passThrough
        | _ => .traced, world)
  | .custom answer =>
      let (decision, client) := answer invocation world.client
      (decision, { world with client })

def installedHook (world : World σ) : Except Failure (Option (Hook σ)) :=
  if world.hook.poisoned then .error .hookPoisoned else .ok world.hook.value

def isTracing (world : World σ) : Bool := !world.hook.poisoned && world.hook.value.isSome

/-- The slot is filled before the event, so a panic there leaves the hook behind a poisoned lock. -/
def install (world : World σ) (thread : Thread) (hook : Hook σ) : Except Exit Unit × World σ :=
  if world.hook.poisoned then (.error (.failure .hookPoisoned), world)
  else if world.hook.value.isSome then (.error (.failure .scopeActive), world)
  else
    match ({ world with hook := { value := some hook } }).emit thread .scopeEntered with
    | (.ok (), world) => (.ok (), world)
    | (.error panic, world) =>
        (.error (.panic panic), { world with hook := { world.hook with poisoned := true } })

/-- The slot is emptied even behind a poisoned lock, which stays poisoned. -/
def uninstall (world : World σ) (thread : Thread) : Except Panic Unit × World σ :=
  match ({ world with hook := { world.hook with value := none } }).emit thread .scopeExited with
  | (.ok (), world) => (.ok (), world)
  | (.error panic, world) =>
      (.error panic, { world with hook := { world.hook with poisoned := true } })

/-- The message counts as given before its event is emitted. -/
def warnOnce (world : World σ) (thread : Thread) (name message : String) :
    Except Panic Bool × World σ :=
  let cache := world.caches name
  if cache.hasWarned message then (.ok false, world)
  else
    let (emitted, world) := (world.setCache name (cache.warn message)).emit thread (.fallback message)
    (emitted.map fun _ => true, world)

def spawn (world : World σ) (stackSize : Option Nat) : Except String Unit × World σ :=
  ((world.refusal world.spawned stackSize).elim (.ok ()) .error,
    { world with spawned := world.spawned + 1 })

end World

end TuningTasks
