import TuningTasks.Proofs.Records
import TuningTasks.Proofs.Scopes

/-!
The traced part of an extraction, which holds the session lock. It empties the ledger, makes a scope of
it and lowers the programs one after another. Where a scope is active already it ends at once, after
the ledger has been emptied.
-/
namespace TuningTasks

universe u v
variable {σ α : Type} {Program : Type u} {Params : Type v} {waits : Bool}

def Thread.hushed (t : Thread) (mute : Bool) : Thread := { t with muted := mute || t.muted }

namespace World

def hushed (world : World σ) (mute : Bool) : World σ := if mute then world.guarded else world

def unhushed (world : World σ) (mute : Bool) : World σ := if mute then world.unguarded else world

def emptied (world : World σ) (name : String) (filter : Option Filter) : World σ :=
  world.setLedger name { value := .reset filter }

theorem Silent.hushed {world : World σ} (silent : world.Silent) (mute : Bool) :
    (world.hushed mute).Silent := by
  cases mute with
  | false => exact silent
  | true => exact silent.guarded

theorem Silent.emptied {world : World σ} (silent : world.Silent) (name : String)
    (filter : Option Filter) : (world.emptied name filter).Silent := silent

theorem emptied_sound (world : World σ) (name : String) (filter : Option Filter) :
    ((world.emptied name filter).ledgers name).poisoned = false := by
  simp [emptied, setLedger]

theorem resetLedger_sound {world : World σ} {name : String}
    (sound : (world.ledgers name).poisoned = false) (filter : Option Filter) :
    world.resetLedger name filter = (.ok (), world.emptied name filter) := by
  simp only [resetLedger, sound, Bool.false_eq_true, ↓reduceIte, emptied]

theorem readLedger_sound {world : World σ} {name : String}
    (sound : (world.ledgers name).poisoned = false) :
    world.readLedger name = .ok (world.ledgers name).value := by
  simp only [readLedger, sound, Bool.false_eq_true, ↓reduceIte]

end World

namespace Routine

theorem exec_quietly_tidy {body : Routine σ α} (tidy : body.run.Tidy waits) (mute : Bool) (t : Thread)
    {world : World σ} (silent : world.Silent) :
    (quietly mute body).run.exec t world =
      (body.run.exec (t.hushed mute) (world.hushed mute)).map fun ended =>
        (ended.1, t, ended.2.2.unhushed mute) := by
  cases mute with
  | false =>
      have same : (quietly false body).run.exec t world = body.run.exec t world := rfl
      rw [same]
      change _ = (body.run.exec t world).map _
      cases ran : body.run.exec t world with
      | none => rfl
      | some ended =>
          have restored := tidy.restores silent ran
          rw [Option.map_some, ← restored.thread]
          rfl
  | true =>
      rw [exec_quietly]
      change (body.run.exec { t with muted := true } world.guarded).map _ =
        (body.run.exec { t with muted := true } world.guarded).map _
      cases ran : body.run.exec { t with muted := true } world.guarded with
      | none => rfl
      | some ended =>
          have restored := tidy.restores silent.guarded ran
          rw [Option.map_some, Option.map_some, restored.thread]
          rfl

end Routine

namespace Extractor

variable (extractor : Extractor σ Program Params)

def begun (t : Thread) (world : World σ) : World σ :=
  (world.installed t (.ledger extractor.ledger)).hushed extractor.settings.suppressLogs

/-- The world in which the first program is lowered. -/
def opened (filter : Option Filter) (t : Thread) (world : World σ) : World σ :=
  extractor.begun t ((world.locked t.caller).emptied extractor.ledger filter)

/-- What becomes of the world in which lowering has ended once its scope is dropped. -/
def left (t : Thread) (last : World σ) : World σ :=
  (last.unhushed extractor.settings.suppressLogs).uninstalled t

def closed (t : Thread) (last : World σ) : World σ := (extractor.left t last).unlocked

variable {extractor}

theorem begun_ledgers (t : Thread) (world : World σ) :
    (extractor.begun t world).ledgers = world.ledgers := by
  rw [begun, World.hushed]
  split
  · rfl
  · rfl

theorem begun_hook (t : Thread) (world : World σ) :
    (extractor.begun t world).hook = { value := some (.ledger extractor.ledger) } := by
  rw [begun, World.hushed]
  split
  · rfl
  · rfl

theorem opened_ledger (filter : Option Filter) (t : Thread) (world : World σ) :
    (extractor.opened filter t world).ledgers extractor.ledger = { value := .after filter [] } := by
  rw [opened, begun_ledgers]
  simp [World.emptied, World.setLedger, Ledger.after_nil]

theorem opened_silent (filter : Option Filter) (t : Thread) {world : World σ}
    (silent : world.Silent) : (extractor.opened filter t world).Silent :=
  (((silent.locked t.caller).emptied extractor.ledger filter).installed t _).hushed _

theorem left_ledgers (t : Thread) (last : World σ) :
    (extractor.left t last).ledgers = last.ledgers := by
  rw [left, World.unhushed]
  split
  · rfl
  · rfl

section Traced

variable (pair : TargetPair) (work : List (Program × Params)) (filter : Option Filter) {t : Thread}
  {world : World σ}

def inScope (extractor : Extractor σ Program Params) (pair : TargetPair)
    (work : List (Program × Params)) : Routine σ (List Invocation) := do
  .intercepting (.ledger extractor.ledger)
    (.quietly extractor.settings.suppressLogs
      (extractor.pipeline.passes extractor.settings pair 0 work))
  return (← Routine.failing (.readLedger extractor.ledger)).ordered

theorem exec_tracing (sound : (world.ledgers extractor.ledger).poisoned = false) :
    (extractor.tracing pair work filter).run.exec t world =
      (extractor.inScope pair work).run.exec t (world.emptied extractor.ledger filter) := by
  have emptied := World.resetLedger_sound sound filter
  rw [tracing, Routine.exec_bind, Routine.exec_failing _ rfl]
  simp only [Action.perform, emptied, Routine.mapError_ok, Option.bind_some, Routine.onward]
  rfl

theorem exec_inScope (tidy : extractor.pipeline.Tidy waits) (silent : world.Silent)
    (idle : world.hook = { value := none })
    (sound : (world.ledgers extractor.ledger).poisoned = false) :
    (extractor.inScope pair work).run.exec t world =
      ((extractor.pipeline.passes extractor.settings pair 0 work).run.exec
        (t.hushed extractor.settings.suppressLogs) (extractor.begun t world)).map
        fun ended =>
          (ended.1.map fun _ => (ended.2.2.ledgers extractor.ledger).value.ordered, t,
            extractor.left t ended.2.2) := by
  have passes := tidy.passes extractor.settings pair 0 work
  have quiet : (extractor.begun t world).Silent :=
    (silent.installed t (.ledger extractor.ledger)).hushed extractor.settings.suppressLogs
  rw [inScope, Routine.exec_bind, Routine.exec_intercepting_idle silent idle,
    Routine.exec_quietly_tidy passes _ t (silent.installed t _)]
  change Option.bind (Option.map _ (Option.map _
    ((extractor.pipeline.passes extractor.settings pair 0 work).run.exec
      (t.hushed extractor.settings.suppressLogs) (extractor.begun t world)))) _ = _
  cases ran : (extractor.pipeline.passes extractor.settings pair 0 work).run.exec
      (t.hushed extractor.settings.suppressLogs) (extractor.begun t world) with
  | none => rfl
  | some ended =>
      obtain ⟨outcome, thread, last⟩ := ended
      cases outcome with
      | error exit => rfl
      | ok done =>
          -- The scope is dropped and the guard given back before the ledger is read.
          have restored := passes.restores quiet ran
          have kept : ((extractor.left t last).ledgers extractor.ledger).poisoned = false := by
            rw [left_ledgers, restored.poisoned, begun_ledgers]
            exact sound
          change (Routine.failing (.readLedger extractor.ledger) >>= _).run.exec t
            (extractor.left t last) = _
          rw [Routine.exec_bind, Routine.exec_failing _ rfl]
          simp only [Action.perform, World.readLedger_sound kept, Routine.mapError_ok, Option.bind_some,
            Routine.onward, left_ledgers]
          rfl

section Free

variable (free : world.session = none) (sound : (world.ledgers extractor.ledger).poisoned = false)

include free sound

theorem exec_traced (tidy : extractor.pipeline.Tidy waits) (silent : world.Silent)
    (idle : world.hook = { value := none }) :
    (extractor.traced pair work filter).run.exec t world =
      ((extractor.pipeline.passes extractor.settings pair 0 work).run.exec
        (t.hushed extractor.settings.suppressLogs) (extractor.opened filter t world)).map
        fun ended =>
          (ended.1.map fun _ => (ended.2.2.ledgers extractor.ledger).value.ordered, t,
            extractor.closed t ended.2.2) := by
  have sound' : ((world.locked t.caller).ledgers extractor.ledger).poisoned = false := sound
  have quiet := (silent.locked t.caller).emptied extractor.ledger filter
  have idle' : ((world.locked t.caller).emptied extractor.ledger filter).hook =
      { value := none } := idle
  rw [traced_eq, Routine.exec_exclusively free, exec_tracing pair work filter sound',
    exec_inScope pair work tidy quiet idle' (World.emptied_sound _ _ _), Option.map_map]
  rfl

theorem exec_traced_active {active : Hook σ} (busy : world.hook = { value := some active }) :
    (extractor.traced pair work filter).run.exec t world =
      some (.error (.failure .scopeActive), t, world.emptied extractor.ledger filter) := by
  have sound' : ((world.locked t.caller).ledgers extractor.ledger).poisoned = false := sound
  have busy' : ((world.locked t.caller).emptied extractor.ledger filter).hook =
      { value := some active } := busy
  have unlocked : ((world.locked t.caller).emptied extractor.ledger filter).unlocked =
      world.emptied extractor.ledger filter := by
    change { world.emptied extractor.ledger filter with session := none } = _
    rw [← free]
    rfl
  have refused := World.install_active busy' t (.ledger extractor.ledger)
  rw [traced_eq, Routine.exec_exclusively free, exec_tracing pair work filter sound', inScope,
    Routine.exec_bind, Routine.exec_intercepting_refused refused]
  simp only [Option.bind_some, Routine.onward, Option.map_some, unlocked]

end Free

end Traced

end Extractor

end TuningTasks
