import TuningTasks.Proofs.History

/-!
How the operations of the world and the ways to build routines run. No action changes the sink or the
system's refusals; while the sink never panics, logging an event changes the log and nothing else.
-/
namespace TuningTasks

variable {σ α β : Type}

namespace World

def Silent (world : World σ) : Prop := ∀ past event, world.sink past event = none

def logged (world : World σ) (thread : Thread) (event : Event) : World σ :=
  { world with log := if world.hears thread then world.log ++ [event] else world.log }

theorem emit_snd (world : World σ) (thread : Thread) (event : Event) :
    (world.emit thread event).2 = world.logged thread event := by
  simp only [emit, logged]
  split <;> rfl

theorem emit_silent {world : World σ} (silent : world.Silent) (thread : Thread) (event : Event) :
    world.emit thread event = (.ok (), world.logged thread event) := by
  simp only [emit, logged, silent _ _]
  split <;> rfl

/-- What the sink panics with on the event, if the thread logs it now. -/
def panicOn (world : World σ) (t : Thread) (event : Event) : Option Panic :=
  if world.hears t then world.sink world.log event else none

theorem emit_eq (world : World σ) (t : Thread) (event : Event) :
    world.emit t event = ((world.panicOn t event).elim (.ok ()) .error, world.logged t event) := by
  unfold emit panicOn logged
  split
  · rfl
  · rfl

def installed (world : World σ) (thread : Thread) (hook : Hook σ) : World σ :=
  ({ world with hook := { value := some hook } }).logged thread .scopeEntered

def uninstalled (world : World σ) (thread : Thread) : World σ :=
  ({ world with hook := { world.hook with value := none } }).logged thread .scopeExited

def guarded (world : World σ) : World σ := { world with guards := world.guards + 1 }

def unguarded (world : World σ) : World σ := { world with guards := world.guards - 1 }

def locked (world : World σ) (caller : Nat) : World σ := { world with session := some caller }

def unlocked (world : World σ) : World σ := { world with session := none }

namespace Silent

variable {world : World σ}

theorem installed (silent : world.Silent) (thread : Thread) (hook : Hook σ) :
    (world.installed thread hook).Silent := silent

theorem uninstalled (silent : world.Silent) (thread : Thread) :
    (world.uninstalled thread).Silent := silent

theorem guarded (silent : world.Silent) : world.guarded.Silent := silent

theorem unguarded (silent : world.Silent) : world.unguarded.Silent := silent

theorem locked (silent : world.Silent) (caller : Nat) : (world.locked caller).Silent := silent

theorem unlocked (silent : world.Silent) : world.unlocked.Silent := silent

end Silent

theorem install_idle {world : World σ} (silent : world.Silent) (idle : world.hook = { value := none })
    (thread : Thread) (hook : Hook σ) :
    world.install thread hook = (.ok (), world.installed thread hook) := by
  have heard : ({ world with hook := { value := some hook } } : World σ).Silent := silent
  simp [install, idle, emit_silent heard, installed]

theorem install_active {world : World σ} {active : Hook σ} (busy : world.hook = { value := some active })
    (thread : Thread) (hook : Hook σ) :
    world.install thread hook = (.error (.failure .scopeActive), world) := by
  simp [install, busy]

theorem install_poisoned {world : World σ} (broken : world.hook.poisoned = true) (thread : Thread)
    (hook : Hook σ) : world.install thread hook = (.error (.failure .hookPoisoned), world) := by
  simp [install, broken]

theorem uninstall_silent {world : World σ} (silent : world.Silent) (thread : Thread) :
    world.uninstall thread = (.ok (), world.uninstalled thread) := by
  have heard : ({ world with hook := { world.hook with value := none } } : World σ).Silent := silent
  simp [uninstall, emit_silent heard, uninstalled]

end World

namespace World

theorem record_frame (world : World σ) (thread : Thread) (name : String) (invocation : Invocation) :
    ∃ ledgers log, (world.record thread name invocation).2 = { world with ledgers, log } := by
  have logged := world.emit_snd thread (.recorded invocation)
  simp only [record]
  -- A poisoned ledger, a duplicate and a filtered invocation leave everything as it is.
  split
  · exact ⟨world.ledgers, world.log, rfl⟩
  · split
    · rcases emitted : world.emit thread (.recorded invocation) with ⟨_ | _, after⟩
      all_goals
        rw [emitted] at logged
        subst logged
        exact ⟨_, _, rfl⟩
    · exact ⟨world.ledgers, world.log, rfl⟩

theorem setLedger_self (world : World σ) (name : String) :
    world.setLedger name (world.ledgers name) = world := by
  have same : (fun other => if other = name then world.ledgers name else world.ledgers other) =
      world.ledgers := by
    funext other
    by_cases here : other = name
    · simp [here]
    · simp [here]
  simp only [setLedger, same]

/-- A sound ledger takes an invocation by its own rule. -/
theorem record_sound {world : World σ} (silent : world.Silent) {name : String}
    (sound : (world.ledgers name).poisoned = false) (thread : Thread) (invocation : Invocation) :
    ∃ log, world.record thread name invocation =
      (.ok ((world.ledgers name).value.outcome invocation),
        { world.setLedger name { value := (world.ledgers name).value.submit invocation } with
          log }) := by
  have cell : world.ledgers name = { value := (world.ledgers name).value } := by
    rw [← sound]
  simp only [record, sound, Bool.false_eq_true, ↓reduceIte, emit_silent silent]
  cases outcome : (world.ledgers name).value.outcome invocation with
  | recorded =>
      refine ⟨(world.logged thread (.recorded invocation)).log, ?_⟩
      simp [Ledger.submit, outcome, setLedger, logged]
  | duplicate =>
      refine ⟨world.log, ?_⟩
      simp only [Ledger.submit, outcome, reduceCtorEq, ↓reduceIte, ← cell, setLedger_self]
  | filtered =>
      refine ⟨world.log, ?_⟩
      simp only [Ledger.submit, outcome, reduceCtorEq, ↓reduceIte, ← cell, setLedger_self]

theorem consult_frame (world : World σ) (thread : Thread) (hook : Hook σ)
    (invocation : Invocation) :
    ∃ ledgers log client,
      (world.consult thread hook invocation).2 = { world with ledgers, log, client } := by
  cases hook with
  | ledger name =>
      obtain ⟨ledgers, log, same⟩ := world.record_frame thread name invocation
      exact ⟨ledgers, log, world.client, by simp only [consult, same]⟩
  | custom answer => exact ⟨world.ledgers, world.log, _, rfl⟩

theorem install_frame (world : World σ) (thread : Thread) (hook : Hook σ) :
    ∃ slot log, (world.install thread hook).2 = { world with hook := slot, log } := by
  have logged := ({ world with hook := { value := some hook } } : World σ).emit_snd thread .scopeEntered
  simp only [install]
  split
  · exact ⟨world.hook, world.log, rfl⟩
  · split
    · exact ⟨world.hook, world.log, rfl⟩
    · split
      all_goals
        rename_i emitted
        rw [emitted] at logged
        subst logged
        exact ⟨_, _, rfl⟩

theorem uninstall_frame (world : World σ) (thread : Thread) :
    ∃ slot log, (world.uninstall thread).2 = { world with hook := slot, log } := by
  have logged :=
    ({ world with hook := { world.hook with value := none } } : World σ).emit_snd thread .scopeExited
  simp only [uninstall]
  split
  all_goals
    rename_i emitted
    rw [emitted] at logged
    subst logged
    exact ⟨_, _, rfl⟩

theorem resetLedger_frame (world : World σ) (name : String) (filter : Option Filter) :
    ∃ ledgers, (world.resetLedger name filter).2 = { world with ledgers } := by
  simp only [resetLedger]
  split
  · exact ⟨world.ledgers, rfl⟩
  · exact ⟨_, rfl⟩

theorem warnOnce_frame (world : World σ) (thread : Thread) (name message : String) :
    ∃ caches log, (world.warnOnce thread name message).2 = { world with caches, log } := by
  simp only [warnOnce]
  split
  · exact ⟨world.caches, world.log, rfl⟩
  · exact ⟨_, _, emit_snd _ thread _⟩

theorem warnOnce_silent {world : World σ} (silent : world.Silent) (thread : Thread)
    (name message : String) :
    world.warnOnce thread name message =
      if (world.caches name).hasWarned message then (.ok false, world)
      else (.ok true, (world.setCache name ((world.caches name).warn message)).logged thread
        (.fallback message)) := by
  have heard : (world.setCache name ((world.caches name).warn message)).Silent := silent
  simp only [warnOnce, emit_silent heard]
  rfl

end World

namespace Action

/-- Every action leaves the sink and the system's refusals as they are. -/
theorem perform_frame (action : Action σ β) (t : Thread) (world : World σ) :
    (action.perform t world).2.2.sink = world.sink ∧
      (action.perform t world).2.2.refusal = world.refusal := by
  cases action with
  | emit event => simp only [perform, World.emit_snd]; exact ⟨rfl, rfl⟩
  | consult hook invocation =>
      obtain ⟨_, _, _, same⟩ := world.consult_frame t hook invocation
      simp only [perform, same, and_self]
  | install hook =>
      obtain ⟨_, _, same⟩ := world.install_frame t hook
      simp only [perform, same, and_self]
  | uninstall =>
      obtain ⟨_, _, same⟩ := world.uninstall_frame t
      simp only [perform, same, and_self]
  | resetLedger name filter =>
      obtain ⟨_, same⟩ := world.resetLedger_frame name filter
      simp only [perform, same, and_self]
  | record name invocation =>
      obtain ⟨_, _, same⟩ := world.record_frame t name invocation
      simp only [perform, same, and_self]
  | warnOnce cache message =>
      obtain ⟨_, _, same⟩ := world.warnOnce_frame t cache message
      simp only [perform, same, and_self]
  | thread | mute | unmute | installedHook | isTracing | readLedger | updateCache | lockSession
  | unlockSession | spawn | client => exact ⟨rfl, rfl⟩

theorem perform_silent (action : Action σ β) {world : World σ} (silent : world.Silent) (t : Thread) :
    (action.perform t world).2.2.Silent := by
  intro past event
  rw [(action.perform_frame t world).1]
  exact silent past event

end Action

theorem Code.exec_frame {code : Code σ α} {t thread : Thread} {world last : World σ} {answer : α}
    (ended : code.exec t world = some (answer, thread, last)) :
    last.sink = world.sink ∧ last.refusal = world.refusal := by
  let kept (w : World σ) := w.sink = world.sink ∧ w.refusal = world.refusal
  have each : ∀ moment ∈ code.history t world, kept moment.world → kept moment.after := by
    intro moment _ same
    have frame := moment.action.perform_frame moment.thread moment.world
    exact ⟨frame.1.trans same.1, frame.2.trans same.2⟩
  exact (follows_history ended).keeps each ⟨rfl, rfl⟩

theorem Code.exec_silent {code : Code σ α} {t thread : Thread} {world last : World σ} {answer : α}
    (ended : code.exec t world = some (answer, thread, last)) (silent : world.Silent) :
    last.Silent := by
  intro past event
  rw [(exec_frame ended).1]
  exact silent past event

theorem Code.exec_perform (action : Action σ α) {t : Thread} {world : World σ}
    (ready : action.ready world = true) :
    (Code.perform action).exec t world = some (action.perform t world) := by
  simp only [Code.perform, Code.exec, ready, ↓reduceIte]

theorem Code.exec_onThread (thread : Thread) (body : Code σ α) (t : Thread) (world : World σ) :
    (Code.onThread thread body).exec t world =
      (body.exec { thread with caller := t.caller } world).map fun ended => (ended.1, t, ended.2.2) := by
  simp only [Code.onThread, Code.exec]
  cases body.exec { thread with caller := t.caller } world with
  | none => rfl
  | some ended => rfl

namespace Routine

@[simp] theorem mapError_ok {ε ε' : Type} (wrap : ε → ε') (value : α) :
    (Except.ok value : Except ε α).mapError wrap = .ok value := rfl

@[simp] theorem mapError_error {ε ε' : Type} (wrap : ε → ε') (cause : ε) :
    (Except.error cause : Except ε α).mapError wrap = .error (wrap cause) := rfl

def onward (rest : α → Routine σ β) :
    Except Exit α × Thread × World σ → Option (Except Exit β × Thread × World σ)
  | (.ok value, t, world) => (rest value).run.exec t world
  | (.error exit, t, world) => some (.error exit, t, world)

theorem exec_bind (routine : Routine σ α) (rest : α → Routine σ β) (t : Thread) (world : World σ) :
    (routine >>= rest).run.exec t world = (routine.run.exec t world).bind (onward rest) := by
  have split : (routine >>= rest).run = routine.run.bind (ExceptT.bindCont rest) := rfl
  rw [split, Code.exec_bind]
  congr 1
  funext ⟨ended, thread, last⟩
  cases ended <;> rfl

theorem bind_ok {routine : Routine σ α} {rest : α → Routine σ β} {t thread : Thread}
    {world last : World σ} {value : β}
    (ended : (routine >>= rest).run.exec t world = some (.ok value, thread, last)) :
    ∃ first middle between, routine.run.exec t world = some (.ok first, middle, between) ∧
      (rest first).run.exec middle between = some (.ok value, thread, last) := by
  rw [exec_bind, Option.bind_eq_some_iff] at ended
  obtain ⟨⟨outcome, middle, between⟩, ran, later⟩ := ended
  cases outcome with
  | error exit => cases later
  | ok first => exact ⟨first, middle, between, ran, later⟩

@[simp] theorem exec_fail (failure : Failure) (t : Thread) (world : World σ) :
    (fail failure : Routine σ α).run.exec t world = some (.error (.failure failure), t, world) := rfl

theorem exec_lift (code : Code σ α) (t : Thread) (world : World σ) :
    (ExceptT.lift code : Routine σ α).run.exec t world =
      (code.exec t world).map fun ended => (.ok ended.1, ended.2) := by
  change (code.bind _).exec t world = _
  rw [Code.exec_bind]
  cases code.exec t world <;> rfl

theorem exec_panicking (code : Code σ (Except Panic α)) (t : Thread) (world : World σ) :
    (panicking code).run.exec t world =
      (code.exec t world).map fun ended => (ended.1.mapError .panic, ended.2) := by
  change (code.bind _).exec t world = _
  rw [Code.exec_bind]
  cases code.exec t world <;> rfl

section Ready

variable {t : Thread} {world : World σ}

theorem exec_perform (action : Action σ α) (ready : action.ready world = true) :
    (perform action).run.exec t world =
      some (.ok (action.perform t world).1, (action.perform t world).2.1,
        (action.perform t world).2.2) := by
  rw [perform, exec_lift, Code.exec_perform action ready]
  rfl

theorem exec_attempt (action : Action σ (Except Exit α)) (ready : action.ready world = true) :
    (attempt action).run.exec t world = some (action.perform t world) :=
  Code.exec_perform action ready

theorem exec_failing (action : Action σ (Except Failure α)) (ready : action.ready world = true) :
    (failing action).run.exec t world =
      some ((action.perform t world).1.mapError .failure, (action.perform t world).2.1,
        (action.perform t world).2.2) := by
  change ((Code.perform action).bind _).exec t world = _
  rw [Code.exec_bind, Code.exec_perform action ready]
  rfl

end Ready

theorem exec_emit {world : World σ} (silent : world.Silent) (event : Event) (t : Thread) :
    (emit event).run.exec t world = some (.ok (), t, world.logged t event) := by
  have emitted := world.emit_silent silent t event
  rw [emit, exec_panicking, Code.exec_perform _ rfl]
  simp only [Action.perform, emitted, Option.map_some, mapError_ok]

theorem exec_dispatch (invocation : Invocation) (t : Thread) (world : World σ) :
    (dispatch invocation).run.exec t world = some (match world.installedHook with
      | .error failure => (.error (.failure failure), t, world)
      | .ok none => (.ok .passThrough, t, world)
      | .ok (some hook) =>
          ((world.consult t hook invocation).1, t, (world.consult t hook invocation).2)) := by
  rw [dispatch, exec_bind, exec_failing _ rfl]
  cases found : world.installedHook with
  | error failure => simp [Action.perform, found, onward]
  | ok slot =>
      cases slot with
      | none =>
          simp only [Action.perform, found, mapError_ok, Option.bind_some, onward]
          rfl
      | some hook =>
          simp only [Action.perform, found, mapError_ok, onward, Option.bind_some]
          rw [exec_attempt _ rfl]
          rfl

theorem exec_intercepting_idle {world : World σ} (silent : world.Silent)
    (idle : world.hook = { value := none }) (hook : Hook σ) (body : Routine σ α) (t : Thread) :
    (intercepting hook body).run.exec t world =
      (body.run.exec t (world.installed t hook)).map fun ended =>
        (ended.1, ended.2.1, ended.2.2.uninstalled ended.2.1) := by
  have entered : (Action.install hook).perform t world = (.ok (), t, world.installed t hook) := by
    simp only [Action.perform, World.install_idle silent idle]
  have heard : (world.installed t hook).Silent := silent
  rw [intercepting, exec_bind, exec_attempt _ rfl, entered]
  simp only [Option.bind_some, onward]
  rw [exec_bind, exec_lift]
  cases ran : body.run.exec t (world.installed t hook) with
  | none => rfl
  | some ended =>
      obtain ⟨outcome, thread, last⟩ := ended
      -- The body may have ended in any way, but the sink has stayed silent.
      have left := World.uninstall_silent (Code.exec_silent ran heard) thread
      simp only [Option.map_some, Option.bind_some, onward]
      rw [exec_bind, exec_panicking, Code.exec_perform _ rfl]
      simp only [Action.perform, left, Option.map_some, mapError_ok, Option.bind_some, onward]
      rfl

theorem exec_intercepting_refused {world : World σ} {hook : Hook σ} {t : Thread} {exit : Exit}
    (refused : world.install t hook = (.error exit, world)) (body : Routine σ α) :
    (intercepting hook body).run.exec t world = some (.error exit, t, world) := by
  have answered : (Action.install hook).perform t world = (.error exit, t, world) := by
    simp only [Action.perform, refused]
  rw [intercepting, exec_bind, exec_attempt _ rfl, answered]
  rfl

theorem exec_quietly (body : Routine σ α) (t : Thread) (world : World σ) :
    (quietly true body).run.exec t world =
      (body.run.exec { t with muted := true } world.guarded).map
        fun ended => (ended.1, { ended.2.1 with muted := t.muted }, ended.2.2.unguarded) := by
  have muting : (Action.mute : Action σ Bool).perform t world =
      (t.muted, { t with muted := true }, world.guarded) := rfl
  change ((perform .mute : Routine σ Bool) >>= _).run.exec t world = _
  rw [exec_bind, exec_perform _ rfl, muting]
  simp only [Option.bind_some, onward]
  rw [exec_bind, exec_lift]
  cases body.run.exec { t with muted := true } world.guarded with
  | none => rfl
  | some ended => rfl

theorem exec_exclusively {world : World σ} (free : world.session = none) (body : Routine σ α)
    (t : Thread) :
    (exclusively body).run.exec t world =
      (body.run.exec t (world.locked t.caller)).map
        fun ended => (ended.1, ended.2.1, ended.2.2.unlocked) := by
  have ready : (Action.lockSession : Action σ Unit).ready world = true := by
    simp [Action.ready, free]
  have locking : (Action.lockSession : Action σ Unit).perform t world =
      ((), t, world.locked t.caller) := rfl
  rw [exclusively, exec_bind, exec_perform _ ready, locking]
  simp only [Option.bind_some, onward]
  rw [exec_bind, exec_lift]
  cases body.run.exec t (world.locked t.caller) with
  | none => rfl
  | some ended => rfl

theorem exec_exclusively_held {world : World σ} {holder : Nat} (held : world.session = some holder)
    (body : Routine σ α) (t : Thread) : (exclusively body).run.exec t world = none := by
  have blocked : (perform .lockSession : Routine σ Unit).run.exec t world = none := by
    change (if world.session.isNone then _ else _) = _
    simp [held]
  rw [exclusively, exec_bind, blocked]
  rfl

end Routine

end TuningTasks
