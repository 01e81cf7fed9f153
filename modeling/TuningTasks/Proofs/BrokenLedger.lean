import TuningTasks.Proofs.Independence
import TuningTasks.Proofs.Poison

/-!
A log that panics once, while a ledger tells it of a record. The panic poisons that ledger and no other
lock (`Follows.broken`). From then on the log takes everything, as one does that never panics
(`World.Quiet.exec_silenced`), and whatever is asked of the ledger is refused (`World.Refuses`).
-/
namespace TuningTasks

universe u v
variable {σ α β : Type}

/-! ### A log that has panicked before -/

namespace World

/-- The sink panics on no event from here on. -/
def Quiet (world : World σ) : Prop := ∀ more event, world.sink (world.log ++ more) event = none

def silenced (world : World σ) : World σ := { world with sink := fun _ _ => none }

theorem silenced_silent (world : World σ) : world.silenced.Silent := fun _ _ => rfl

theorem Quiet.taken {world : World σ} (quiet : world.Quiet) (t : Thread) (event : Event) :
    world.panicOn t event = none := by
  have nothing := quiet [] event
  rw [List.append_nil] at nothing
  rw [panicOn, nothing, ite_self]

section Silenced

variable {world : World σ} {t : Thread}

theorem emit_silenced {event : Event} (taken : world.panicOn t event = none) :
    world.silenced.emit t event = ((world.emit t event).1, (world.emit t event).2.silenced) := by
  rw [emit_silent world.silenced_silent, emit_eq, taken]
  rfl

theorem record_silenced {name : String} {call : Invocation}
    (taken : ∀ event, world.recording? name call = some event → world.panicOn t event = none) :
    world.silenced.record t name call =
      ((world.record t name call).1, (world.record t name call).2.silenced) := by
  cases sound : (world.ledgers name).poisoned with
  | true =>
      have sound' : (world.silenced.ledgers name).poisoned = true := sound
      rw [record_broken sound, record_broken sound']
  | false =>
      have sound' : (world.silenced.ledgers name).poisoned = false := sound
      have same : world.silenced.ledgers = world.ledgers := rfl
      simp only [record, sound, same, Bool.false_eq_true, ↓reduceIte]
      cases outcome : (world.ledgers name).value.outcome call with
      | recorded =>
          have heard := taken (.recorded call) (by simp [recording?, sound, outcome])
          rw [emit_silenced heard, emit_eq, heard]
          rfl
      | duplicate | filtered => rfl

end Silenced

end World

namespace Action

def Taken (action : Action σ β) (t : Thread) (world : World σ) : Prop :=
  ∀ event, action.event? world = some event → world.panicOn t event = none

theorem Taken.silenced {action : Action σ β} {t : Thread} {world : World σ} (taken : action.Taken t world) :
    action.perform t world.silenced =
      ((action.perform t world).1, (action.perform t world).2.1, (action.perform t world).2.2.silenced) := by
  cases action with
  | emit event => simp only [perform, World.emit_silenced (taken event rfl)]
  | record name call => simp only [perform, World.record_silenced taken]
  | consult hook call =>
      cases hook with
      | ledger name => simp only [perform, World.consult, World.record_silenced taken]
      | custom answer => rfl
  | install hook =>
      rcases world.hook_cases with broken | ⟨active, busy⟩ | idle
      · have broken' : world.silenced.hook.poisoned = true := broken
        simp only [perform, World.install_poisoned broken, World.install_poisoned broken']
      · have busy' : world.silenced.hook = { value := some active } := busy
        simp only [perform, World.install_active busy, World.install_active busy']
      · have idle' : world.silenced.hook = { value := none } := idle
        have heard := taken .scopeEntered (by simp [event?, idle])
        simp only [perform, World.install_vacant idle, heard, World.install_idle world.silenced_silent idle']
        rfl
  | uninstall =>
      have heard := taken .scopeExited rfl
      simp only [perform, World.uninstall_eq world, heard, World.uninstall_silent world.silenced_silent]
      rfl
  | warnOnce cache message =>
      -- Only a new message is logged, and by then the cache holds it.
      have same : world.silenced.caches = world.caches := rfl
      simp only [perform, World.warnOnce, same]
      cases known : (world.caches cache).hasWarned message with
      | true => rfl
      | false =>
          have heard : (world.setCache cache ((world.caches cache).warn message)).panicOn t
              (.fallback message) = none := taken (.fallback message) (by simp [event?, known])
          have emitted := World.emit_silenced heard
          change World.emit (world.silenced.setCache _ _) t _ = _ at emitted
          simp only [Bool.false_eq_true, ↓reduceIte, emitted]
  | resetLedger name filter =>
      have same : world.silenced.ledgers = world.ledgers := rfl
      simp only [perform, World.resetLedger, same]
      split <;> rfl
  | thread | mute | unmute | installedHook | isTracing | readLedger | updateCache | lockSession
  | unlockSession | spawn | client => rfl

end Action

def World.poisons (world : World σ) : Bool × (String → Bool) :=
  (world.hook.poisoned, fun name => (world.ledgers name).poisoned)

/-- Where the log takes every event, no lock is poisoned, and none is mended. -/
theorem Action.perform_poisons (action : Action σ β) (t : Thread) {world : World σ} (silent : world.Silent) :
    (action.perform t world).2.2.poisons = world.poisons := by
  have ledgers : ∀ name, ((action.perform t world).2.2.ledgers name).poisoned =
      (world.ledgers name).poisoned := by
    intro name
    cases action with
    | consult hook call => exact World.consult_poisoned silent t hook call name
    | record other call => exact World.record_poisoned silent t other name call
    | resetLedger other filter => exact world.resetLedger_poisoned other name filter
    | _ => exact congrArg Guarded.poisoned (Action.apart_frame rfl rfl t world)
  have slot : (action.perform t world).2.2.hook.poisoned = world.hook.poisoned := by
    cases action with
    | install hook =>
        rcases world.hook_cases with broken | ⟨active, busy⟩ | idle
        · simp only [perform, World.install_poisoned broken]
        · simp only [perform, World.install_active busy]
        · simp only [perform, World.install_idle silent idle, idle]
          rfl
    | uninstall =>
        simp only [perform, World.uninstall_silent silent]
        rfl
    | _ => exact congrArg Guarded.poisoned (Action.perform_hook rfl t world)
  rw [World.poisons, World.poisons, slot]
  exact congrArg _ (funext ledgers)

namespace Moment

variable {moment : Moment σ}

theorem after_poisons (taken : moment.action.Taken moment.thread moment.world) :
    moment.after.poisons = moment.world.poisons := by
  have same := moment.action.perform_poisons moment.thread moment.world.silenced_silent
  rw [taken.silenced] at same
  exact same

theorem after_quiet (quiet : moment.world.Quiet) : moment.after.Quiet := by
  intro more event
  have sink : moment.after.sink = moment.world.sink := (moment.action.perform_frame _ _).1
  rw [sink, after_log, List.append_assoc]
  exact quiet _ event

theorem taken_iff : moment.action.Taken moment.thread moment.world ↔ moment.alarm? = none :=
  Option.bind_eq_none_iff.symm

theorem grows (untaken : ¬ moment.action.Taken moment.thread moment.world) :
    moment.world.log.length < moment.after.log.length := by
  simp only [Action.Taken, not_forall] at untaken
  obtain ⟨event, tells, panics⟩ := untaken
  have hears : moment.world.hears moment.thread = true := by
    rw [← Bool.not_eq_false]
    intro unheard
    rw [World.panicOn, unheard] at panics
    exact panics rfl
  rw [after_log, said, if_pos hears, tells]
  simp

end Moment

namespace Follows

variable {first last : World σ} {history : List (Moment σ)}

theorem quiet (follows : Follows first history last) (quiet : first.Quiet) : last.Quiet :=
  follows.keeps (fun _ _ => Moment.after_quiet) quiet

theorem taken_of_quiet (follows : Follows first history last) (silenced : first.Quiet) :
    ∀ moment ∈ history, moment.action.Taken moment.thread moment.world := by
  induction follows with
  | nil => exact fun _ none => nomatch none
  | cons moment later ih =>
      intro other member
      rcases List.mem_cons.mp member with rfl | member
      · exact fun event _ => silenced.taken _ event
      · exact ih (Moment.after_quiet silenced) other member

theorem split {left right : List (Moment σ)} {moment : Moment σ}
    (follows : Follows first (left ++ moment :: right) last) :
    Follows first left moment.world ∧ Follows moment.after right last := by
  induction left generalizing first with
  | nil =>
      cases follows with
      | cons moment later => exact ⟨.nil _, later⟩
  | cons other rest ih =>
      cases follows with
      | cons other later =>
          obtain ⟨before, after⟩ := ih later
          exact ⟨.cons other before, after⟩

theorem sink (follows : Follows first history last) : last.sink = first.sink := by
  let kept (world : World σ) := world.sink = first.sink
  have each : ∀ moment ∈ history, kept moment.world → kept moment.after :=
    fun moment _ same => (moment.action.perform_frame _ _).1.trans same
  exact follows.keeps each rfl

theorem grown (follows : Follows first history last) : first.log.length ≤ last.log.length := by
  rw [follows.log, List.length_append]
  omega

theorem poisons (follows : Follows first history last)
    (taken : ∀ moment ∈ history, moment.action.Taken moment.thread moment.world) :
    last.poisons = first.poisons := by
  let kept (world : World σ) := world.poisons = first.poisons
  have each : ∀ moment ∈ history, kept moment.world → kept moment.after :=
    fun moment member same => (Moment.after_poisons (taken moment member)).trans same
  exact follows.keeps each rfl

end Follows

/-- In the history the sink panics nowhere but where the log stands as it does at the moment, and it panics
on nothing from then on, whatever it is told. -/
structure PanicsOnce (history : List (Moment σ)) (moment : Moment σ) : Prop where
  only : ∀ other ∈ history, other.alarm? ≠ none → other.world.log = moment.world.log
  later : moment.after.Quiet

theorem PanicsOnce.taken {first last : World σ} {history part : List (Moment σ)} {moment : Moment σ}
    (once : PanicsOnce history moment) (follows : Follows first part last)
    (within : ∀ other ∈ part, other ∈ history) (early : last.log.length ≤ moment.world.log.length) :
    ∀ other ∈ part, other.action.Taken other.thread other.world := by
  intro other member
  by_contra untaken
  have there := once.only other (within other member) fun taken => untaken (Moment.taken_iff.mpr taken)
  obtain ⟨left, right, rfl⟩ := List.append_of_mem member
  -- The log has grown past the place of the panic.
  have beyond := Nat.lt_of_lt_of_le (Moment.grows untaken) follows.split.2.grown
  rw [there] at beyond
  exact absurd early (Nat.not_le.mpr beyond)

/-- A sink that panics at one place of the log only does so once, since the log has grown by then. -/
theorem Code.panicsOnce {code : Code σ α} {t : Thread} {world : World σ} {moment : Moment σ}
    (member : moment ∈ code.history t world)
    (untaken : ¬ moment.action.Taken moment.thread moment.world)
    (place : ∀ past event, world.sink past event ≠ none → past = moment.world.log) :
    PanicsOnce (code.history t world) moment := by
  have sink : ∀ other ∈ code.history t world, other.world.sink = world.sink := fun other inside =>
    (Code.follows_moment other inside).elim fun _ follows => follows.sink
  constructor
  · intro other inside panics
    obtain ⟨panic, panics⟩ := Option.ne_none_iff_exists'.mp panics
    obtain ⟨event, -, panics⟩ := Option.bind_eq_some_iff.mp panics
    refine place _ event fun taken => ?_
    rw [World.panicOn, sink other inside, taken, ite_self] at panics
    cases panics
  · intro more event
    by_contra panics
    have same : moment.after.sink = world.sink :=
      (moment.action.perform_frame _ _).1.trans (sink moment member)
    rw [same] at panics
    have length := congrArg List.length (place _ _ panics)
    have beyond := Moment.grows untaken
    rw [List.length_append] at length
    omega

/-- Code whose events the sink takes runs as it does with a sink that never panics. -/
theorem Code.exec_silenced {code : Code σ α} {t : Thread} {world : World σ}
    (taken : ∀ moment ∈ code.history t world, moment.action.Taken moment.thread moment.world) :
    code.exec t world.silenced =
      (code.exec t world).map fun ended => (ended.1, ended.2.1, ended.2.2.silenced) := by
  induction code generalizing t world with
  | ret value => rfl
  | act action next ih =>
      have ready : action.ready world.silenced = action.ready world := by
        cases action <;> rfl
      simp only [history] at taken
      simp only [exec, ready]
      split
      · rename_i enabled
        rw [if_pos enabled] at taken
        have now : action.Taken t world := taken _ List.mem_cons_self
        rw [now.silenced]
        exact ih _ fun moment member => taken moment (List.mem_cons_of_mem _ member)
      · rfl
  | fork thread body next inner ih =>
      simp only [history] at taken
      have within := inner fun moment member => taken moment (List.mem_append_left _ member)
      simp only [exec, within]
      cases ran : body.exec { thread with caller := t.caller } world with
      | none => rfl
      | some ended =>
          refine ih _ fun moment member => taken moment (List.mem_append_right _ ?_)
          rw [ran]
          exact member

namespace World.Quiet

variable {world : World σ}

theorem history_taken (quiet : world.Quiet) (code : Code σ α) (t : Thread) :
    ∀ moment ∈ code.history t world, moment.action.Taken moment.thread moment.world := by
  intro moment member event _
  obtain ⟨before, follows⟩ := Code.follows_moment moment member
  exact (follows.quiet quiet).taken _ event

theorem exec_silenced (quiet : world.Quiet) (code : Code σ α) (t : Thread) :
    code.exec t world.silenced =
      (code.exec t world).map fun ended => (ended.1, ended.2.1, ended.2.2.silenced) :=
  Code.exec_silenced (quiet.history_taken code t)

end World.Quiet

/-! ### The panic -/

theorem World.record_panics {world : World σ} {t : Thread} {name : String} {call : Invocation} {panic : Panic}
    (panics : (world.record t name call).1 = .error (.panic panic)) :
    world.panicOn t (.recorded call) = some panic ∧ (world.record t name call).2 =
      (world.logged t (.recorded call)).setLedger name { world.ledgers name with poisoned := true } := by
  cases sound : (world.ledgers name).poisoned with
  | true =>
      rw [record_broken sound] at panics
      cases panics
  | false =>
      simp only [record, sound, Bool.false_eq_true, ↓reduceIte, emit_eq] at panics ⊢
      cases outcome : (world.ledgers name).value.outcome call with
      | duplicate | filtered =>
          rw [outcome] at panics
          cases panics
      | recorded =>
          rw [outcome] at panics
          cases heard : world.panicOn t (.recorded call) with
          | none =>
              rw [heard] at panics
              cases panics
          | some found =>
              rw [heard] at panics
              cases panics
              exact ⟨rfl, rfl⟩

/-- The sink panics when the ledger tells it of the invocation, while the ledger is locked. -/
structure Moment.Breaks (moment : Moment σ) (name : String) (call : Invocation) (panic : Panic) : Prop where
  submits : moment.action.submitted? name = some call
  panics : (moment.world.record moment.thread name call).1 = .error (.panic panic)

namespace Moment.Breaks

variable {moment : Moment σ} {name : String} {call : Invocation} {panic : Panic}
  (breaks : moment.Breaks name call panic)

include breaks

theorem after_eq : moment.after = (moment.world.logged moment.thread (.recorded call)).setLedger name
    { moment.world.ledgers name with poisoned := true } := by
  rw [after_submitted breaks.submits]
  exact (World.record_panics breaks.panics).2

theorem untaken : ¬ moment.action.Taken moment.thread moment.world := by
  intro taken
  have kept := congrFun (congrArg Prod.snd (after_poisons taken)) name
  have broken : (moment.after.ledgers name).poisoned = true := by
    rw [breaks.after_eq]
    simp [World.setLedger]
  have refused := breaks.panics
  rw [World.record_broken (kept.symm.trans broken)] at refused
  cases refused

end Moment.Breaks

/-- A panic under the lock of a ledger poisons that ledger and no other lock, and nothing panics later. -/
theorem Follows.broken {first last : World σ} {history : List (Moment σ)}
    (follows : Follows first history last) {moment : Moment σ} (member : moment ∈ history) {name : String}
    {call : Invocation} {panic : Panic} (breaks : moment.Breaks name call panic)
    (once : PanicsOnce history moment) :
    last.Quiet ∧ last.hook.poisoned = first.hook.poisoned ∧ (last.ledgers name).poisoned = true ∧
      ∀ ledger, ledger ≠ name → (last.ledgers ledger).poisoned = (first.ledgers ledger).poisoned := by
  have quiet := once.later
  obtain ⟨left, right, rfl⟩ := List.append_of_mem member
  obtain ⟨before, later⟩ := follows.split
  have poisons := before.poisons
    (once.taken before (fun _ early => List.mem_append_left _ early) Nat.le.refl)
  have after := later.poisons (later.taken_of_quiet quiet)
  have ledgers (ledger : String) :
      (last.ledgers ledger).poisoned = (moment.after.ledgers ledger).poisoned :=
    congrFun (congrArg Prod.snd after) ledger
  refine ⟨later.quiet quiet, ?_, ?_, ?_⟩
  · have slot : moment.after.hook = moment.world.hook := by
      rw [breaks.after_eq]
      rfl
    exact (congrArg Prod.fst after).trans ((congrArg Guarded.poisoned slot).trans (congrArg Prod.fst poisons))
  · rw [ledgers name, breaks.after_eq]
    simp [World.setLedger]
  · intro ledger other
    rw [ledgers ledger, breaks.after_eq]
    have apart : ((moment.world.logged moment.thread (.recorded call)).setLedger name
        { moment.world.ledgers name with poisoned := true }).ledgers ledger = moment.world.ledgers ledger :=
      if_neg other
    rw [apart]
    exact congrFun (congrArg Prod.snd poisons) ledger

/-! ### A poisoned ledger -/

/-- Whatever the threads of a process do, a poisoned ledger stays so. -/
theorem Follows.stays_broken {first last : World σ} {history : List (Moment σ)}
    (follows : Follows first history last) {name : String} (broken : (first.ledgers name).poisoned = true) :
    (last.ledgers name).poisoned = true := by
  let kept (world : World σ) := (world.ledgers name).poisoned = true
  have each : ∀ moment ∈ history, kept moment.world → kept moment.after := fun _ _ => Moment.after_poisoned
  exact follows.keeps each broken

def World.Rejects (world : World σ) (routine : Routine σ α) : Prop :=
  ∀ t, routine.run.exec t world = some (.error (.failure .ledgerPoisoned), t, world)

theorem World.Rejects.bind {world : World σ} {routine : Routine σ α} (rejects : world.Rejects routine)
    (rest : α → Routine σ β) : world.Rejects (routine >>= rest) := by
  intro t
  rw [Routine.exec_bind, rejects t]
  rfl

/-- What is asked of the ledger is refused, on any thread and in any way, and changes nothing. -/
structure World.Refuses (world : World σ) (name : String) : Prop where
  record : ∀ call, world.Rejects (.attempt (.record name call))
  onDispatch : ∀ call, world.Rejects (.attempt (.consult (.ledger name) call))
  dispatch : world.hook = { value := some (.ledger name) } → ∀ call, world.Rejects (.dispatch call)
  reset : ∀ filter, world.Rejects (.failing (.resetLedger name filter))
  drain : world.Rejects (.drain name)
  size : world.Rejects (.size name)
  isEmpty : world.Rejects (.isEmpty name)
  accepts : ∀ operator, world.Rejects (.accepts name operator)

theorem World.refuses {world : World σ} {name : String} (broken : (world.ledgers name).poisoned = true) :
    world.Refuses name := by
  have reading : world.Rejects (.failing (.readLedger name)) := by
    intro t
    rw [Routine.exec_failing _ rfl]
    simp only [Action.perform, World.readLedger, broken, ↓reduceIte, Routine.mapError_error]
  have asking (call : Invocation) : world.Rejects (.attempt (.consult (.ledger name) call)) := by
    intro t
    rw [Routine.exec_attempt _ rfl]
    simp only [Action.perform, World.consult, World.record_broken broken]
    rfl
  have size : world.Rejects (.size name) := reading.bind _
  constructor
  case record =>
    intro call t
    rw [Routine.exec_attempt _ rfl]
    simp only [Action.perform, World.record_broken broken]
  case onDispatch => exact asking
  case dispatch =>
    intro slot call t
    have found : world.installedHook = .ok (some (.ledger name)) := by simp [World.installedHook, slot]
    have refused := asking call t
    rw [Routine.exec_attempt _ rfl] at refused
    rw [Routine.exec_dispatch, found]
    exact refused
  case reset =>
    intro filter t
    rw [Routine.exec_failing _ rfl]
    simp only [Action.perform, World.resetLedger, broken, ↓reduceIte, Routine.mapError_error]
  case drain => exact reading.bind _
  case size => exact size
  case isEmpty => exact size.bind _
  case accepts => exact fun operator => reading.bind _

theorem Extractor.traced_broken {Program : Type u} {Params : Type v} (extractor : Extractor σ Program Params)
    (pair : TargetPair) (work : List (Program × Params)) (filter : Option Filter) (t : Thread)
    {world : World σ} (free : world.session = none)
    (broken : (world.ledgers extractor.ledger).poisoned = true) :
    (extractor.traced pair work filter).run.exec t world =
        some (.error (.failure .ledgerPoisoned), t, world) ∧
      (extractor.traced pair work filter).run.history t world =
        [⟨.lockSession, t, world⟩, ⟨.resetLedger extractor.ledger filter, t, world.locked t.caller⟩,
          ⟨.unlockSession, t, world.locked t.caller⟩] := by
  have locked : ((world.locked t.caller).ledgers extractor.ledger).poisoned = true := broken
  have reset := (World.refuses locked).reset filter t
  have unlocked : (world.locked t.caller).unlocked = world := by
    cases world
    cases free
    rfl
  constructor
  · rw [traced_eq, Routine.exec_exclusively free, tracing, Routine.exec_bind, reset]
    simp only [Option.bind_some, Routine.onward, Option.map_some, unlocked]
  · rw [traced_eq, Routine.history_exclusively free, tracing, Routine.exec_bind, reset, Routine.history_bind,
      reset]
    rfl

namespace Batch

variable {batch : Batch.{u} σ} {t : Thread} {world : World σ}

theorem history_report (paired : batch.programs.length = batch.params.length) (outside : t.inPass = false) :
    batch.report.run.history t world = ⟨.thread, t, world⟩ :: (batch.resolving.run.history t world ++
      (batch.resolving.run.exec t world).elim []
        (Routine.onwardHistory (batch.extractor.resolved batch.programs batch.params batch.filter))) := by
  have thread : (Routine.perform .thread : Routine σ Thread).run.history t world = [⟨.thread, t, world⟩] := rfl
  rw [report, Extractor.report_eq, if_neg (not_not_intro paired), Routine.history_bind,
    Routine.exec_perform _ rfl, thread]
  simp only [Action.perform, Option.elim_some, Routine.onwardHistory, outside, Bool.false_eq_true,
    ↓reduceIte, List.singleton_append, Routine.history_bind]
  rfl

theorem calls_broken (broken : (world.ledgers batch.extractor.ledger).poisoned = true) :
    batch.calls t world = [] := by
  apply calls_untraced
  intro pair caller resolved traces
  have still := (Code.follows_history traces.resolves).stays_broken broken
  rw [traces.sound] at still
  cases still

/-- The batch asks nothing of its pipeline. Once its target is resolved and the session lock is free, it takes
the lock, fails to empty its ledger and gives the lock back, and that is all it does. -/
structure TurnedAway (batch : Batch.{u} σ) (t : Thread) (world : World σ) : Prop where
  uncalled : batch.calls t world = []
  refused : ∀ pair caller resolved, batch.programs.length = batch.params.length → t.inPass = false →
    batch.resolving.run.exec t world = some (.ok pair, caller, resolved) → resolved.session = none →
      batch.report.run.exec t world = some (.error (.failure .ledgerPoisoned), caller, resolved) ∧
        batch.report.run.history t world = ⟨.thread, t, world⟩ :: (batch.resolving.run.history t world ++
          [⟨.lockSession, caller, resolved⟩,
            ⟨.resetLedger batch.extractor.ledger batch.filter, caller, resolved.locked caller.caller⟩,
            ⟨.unlockSession, caller, resolved.locked caller.caller⟩])

theorem turnedAway (broken : (world.ledgers batch.extractor.ledger).poisoned = true) :
    batch.TurnedAway t world := by
  refine ⟨calls_broken broken, ?_⟩
  intro pair caller resolved paired outside resolves free
  have still := (Code.follows_history resolves).stays_broken broken
  obtain ⟨traced, told⟩ := batch.extractor.traced_broken pair (batch.programs.zip batch.params) batch.filter
    caller free still
  constructor
  · rw [batch.exec_report paired outside, resolves, Option.bind_some, Routine.onward, Extractor.resolved,
      Routine.exec_bind, traced]
    rfl
  · rw [history_report paired outside, resolves, Option.elim_some, Routine.onwardHistory, Extractor.resolved,
      Routine.history_bind, told, traced]
    rfl

end Batch

end TuningTasks
