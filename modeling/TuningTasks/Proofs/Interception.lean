import TuningTasks.Proofs.Scopes

/-!
Runs of a whole process: scopes are made and dropped by hand, invocations are dispatched, and batches
are extracted, in any order and on any threads. After every such run the slot of the dispatch hook
says which scope is alive, and each next step does with it what a caller expects (`Site.Governed`).
-/
namespace TuningTasks

universe u
variable {σ α : Type}

/-- What a hook makes of an invocation, and what it leaves behind. A ledger traces whatever it does
not filter out; code of the caller answers for itself and keeps its own state. -/
inductive Hook.Handles (thread : Thread) (world : World σ) (invocation : Invocation) :
    Hook σ → Except Exit Decision → World σ → Prop
  | custom {answer : Invocation → σ → Except Exit Decision × σ} {decision : Except Exit Decision}
      {client : σ} (answered : answer invocation world.client = (decision, client)) :
      Handles thread world invocation (.custom answer) decision { world with client }
  | filtered {name : String} {last : World σ}
      (recorded : world.record thread name invocation = (.ok .filtered, last)) :
      Handles thread world invocation (.ledger name) (.ok .passThrough) last
  | traced {name : String} {outcome : RecordOutcome} {last : World σ}
      (recorded : world.record thread name invocation = (.ok outcome, last))
      (kept : outcome ≠ .filtered) :
      Handles thread world invocation (.ledger name) (.ok .traced) last
  | broken {name : String} {exit : Exit} {last : World σ}
      (recorded : world.record thread name invocation = (.error exit, last)) :
      Handles thread world invocation (.ledger name) (.error exit) last

theorem World.consult_eq_iff {world last : World σ} {thread : Thread} {hook : Hook σ}
    {invocation : Invocation} {answer : Except Exit Decision} :
    world.consult thread hook invocation = (answer, last) ↔
      hook.Handles thread world invocation answer last := by
  constructor
  · intro consulted
    cases hook with
    | custom code =>
        cases consulted
        exact .custom rfl
    | ledger name =>
        rw [consult] at consulted
        rcases recorded : world.record thread name invocation with ⟨exit | outcome, after⟩
        · rw [recorded] at consulted
          cases consulted
          exact .broken recorded
        · rw [recorded] at consulted
          cases consulted
          cases outcome with
          | filtered => exact .filtered recorded
          | recorded => exact .traced recorded (by decide)
          | duplicate => exact .traced recorded (by decide)
  · intro handled
    cases handled with
    | custom answered => simp only [consult, answered]
    | filtered recorded =>
        simp only [consult, recorded]
        rfl
    | @traced _ outcome _ recorded kept =>
        simp only [consult, recorded]
        cases outcome with
        | filtered => exact absurd rfl kept
        | recorded => rfl
        | duplicate => rfl
    | broken recorded =>
        simp only [consult, recorded]
        rfl

/-- A process between two steps: the shared state, the state of every thread, and the hooks of the
scopes that were made and not yet dropped, latest first. -/
structure Site (σ : Type) where
  world : World σ
  threads : Nat → Thread
  scopes : List (Hook σ) := []

namespace Site

def moved (site : Site σ) (who : Nat) (thread : Thread) (world : World σ) : Site σ :=
  { site with world, threads := fun other => if other = who then thread else site.threads other }

theorem moved_self (site : Site σ) (who : Nat) (world : World σ) :
    site.moved who (site.threads who) world = { site with world } := by
  have same : (fun other => if other = who then site.threads who else site.threads other) =
      site.threads := by
    funext other
    by_cases here : other = who
    · simp [here]
    · simp [here]
  simp only [moved, same]

def run (site : Site σ) (who : Nat) (routine : Routine σ α) : Option (Except Exit α × Site σ) :=
  (routine.run.exec (site.threads who) site.world).map fun ended =>
    (ended.1, site.moved who ended.2.1 ended.2.2)

def history (site : Site σ) (who : Nat) (routine : Routine σ α) : List (Moment σ) :=
  routine.run.history (site.threads who) site.world

def entering (hook : Hook σ) : Routine σ Unit := .attempt (.install hook)

def leaving : Routine σ Unit := .panicking (.perform .uninstall)

/-- One step of a run. Whoever was refused a scope has none to drop. -/
inductive Step : Site σ → Site σ → Prop
  | enter {site next : Site σ} (who : Nat) (hook : Hook σ)
      (entered : site.run who (entering hook) = some (.ok (), next)) :
      Step site { next with scopes := hook :: site.scopes }
  | refused {site next : Site σ} (who : Nat) (hook : Hook σ) {exit : Exit}
      (refused : site.run who (entering hook) = some (.error exit, next)) : Step site next
  | leave {site next : Site σ} (who : Nat) {index : Nat} (alive : index < site.scopes.length)
      {answer : Except Exit Unit} (left : site.run who leaving = some (answer, next)) :
      Step site { next with scopes := site.scopes.eraseIdx index }
  | dispatch {site next : Site σ} (who : Nat) (invocation : Invocation)
      {answer : Except Exit Decision}
      (answered : site.run who (.dispatch invocation) = some (answer, next)) : Step site next
  | extract {site next : Site σ} (who : Nat) (batch : Batch.{u} σ) (tidy : batch.extractor.Tidy true)
      {answer : Except Exit Report} (ended : site.run who batch.report = some (answer, next)) :
      Step site next

inductive Reached (start : Site σ) : Site σ → Prop
  | refl : Reached start start
  | step {site next : Site σ} (reached : Reached start site) (step : Step.{u} site next) :
      Reached start next

/-- No scope was made and the session lock is free; the sink is one that never panics. -/
structure Fresh (site : Site σ) : Prop where
  silent : site.world.Silent
  hook : site.world.hook = { value := none }
  session : site.world.session = none
  scopes : site.scopes = []

def initial (client : σ) : Site σ where
  world := .initial client
  threads _ := {}

theorem fresh_initial (client : σ) : (initial client).Fresh where
  silent _ _ := rfl
  hook := rfl
  session := rfl
  scopes := rfl

structure Sound (site : Site σ) : Prop where
  silent : site.world.Silent
  hook : site.world.hook = { value := site.scopes.head? }
  single : site.scopes.length ≤ 1
  session : site.world.session = none

structure Returned (site next : Site σ) : Prop where
  hook : next.world.hook = site.world.hook
  unpoisoned : next.world.hook.poisoned = false
  threads : next.threads = site.threads
  guards : next.world.guards = site.world.guards
  scopes : next.scopes = site.scopes
  free : (Action.lockSession : Action σ Unit).ready next.world = true

theorem Fresh.sound {site : Site σ} (fresh : site.Fresh) : site.Sound where
  silent := fresh.silent
  hook := by rw [fresh.hook, fresh.scopes]; rfl
  single := by simp [fresh.scopes]
  session := fresh.session

namespace Sound

variable {site next : Site σ}

theorem scopes_cases (sound : site.Sound) : site.scopes = [] ∨ ∃ hook, site.scopes = [hook] := by
  have single := sound.single
  match site.scopes, single with
  | [], _ => exact Or.inl rfl
  | [hook], _ => exact Or.inr ⟨hook, rfl⟩

theorem idle (sound : site.Sound) (vacant : site.scopes = []) :
    site.world.hook = { value := none } := by
  rw [sound.hook, vacant]
  rfl

theorem busy (sound : site.Sound) {active : Hook σ} (taken : site.scopes = [active]) :
    site.world.hook = { value := some active } := by
  rw [sound.hook, taken]
  rfl

theorem slot_iff (sound : site.Sound) (hook : Hook σ) :
    site.world.hook.value = some hook ↔ site.scopes = [hook] := by
  rcases sound.scopes_cases with vacant | ⟨active, taken⟩
  · simp [sound.idle vacant, vacant]
  · simp [sound.busy taken, taken]

theorem run_entering (sound : site.Sound) (vacant : site.scopes = []) (who : Nat)
    (hook : Hook σ) :
    site.run who (entering hook) =
      some (.ok (), { site with world := site.world.installed (site.threads who) hook }) := by
  have entered : (Action.install hook).perform (site.threads who) site.world =
      (.ok (), site.threads who, site.world.installed (site.threads who) hook) := by
    simp only [Action.perform, World.install_idle sound.silent (sound.idle vacant)]
  rw [run, entering, Routine.exec_attempt _ rfl, entered, Option.map_some, moved_self]

theorem run_entering_refused (sound : site.Sound) (taken : site.scopes ≠ []) (who : Nat)
    (hook : Hook σ) :
    site.run who (entering hook) = some (.error (.failure .scopeActive), site) := by
  obtain ⟨active, alive⟩ := sound.scopes_cases.resolve_left taken
  have refused : (Action.install hook).perform (site.threads who) site.world =
      (.error (.failure .scopeActive), site.threads who, site.world) := by
    simp only [Action.perform, World.install_active (sound.busy alive)]
  rw [run, entering, Routine.exec_attempt _ rfl, refused, Option.map_some, moved_self]

theorem run_leaving (sound : site.Sound) (who : Nat) :
    site.run who leaving =
      some (.ok (), { site with world := site.world.uninstalled (site.threads who) }) := by
  have left : (Action.uninstall : Action σ (Except Panic Unit)).perform (site.threads who) site.world =
      (.ok (), site.threads who, site.world.uninstalled (site.threads who)) := by
    simp only [Action.perform, World.uninstall_silent sound.silent]
  rw [run, leaving, Routine.exec_panicking, Code.exec_perform _ rfl, left]
  simp only [Option.map_some, moved_self]
  rfl

theorem run_dispatch_idle (sound : site.Sound) (vacant : site.scopes = []) (who : Nat)
    (invocation : Invocation) :
    site.run who (.dispatch invocation) = some (.ok .passThrough, site) := by
  have found : site.world.installedHook = .ok none := by
    simp [World.installedHook, sound.idle vacant]
  rw [run, Routine.exec_dispatch, found]
  simp only [Option.map_some, moved_self]

theorem run_dispatch (sound : site.Sound) {active : Hook σ} (taken : site.scopes = [active])
    (who : Nat) (invocation : Invocation) :
    site.run who (.dispatch invocation) =
      some ((site.world.consult (site.threads who) active invocation).1,
        { site with
          world := (site.world.consult (site.threads who) active invocation).2 }) := by
  have found : site.world.installedHook = .ok (some active) := by
    simp [World.installedHook, sound.busy taken]
  rw [run, Routine.exec_dispatch, found]
  simp only [Option.map_some, moved_self]

theorem asked_dispatch (sound : site.Sound) {active : Hook σ} (taken : site.scopes = [active])
    (who : Nat) (invocation : Invocation) :
    (site.history who (.dispatch invocation)).filterMap (fun moment => moment.action.asked?) =
      [(active, invocation)] := by
  have found : site.world.installedHook = .ok (some active) := by
    simp [World.installedHook, sound.busy taken]
  rw [history, Routine.history_dispatch, found]
  rfl

theorem tidy_returned (sound : site.Sound) {who : Nat} {routine : Routine σ α}
    (tidy : routine.run.Tidy true) {answer : Except Exit α}
    (ended : site.run who routine = some (answer, next)) : site.Returned next := by
  rw [run, Option.map_eq_some_iff] at ended
  obtain ⟨⟨result, thread, last⟩, ran, same⟩ := ended
  cases same
  have restored := tidy.restores sound.silent ran
  have threads : (site.moved who thread last).threads = site.threads := by
    rw [restored.thread, moved_self]
  have unpoisoned : last.hook.poisoned = false := by rw [restored.hook, sound.hook]
  have free : (Action.lockSession : Action σ Unit).ready last = true := by
    simp [Action.ready, restored.session, sound.session]
  exact ⟨restored.hook, unpoisoned, threads, restored.guards, rfl, free⟩

theorem tidy_sound (sound : site.Sound) {who : Nat} {routine : Routine σ α}
    (tidy : routine.run.Tidy true) {answer : Except Exit α}
    (ended : site.run who routine = some (answer, next)) : next.Sound := by
  have returned := sound.tidy_returned tidy ended
  rw [run, Option.map_eq_some_iff] at ended
  obtain ⟨⟨result, thread, last⟩, ran, same⟩ := ended
  cases same
  have restored := tidy.restores sound.silent ran
  exact ⟨Code.exec_silent ran sound.silent, returned.hook.trans sound.hook, sound.single,
    restored.session.trans sound.session⟩

end Sound

/-! ### Steps and runs -/

theorem Step.sound {site next : Site σ} (step : Step.{u} site next) (sound : site.Sound) :
    next.Sound := by
  -- Whether a scope can be entered is decided by the invariant, so half of the answers never come.
  cases step with
  | enter who hook entered =>
      rcases sound.scopes_cases with vacant | ⟨active, taken⟩
      · rw [sound.run_entering vacant] at entered
        cases entered
        rw [vacant]
        exact ⟨sound.silent.installed _ hook, rfl, Nat.le.refl, sound.session⟩
      · rw [sound.run_entering_refused (by simp [taken])] at entered
        cases entered
  | refused who hook refused =>
      rcases sound.scopes_cases with vacant | ⟨active, taken⟩
      · rw [sound.run_entering vacant] at refused
        cases refused
      · rw [sound.run_entering_refused (by simp [taken])] at refused
        cases refused
        exact sound
  | @leave _ who index alive answer left =>
      rw [sound.run_leaving] at left
      cases left
      rcases sound.scopes_cases with vacant | ⟨active, taken⟩
      · simp [vacant] at alive
      · -- The scope that is dropped is the one that is alive.
        have first : index = 0 := by
          rw [taken, List.length_singleton] at alive
          omega
        have slot : (site.world.uninstalled (site.threads who)).hook = { value := none } := by
          change ({ site.world.hook with value := none } : Guarded _) = _
          rw [sound.hook]
        rw [first, taken]
        exact ⟨sound.silent.uninstalled _, slot, Nat.zero_le 1, sound.session⟩
  | dispatch who invocation answered =>
      exact sound.tidy_sound (Routine.tidy_dispatch invocation) answered
  | extract who batch tidy ended => exact sound.tidy_sound (Batch.tidy_report tidy) ended

theorem Reached.sound {start site : Site σ} (reached : Reached.{u} start site)
    (fresh : start.Fresh) : site.Sound := by
  induction reached with
  | refl => exact fresh.sound
  | step _ step ih => exact step.sound ih

/-- The slot tells which scope is alive, and every possible next step goes by it. -/
structure Governed (site : Site σ) : Prop where
  slot : ∀ hook, site.world.hook.value = some hook ↔ site.scopes = [hook]
  single : site.scopes.length ≤ 1
  unpoisoned : site.world.hook.poisoned = false
  enters : ∀ who hook, site.scopes = [] → ∃ next,
    site.run who (entering hook) = some (.ok (), next) ∧ next.world.hook = { value := some hook }
  refuses : ∀ who hook, site.scopes ≠ [] →
    site.run who (entering hook) = some (.error (.failure .scopeActive), site)
  passes : ∀ who invocation, site.scopes = [] →
    site.run who (.dispatch invocation) = some (.ok .passThrough, site)
  routes : ∀ who invocation hook, site.scopes = [hook] → ∃ answer last,
    site.run who (.dispatch invocation) = some (answer, { site with world := last }) ∧
      hook.Handles (site.threads who) site.world invocation answer last ∧
      (site.history who (.dispatch invocation)).filterMap (fun moment => moment.action.asked?) =
        [(hook, invocation)]
  returns : ∀ who (batch : Batch.{u} σ) answer next, batch.extractor.Tidy true →
    site.run who batch.report = some (answer, next) → site.Returned next
  faithful : ∀ who (batch : Batch.{u} σ), batch.extractor.Tidy true →
    Faithful site.scopes (site.history who batch.report)
  ends : ∀ who (batch : Batch.{u} σ), batch.extractor.Tidy false →
    ∃ answer next, site.run who batch.report = some (answer, next)

/-- Whatever a process did, the slot holds the hook of the one scope that is alive, if there is one. -/
theorem Reached.governed {start site : Site σ} (fresh : start.Fresh)
    (reached : Reached.{u} start site) : Governed.{u} site := by
  have sound := reached.sound fresh
  constructor
  case slot => exact sound.slot_iff
  case single => exact sound.single
  case unpoisoned => rw [sound.hook]
  case enters => exact fun who hook vacant => ⟨_, sound.run_entering vacant who hook, rfl⟩
  case refuses => exact fun who hook taken => sound.run_entering_refused taken who hook
  case passes => exact fun who invocation vacant => sound.run_dispatch_idle vacant who invocation
  case routes =>
    intro who invocation hook taken
    exact ⟨_, _, sound.run_dispatch taken who invocation, World.consult_eq_iff.mp rfl,
      sound.asked_dispatch taken who invocation⟩
  case returns =>
    intro who batch answer next tidy ended
    exact sound.tidy_returned (Batch.tidy_report tidy) ended
  case faithful =>
    intro who batch tidy
    exact ((Batch.tidy_report tidy).keepsScopes _ sound.silent sound.hook sound.single).faithful
  case ends =>
    intro who batch tidy
    obtain ⟨ended, ran⟩ := tidy.report_ends batch.programs batch.params batch.filter batch.target
      batch.host (site.threads who) sound.silent sound.session
    exact ⟨_, _, congrArg (Option.map _) ran⟩

def counting (operator : String) : Hook Nat :=
  .custom fun invocation asked =>
    (.ok (if invocation.operator = operator then .traced else .passThrough), asked + 1)

/-- A batch that records one invocation, a scope made by hand for a hook that counts, and a dispatch
from another thread. -/
theorem governed_after_replay : ∃ site : Site Nat, Reached.{0} (initial 0) site ∧
    site.scopes = [counting "dense"] ∧ Governed.{0} site ∧
    site.run 1 (.dispatch ⟨"dense", ⟨[.int 1]⟩⟩) =
      some (.ok .traced, { site with world := { site.world with client := site.world.client + 1 } }) := by
  let batch : Batch Nat := .replay "global" [[⟨"dense", ⟨[.int 1]⟩⟩]] none
  have tidy (waits : Bool) : batch.extractor.Tidy waits := Batch.replay_tidy _ _ _
  have first := Reached.governed (fresh_initial 0) .refl
  obtain ⟨answer, next, ended⟩ := first.ends 0 batch (tidy false)
  have after : Reached.{0} (initial 0) next := .step .refl (.extract 0 batch (tidy true) ended)
  have returned := first.returns 0 batch answer next (tidy true) ended
  obtain ⟨_, entered, _⟩ :=
    (Reached.governed (fresh_initial 0) after).enters 0 (counting "dense") returned.scopes
  have inside := Reached.step after (.enter 0 (counting "dense") entered)
  have scopes : counting "dense" :: next.scopes = [counting "dense"] := by rw [returned.scopes]; rfl
  have governed := Reached.governed (fresh_initial 0) inside
  obtain ⟨_, _, dispatched, handled, _⟩ := governed.routes 1 ⟨"dense", ⟨[.int 1]⟩⟩ _ scopes
  cases handled with
  | custom answered =>
      cases answered
      exact ⟨_, inside, scopes, governed, dispatched⟩

end Site

end TuningTasks
