import TuningTasks.Proofs.Ownership
import TuningTasks.Proofs.Tracing

/-!
Scopes and a log whose sink panics. Both ends of a scope are logged behind the lock of the slot, so a
panic there poisons the lock, and nothing else does; no scope is made or asked from then on, and those
that were made can still be dropped. Until then the slot holds the hook of the one scope that is alive
(`Follows.withstood`).
-/
namespace TuningTasks

universe u
variable {σ α β : Type} {waits : Bool}

namespace World

def broken (world : World σ) : World σ := { world with hook := { world.hook with poisoned := true } }

theorem install_vacant {world : World σ} (vacant : world.hook = { value := none }) (t : Thread)
    (hook : Hook σ) :
    world.install t hook = match world.panicOn t .scopeEntered with
      | none => (.ok (), world.installed t hook)
      | some panic => (.error (.panic panic), (world.installed t hook).broken) := by
  have same : ({ world with hook := { value := some hook } } : World σ).panicOn t .scopeEntered =
      world.panicOn t .scopeEntered := rfl
  simp only [install, vacant, Bool.false_eq_true, ↓reduceIte, Option.isSome_none, emit_eq, same]
  cases world.panicOn t .scopeEntered <;> rfl

theorem install_error {world : World σ} {t : Thread} {hook : Hook σ} {exit : Exit}
    (unentered : (world.install t hook).1 = .error exit) :
    (world.install t hook).2 = world ∨
      ∃ panic, world.panicOn t .scopeEntered = some panic ∧ exit = .panic panic := by
  cases slot : world.hook with
  | mk value poisoned =>
      cases poisoned with
      | true => exact Or.inl (by rw [install_poisoned (by rw [slot])])
      | false =>
          cases value with
          | some active => exact Or.inl (by rw [install_active slot])
          | none =>
              rw [install_vacant slot] at unentered
              cases heard : world.panicOn t .scopeEntered with
              | none =>
                  rw [heard] at unentered
                  cases unentered
              | some panic =>
                  rw [heard] at unentered
                  cases unentered
                  exact Or.inr ⟨panic, rfl, rfl⟩

theorem uninstall_eq (world : World σ) (t : Thread) :
    world.uninstall t = match world.panicOn t .scopeExited with
      | none => (.ok (), world.uninstalled t)
      | some panic => (.error panic, (world.uninstalled t).broken) := by
  have same : ({ world with hook := { world.hook with value := none } } : World σ).panicOn t
      .scopeExited = world.panicOn t .scopeExited := rfl
  simp only [uninstall, emit_eq, same]
  cases world.panicOn t .scopeExited <;> rfl

theorem uninstall_value (world : World σ) (t : Thread) : (world.uninstall t).2.hook.value = none := by
  rw [uninstall_eq]
  cases world.panicOn t .scopeExited <;> rfl

end World

/-! ### Panics at the ends of a scope -/

namespace Action

def startPanics (action : Action σ β) (t : Thread) (world : World σ) : Bool :=
  match action with
  | .install hook => ((world.install t hook).1 matches .error (.panic _))
  | _ => false

def endPanics (action : Action σ β) (t : Thread) (world : World σ) : Bool :=
  match action with
  | .uninstall => ((world.uninstall t).1 matches .error _)
  | _ => false

def shaken (action : Action σ β) (t : Thread) (world : World σ) : Bool :=
  action.startPanics t world || action.endPanics t world

end Action

namespace Moment

def startPanics (moment : Moment σ) : Bool := moment.action.startPanics moment.thread moment.world

def shaken (moment : Moment σ) : Bool := moment.action.shaken moment.thread moment.world

end Moment

/-- What the slot and its lock say, by the scopes alive and the panics so far: `unstarted` tells of one
on the start of a scope, `shaken` of one on a start or an end. -/
structure Stands (alive : List (Hook σ)) (unstarted shaken : Bool) (world : World σ) : Prop where
  single : alive.length ≤ 1
  poisoned : world.hook.poisoned = shaken
  within : unstarted = true → shaken = true
  ended : shaken = true → alive = []
  slot : unstarted = false → world.hook.value = alive.head?

namespace Stands

variable {alive : List (Hook σ)} {unstarted shaken : Bool} {world : World σ}

theorem unshaken (stands : Stands alive unstarted false world) : unstarted = false := by
  cases unstarted with
  | false => rfl
  | true => cases stands.within rfl

theorem hook (stands : Stands alive unstarted false world) : world.hook = { value := alive.head? } := by
  have value := stands.slot stands.unshaken
  have sound := stands.poisoned
  cases holds : world.hook
  rw [holds] at value sound
  cases value
  cases sound
  rfl

theorem of_sound (single : alive.length ≤ 1) (hook : world.hook = { value := alive.head? }) :
    Stands alive false false world := by
  refine ⟨single, ?_, nofun, nofun, fun _ => ?_⟩
  · rw [hook]
  · rw [hook]

theorem unstart (broken : world.hook.poisoned = true) : Stands [] true true world :=
  ⟨Nat.zero_le 1, broken, fun _ => rfl, fun _ => rfl, fun started => nomatch started⟩

theorem unended (broken : world.hook.poisoned = true) (empty : world.hook.value = none) :
    Stands [] false true world :=
  ⟨Nat.zero_le 1, broken, fun _ => rfl, fun _ => rfl, fun _ => empty⟩

theorem of_unpoisoned (sound : world.hook.poisoned = false) :
    Stands world.hook.value.toList false false world := by
  cases slot : world.hook with
  | mk value poisoned =>
      rw [slot] at sound
      cases sound
      cases value with
      | none => exact of_sound (Nat.zero_le 1) slot
      | some hook => exact of_sound Nat.le.refl slot

theorem aside {action : Action σ β} (other : action.scoping = false) (t : Thread)
    (stands : Stands alive unstarted shaken world) :
    Stands (action.scopes t world alive) (unstarted || action.startPanics t world)
      (shaken || action.shaken t world) (action.perform t world).2.2 := by
  have same := action.perform_hook other t world
  have nothing : action.scopes t world alive = alive ∧ action.startPanics t world = false ∧
      action.endPanics t world = false := by
    cases action <;> first | exact ⟨rfl, rfl, rfl⟩ | cases other
  obtain ⟨scopes, started, ended⟩ := nothing
  rw [Action.shaken, scopes, started, ended, Bool.or_false, Bool.or_self, Bool.or_false]
  exact ⟨stands.single, same ▸ stands.poisoned, stands.within, stands.ended, same ▸ stands.slot⟩

theorem refused {t : Thread} {hook : Hook σ} {failure : Failure}
    (refused : world.install t hook = (.error (.failure failure), world))
    (stands : Stands alive unstarted shaken world) :
    Stands ((Action.install hook).scopes t world alive)
      (unstarted || (Action.install hook).startPanics t world)
      (shaken || (Action.install hook).shaken t world) (world.install t hook).2 := by
  simp only [Action.scopes, Action.shaken, Action.startPanics, Action.endPanics, refused, Bool.or_false]
  exact stands

theorem scopes_cases (stands : Stands alive unstarted shaken world) :
    alive = [] ∨ ∃ active, alive = [active] := by
  cases alive with
  | nil => exact Or.inl rfl
  | cons active rest =>
      have none : rest.length ≤ 0 := Nat.le_of_succ_le_succ stands.single
      exact Or.inr ⟨active, by rw [List.eq_nil_of_length_eq_zero (Nat.le_zero.mp none)]⟩

theorem install (hook : Hook σ) (t : Thread) (stands : Stands alive unstarted shaken world) :
    Stands ((Action.install hook).scopes t world alive)
      (unstarted || (Action.install hook).startPanics t world)
      (shaken || (Action.install hook).shaken t world) (world.install t hook).2 := by
  cases shaken with
  | true => exact stands.refused (World.install_poisoned stands.poisoned t hook)
  | false =>
      rcases stands.scopes_cases with rfl | ⟨active, rfl⟩
      · -- The scope stands from here on, or the lock is poisoned with its hook behind it.
        have entered := World.install_vacant stands.hook t hook
        rw [stands.unshaken]
        cases heard : world.panicOn t .scopeEntered with
        | none =>
            rw [heard] at entered
            simp only [Action.scopes, Action.shaken, Action.startPanics, Action.endPanics, entered,
              Bool.or_false]
            exact of_sound Nat.le.refl rfl
        | some panic =>
            rw [heard] at entered
            simp only [Action.scopes, Action.shaken, Action.startPanics, Action.endPanics, entered,
              Bool.or_false, Bool.false_or]
            exact unstart rfl
      · exact stands.refused (World.install_active stands.hook t hook)

theorem uninstall (t : Thread) (stands : Stands alive unstarted shaken world) (own : alive ≠ []) :
    Stands ((Action.uninstall : Action σ _).scopes t world alive)
      (unstarted || (Action.uninstall : Action σ _).startPanics t world)
      (shaken || (Action.uninstall : Action σ _).shaken t world) (world.uninstall t).2 := by
  cases shaken with
  | true => exact absurd (stands.ended rfl) own
  | false =>
      obtain ⟨active, rfl⟩ := stands.scopes_cases.resolve_left own
      have left := world.uninstall_eq t
      have emptied : (world.uninstalled t).hook = { value := none } := by
        change ({ world.hook with value := none } : Guarded _) = _
        rw [stands.hook]
      rw [stands.unshaken]
      cases heard : world.panicOn t .scopeExited with
      | none =>
          rw [heard] at left
          simp only [Action.scopes, Action.shaken, Action.startPanics, Action.endPanics, left,
            Bool.or_false, List.tail_cons]
          exact of_sound (Nat.zero_le 1) emptied
      | some panic =>
          rw [heard] at left
          simp only [Action.scopes, Action.shaken, Action.startPanics, Action.endPanics, left,
            Bool.or_false, Bool.false_or, List.tail_cons]
          exact unended rfl rfl

theorem next {moment : Moment σ} (stands : Stands alive unstarted shaken moment.world)
    (own : moment.action.drops = true → alive ≠ []) :
    Stands (moment.scopes alive) (unstarted || moment.startPanics) (shaken || moment.shaken)
      moment.after := by
  obtain ⟨action, t, world⟩ := moment
  cases action with
  | install hook => exact stands.install hook t
  | uninstall => exact stands.uninstall t (own rfl)
  | _ => exact stands.aside rfl t

theorem history {first last : World σ} {history : List (Moment σ)}
    (follows : Follows first history last) (stands : Stands alive unstarted shaken first)
    (own : DropsOwn alive history) :
    Stands (scopesAfter alive history) (unstarted || history.any Moment.startPanics)
      (shaken || history.any Moment.shaken) last := by
  induction follows generalizing alive unstarted shaken with
  | nil => simpa [scopesAfter] using stands
  | cons moment _ ih =>
      have later := ih (stands.next own.1) own.2
      rw [Bool.or_assoc, Bool.or_assoc] at later
      exact later

end Stands

/-! ### Batches -/

theorem Routine.exec_intercepting_unentered {world : World σ} {t : Thread} {hook : Hook σ} {exit : Exit}
    (unentered : (world.install t hook).1 = .error exit) (body : Routine σ α) :
    (intercepting hook body).run.exec t world = some (.error exit, t, (world.install t hook).2) := by
  have answered : (Action.install hook).perform t world = (.error exit, t, (world.install t hook).2) := by
    simp only [Action.perform, unentered]
  rw [intercepting, exec_bind, exec_attempt _ rfl, answered]
  rfl

namespace Batch

structure Arrives (batch : Batch.{u} σ) (t : Thread) (world : World σ) (pair : TargetPair)
    (caller : Thread) (resolved : World σ) : Prop where
  paired : batch.programs.length = batch.params.length
  outside : t.inPass = false
  resolves : batch.resolving.run.exec t world = some (.ok pair, caller, resolved)
  free : resolved.session = none
  sound : (resolved.ledgers batch.extractor.ledger).poisoned = false

namespace Arrives

variable {batch : Batch.{u} σ} {t caller : Thread} {world resolved : World σ} {pair : TargetPair}

abbrev opening (_ : batch.Arrives t world pair caller resolved) : World σ :=
  (resolved.locked caller.caller).emptied batch.extractor.ledger batch.filter

/-- A batch that gets no scope answers why, and asks nothing of its pipeline. -/
theorem unentered (arrives : batch.Arrives t world pair caller resolved) {exit : Exit}
    (unentered : (arrives.opening.install caller (.ledger batch.extractor.ledger)).1 = .error exit) :
    (batch.report.run.exec t world).map Prod.fst = some (.error exit) ∧ batch.calls t world = [] := by
  constructor
  · have sound : ((resolved.locked caller.caller).ledgers batch.extractor.ledger).poisoned = false :=
      arrives.sound
    rw [batch.exec_report arrives.paired arrives.outside, arrives.resolves, Option.bind_some,
      Routine.onward, Extractor.resolved, Routine.exec_bind, Extractor.traced_eq,
      Routine.exec_exclusively arrives.free, Extractor.exec_tracing _ _ _ sound, Extractor.inScope,
      Routine.exec_bind, Routine.exec_intercepting_unentered unentered]
    rfl
  · apply batch.calls_untraced
    intro other thread last traces
    have same := arrives.resolves.symm.trans traces.resolves
    cases same
    rw [traces.entered] at unentered
    cases unentered

theorem traces (arrives : batch.Arrives t world pair caller resolved)
    (vacant : resolved.hook = { value := none })
    (listens : resolved.panicOn caller .scopeEntered = none) :
    batch.Traces t world pair caller resolved := by
  have opening : arrives.opening.hook = { value := none } := vacant
  have quiet : arrives.opening.panicOn caller .scopeEntered = none := listens
  have entered : (arrives.opening.install caller (.ledger batch.extractor.ledger)).1 = .ok () := by
    rw [World.install_vacant opening, quiet]
  exact ⟨arrives.paired, arrives.outside, arrives.resolves, arrives.free, arrives.sound, entered⟩

theorem stopped (arrives : batch.Arrives t world pair caller resolved)
    (broken : resolved.hook.poisoned = true) :
    (batch.report.run.exec t world).map Prod.fst = some (.error (.failure .hookPoisoned)) ∧
      batch.calls t world = [] := by
  have opening : arrives.opening.hook.poisoned = true := broken
  exact arrives.unentered (congrArg Prod.fst (World.install_poisoned opening caller _))

end Arrives

end Batch

/-! ### What a history leaves -/

abbrev World.alive (first : World σ) (history : List (Moment σ)) : List (Hook σ) :=
  scopesAfter first.hook.value.toList history

/-- What the slot and its lock say after a history, and what comes of scopes, dispatches and batches
then, whatever the sink does. -/
structure Withstood (first : World σ) (history : List (Moment σ)) (last : World σ) : Prop where
  single : (first.alive history).length ≤ 1
  poisoned : last.hook.poisoned = history.any Moment.shaken
  ended : history.any Moment.shaken = true → first.alive history = []
  slot : history.any Moment.startPanics = false → last.hook.value = (first.alive history).head?
  /-- A scope that is made stands. -/
  stands : ∀ t hook, (last.install t hook).1 = .ok () →
    (last.install t hook).2.hook = { value := some hook }
  /-- A refused scope changes nothing; one on whose start the sink panics is left open. -/
  unchanged : ∀ t hook exit, (last.install t hook).1 = .error exit →
    (last.install t hook).2 = last ∨
      ∃ panic, last.panicOn t .scopeEntered = some panic ∧ exit = .panic panic
  drops : ∀ t, (last.uninstall t).2.hook.value = none
  enters : history.any Moment.shaken = false → first.alive history = [] →
    ∀ t, last.panicOn t .scopeEntered = none → ∀ hook, (last.install t hook).1 = .ok ()
  active : history.any Moment.shaken = false → first.alive history ≠ [] →
    ∀ t hook, last.install t hook = (.error (.failure .scopeActive), last)
  refused : history.any Moment.shaken = true →
    ∀ t hook, last.install t hook = (.error (.failure .hookPoisoned), last)
  unasked : history.any Moment.shaken = true → ∀ t call,
    (Routine.dispatch call).run.exec t last = some (.error (.failure .hookPoisoned), t, last)
  untraced : history.any Moment.shaken = true → last.isTracing = false
  batches : ∀ (batch : Batch.{u} σ) {t caller : Thread} {world : World σ} {pair : TargetPair},
    batch.Arrives t world pair caller last → history.any Moment.shaken = false →
      first.alive history = [] → last.panicOn caller .scopeEntered = none →
        batch.Traces t world pair caller last
  stopped : ∀ (batch : Batch.{u} σ) {t caller : Thread} {world : World σ} {pair : TargetPair},
    batch.Arrives t world pair caller last → history.any Moment.shaken = true →
      (batch.report.run.exec t world).map Prod.fst = some (.error (.failure .hookPoisoned)) ∧
        batch.calls t world = []
  /-- A batch drops no scope but its own, so the history may go on with it. -/
  onward : ∀ (batch : Batch.{u} σ) (t : Thread), batch.extractor.Tidy true →
    DropsOwn (first.alive history) (batch.report.run.history t last) ∧
      ∀ ended, batch.report.run.exec t last = some ended →
        first.alive (history ++ batch.report.run.history t last) = first.alive history

theorem Follows.withstood {first last : World σ} {history : List (Moment σ)}
    (follows : Follows first history last) (sound : first.hook.poisoned = false)
    (own : DropsOwn first.hook.value.toList history) : Withstood.{u} first history last := by
  have stands := (Stands.of_unpoisoned sound).history follows own
  rw [Bool.false_or, Bool.false_or] at stands
  -- A lock that was shaken stays poisoned; any other holds the innermost of the scopes that live.
  have broken (shaken : history.any Moment.shaken = true) : last.hook.poisoned = true :=
    stands.poisoned.trans shaken
  have unbroken (quiet : history.any Moment.shaken = false) :
      last.hook = { value := (first.alive history).head? } := by
    rw [quiet] at stands
    exact stands.hook
  have vacant (quiet : history.any Moment.shaken = false) (idle : first.alive history = []) :
      last.hook = { value := none } := by
    rw [unbroken quiet, idle]
    rfl
  constructor
  case single => exact stands.single
  case poisoned => exact stands.poisoned
  case ended => exact stands.ended
  case slot => exact stands.slot
  case stands =>
    intro t hook entered
    rw [World.install_ok entered]
    rfl
  case unchanged => exact fun t hook exit unentered => World.install_error unentered
  case drops => exact last.uninstall_value
  case enters =>
    intro quiet idle t heard hook
    rw [World.install_vacant (vacant quiet idle), heard]
  case active =>
    intro quiet busy t hook
    obtain ⟨active, rest, scopes⟩ := List.exists_cons_of_ne_nil busy
    have slot := unbroken quiet
    rw [scopes] at slot
    exact World.install_active slot t hook
  case refused => exact fun shaken t hook => World.install_poisoned (broken shaken) t hook
  case unasked =>
    intro shaken t call
    have found : last.installedHook = .error .hookPoisoned := if_pos (broken shaken)
    rw [Routine.exec_dispatch, found]
  case untraced =>
    intro shaken
    rw [World.isTracing, broken shaken]
    rfl
  case batches =>
    exact fun batch _ _ _ _ arrives quiet idle listens => arrives.traces (vacant quiet idle) listens
  case stopped => exact fun batch _ _ _ _ arrives shaken => arrives.stopped (broken shaken)
  case onward =>
    intro batch t tidy
    obtain ⟨drops, back⟩ := (Batch.tidy_report tidy).dropsOwn (first.alive history) t last
    refine ⟨drops, fun ended ran => ?_⟩
    rw [World.alive, scopesAfter_append]
    exact back ended ran

theorem Follows.withstood_replay :
    let start : World Unit := { World.initial () with
      sink := fun _ event => if event = .scopeExited then some ⟨some "log sink failed"⟩ else none }
    let batch : Batch.{0} Unit := .replay "global" [[⟨"dense", ⟨[]⟩⟩]] none
    let history := batch.report.run.history {} start
    ∃ last, Follows start history last ∧ Withstood.{0} start history last ∧
      history.any Moment.shaken = true ∧ last.hook.value.isNone = true := by
  intro start batch history
  have tidy : batch.extractor.Tidy true := Batch.replay_tidy _ _ _
  have alone : Withstood.{0} start [] start := Follows.withstood (.nil start) rfl trivial
  have ends : (batch.report.run.exec {} start).any (fun ended =>
      ended.2.2.hook.poisoned && ended.2.2.hook.value.isNone) = true := by decide +kernel
  obtain ⟨⟨outcome, thread, last⟩, ran, poisoned⟩ := (Option.any_eq_true _ _).mp ends
  obtain ⟨broken, empty⟩ := Bool.and_eq_true_iff.mp poisoned
  have follows := Code.follows_history ran
  have stood := Follows.withstood follows rfl (alone.onward batch {} tidy).1
  exact ⟨last, follows, stood, stood.poisoned.symm.trans broken, empty⟩

/-- A scope on whose start the log panics leaves its hook in the slot, and one on whose end it panics
leaves the slot empty but refuses every later scope and batch. -/
theorem panicking_sink_breaks_scopes :
    let hook : Hook Unit := .ledger "manual"
    let batch : Batch.{0} Unit := .replay "global" [[⟨"dense", ⟨[]⟩⟩]] none
    let start (loud : Event) : World Unit := { World.initial () with
      sink := fun _ event => if event = loud then some ⟨some "log sink failed"⟩ else none }
    let unstarted := (start .scopeEntered).install {} hook
    let stopped := ((start .scopeExited).install {} hook).2.uninstall {}
    (unstarted.1 = .error (.panic ⟨some "log sink failed"⟩) ∧
        unstarted.2.hook = { value := some hook, poisoned := true }) ∧
      stopped.2.hook = { value := none, poisoned := true } ∧
      (stopped.2.install {} hook).1 = .error (.failure .hookPoisoned) ∧
      (batch.report.run.exec {} stopped.2).map Prod.fst = some (.error (.failure .hookPoisoned)) :=
  ⟨⟨rfl, rfl⟩, rfl, rfl, rfl⟩

end TuningTasks
