import TuningTasks.Proofs.Tracing

/-!
Extractions with log suppression and without. Collaborators that cannot tell whether they are heard do
the same either way, and so does the extraction: the guards it makes are all that is different, and
nothing but the log shows them.
-/
namespace TuningTasks

universe u v
variable {σ α β : Type} {Program : Type u} {Params : Type v}

/-! ### What does not tell whether a thread is heard -/

def Thread.bare (t : Thread) : Thread := { t with muted := false }

def World.bare (world : World σ) : World σ := { world with guards := 0, log := [] }

def bared (ended : α × Thread × World σ) : α × Thread × World σ :=
  (ended.1, ended.2.1.bare, ended.2.2.bare)

theorem bared_eq {ended other : α × Thread × World σ} (same : bared ended = bared other) :
    other = (ended.1, { ended.2.1 with muted := other.2.1.muted },
      { ended.2.2 with guards := other.2.2.guards, log := other.2.2.log }) := by
  obtain ⟨value, t, world⟩ := ended
  obtain ⟨value', t', world'⟩ := other
  simp only [bared, Thread.bare, World.bare, Prod.mk.injEq, Thread.mk.injEq, World.mk.injEq] at same
  obtain ⟨rfl, ⟨caller, name, inPass, -⟩, ledgers, caches, hook, session, -, -, sink, spawned, refusal,
    client⟩ := same
  simp only [caller, name, inPass, ledgers, caches, hook, session, sink, spawned, refusal, client]

namespace Code

/-- Whatever guards there are and whatever has been logged, the two codes do the same but for these. -/
def Agrees (code other : Code σ α) : Prop :=
  ∀ (t : Thread) (world : World σ) (muted : Bool) (guards : Nat) (log : List Event), world.Silent →
    (code.exec t world).map bared =
      (other.exec { t with muted } { world with guards, log }).map bared

def Blind (code : Code σ α) : Prop := code.Agrees code

theorem agrees_ret (value : α) : (ret value : Code σ α).Agrees (ret value) :=
  fun _ _ _ _ _ _ => rfl

namespace Agrees

variable {code other : Code σ α} {f g : α → Code σ β}

theorem ends (agrees : code.Agrees other) (t : Thread) {world : World σ} (muted : Bool) (guards : Nat)
    (log : List Event) (silent : world.Silent) :
    (code.exec t world = none ∧ other.exec { t with muted } { world with guards, log } = none) ∨
      ∃ ended muted' guards' log', code.exec t world = some ended ∧ ended.2.2.Silent ∧
        other.exec { t with muted } { world with guards, log } =
          some (ended.1, { ended.2.1 with muted := muted' },
            { ended.2.2 with guards := guards', log := log' }) := by
  have same := agrees t world muted guards log silent
  rcases first : code.exec t world with _ | ended
  · rw [first, Option.map_none, eq_comm, Option.map_eq_none_iff] at same
    exact Or.inl ⟨rfl, same⟩
  · rw [first, Option.map_some, eq_comm, Option.map_eq_some_iff] at same
    obtain ⟨ended', second, bares⟩ := same
    refine Or.inr ⟨ended, ended'.2.1.muted, ended'.2.2.guards, ended'.2.2.log, rfl,
      exec_silent first silent, ?_⟩
    rw [second, ← bared_eq bares.symm]

theorem bind (first : code.Agrees other) (later : ∀ value, (f value).Agrees (g value)) :
    (code.bind f).Agrees (other.bind g) := by
  intro t world muted guards log silent
  rw [exec_bind, exec_bind]
  rcases first.ends t muted guards log silent with ⟨ended, ended'⟩ | ⟨ended, _, _, _, ran, quiet, ran'⟩
  · rw [ended, ended']
    rfl
  · rw [ran, ran']
    exact later ended.1 ended.2.1 ended.2.2 _ _ _ quiet

end Agrees

end Code

namespace World

variable {world : World σ}

theorem record_bare (silent : world.Silent) (t t' : Thread) (name : String) (call : Invocation)
    (guards : Nat) (log : List Event) :
    (world.record t name call).1 = (({ world with guards, log } : World σ).record t' name call).1 ∧
      (world.record t name call).2.bare =
        (({ world with guards, log } : World σ).record t' name call).2.bare := by
  have quiet : ({ world with guards, log } : World σ).Silent := silent
  simp only [record, emit_silent silent, emit_silent quiet]
  split
  · exact ⟨rfl, rfl⟩
  · split
    · exact ⟨rfl, rfl⟩
    · exact ⟨rfl, rfl⟩

end World

namespace Action

def oblivious : Action σ β → Bool
  | .thread | .mute => false
  | _ => true

/-- Where the log takes every event, nothing else depends on what is heard. -/
theorem perform_bare {action : Action σ β} (oblivious : action.oblivious = true) {world : World σ}
    (silent : world.Silent) (t : Thread) (muted : Bool) (guards : Nat) (log : List Event) :
    bared (action.perform t world) =
      bared (action.perform { t with muted } { world with guards, log }) := by
  have quiet : ({ world with guards, log } : World σ).Silent := silent
  cases action with
  | thread | mute => cases oblivious
  | emit event => simp only [perform, World.emit_silent silent, World.emit_silent quiet]; rfl
  | consult hook call =>
      cases hook with
      | custom answer => rfl
      | ledger name =>
          obtain ⟨answer, same⟩ := World.record_bare silent t { t with muted } name call guards log
          simp only [perform, World.consult, bared, answer, same]
          rfl
  | record name call =>
      obtain ⟨answer, same⟩ := World.record_bare silent t { t with muted } name call guards log
      simp only [perform, bared, answer, same]
      rfl
  | install hook =>
      -- Who gets in is decided by the slot, which neither the guards nor the log touch.
      rcases world.hook_cases with broken | ⟨active, busy⟩ | idle
      · have broken' : ({ world with guards, log } : World σ).hook.poisoned = true := broken
        simp only [perform, World.install_poisoned broken, World.install_poisoned broken']
        rfl
      · have busy' : ({ world with guards, log } : World σ).hook = { value := some active } := busy
        simp only [perform, World.install_active busy, World.install_active busy']
        rfl
      · have idle' : ({ world with guards, log } : World σ).hook = { value := none } := idle
        simp only [perform, World.install_idle silent idle, World.install_idle quiet idle']
        rfl
  | uninstall =>
      simp only [perform, World.uninstall_silent silent, World.uninstall_silent quiet]
      rfl
  | resetLedger name filter =>
      simp only [perform, World.resetLedger]
      split
      · rfl
      · rfl
  | warnOnce cache message =>
      simp only [perform, World.warnOnce_silent silent, World.warnOnce_silent quiet]
      split
      · rfl
      · rfl
  | unmute | installedHook | isTracing | readLedger | updateCache | lockSession | unlockSession | spawn
  | client => rfl

end Action

namespace Code

theorem agrees_act {action : Action σ β} {next other : β → Code σ α}
    (oblivious : action.oblivious = true) (later : ∀ answer, (next answer).Agrees (other answer)) :
    (act action next).Agrees (act action other) := by
  intro t world muted guards log silent
  have ready : action.ready ({ world with guards, log } : World σ) = action.ready world := by
    cases action <;> rfl
  have same := bared_eq (action.perform_bare oblivious silent t muted guards log)
  simp only [exec, ready]
  split
  · rw [same]
    exact later _ _ _ _ _ _ (action.perform_silent silent t)
  · rfl

theorem agrees_fork (thread : Thread) {body plain : Code σ β} {next other : β → Code σ α}
    (inside : body.Agrees plain) (later : ∀ answer, (next answer).Agrees (other answer)) :
    (fork thread body next).Agrees (fork thread plain other) := by
  intro t world muted guards log silent
  simp only [exec]
  rcases inside.ends { thread with caller := t.caller } thread.muted guards log silent with
    ⟨never, never'⟩ | ⟨ended, _, _, _, ran, quiet, ran'⟩
  · rw [never, never']
  · rw [ran, ran']
    exact later ended.1 t ended.2.2 _ _ _ quiet

theorem agrees_perform {action : Action σ α} (oblivious : action.oblivious = true) :
    (perform action).Agrees (perform action) :=
  agrees_act oblivious agrees_ret

end Code

namespace Routine

variable {routine plain : Routine σ α}

theorem agrees_pure (value : α) :
    (pure value : Routine σ α).run.Agrees (pure value : Routine σ α).run := Code.agrees_ret _

theorem agrees_fail (failure : Failure) :
    (fail failure : Routine σ α).run.Agrees (fail failure : Routine σ α).run := Code.agrees_ret _

theorem agrees_bind {rest other : α → Routine σ β} (first : routine.run.Agrees plain.run)
    (later : ∀ value, (rest value).run.Agrees (other value).run) :
    (routine >>= rest).run.Agrees (plain >>= other).run := by
  apply Code.Agrees.bind first
  intro ended
  cases ended with
  | ok value => exact later value
  | error exit => exact Code.agrees_ret _

theorem agrees_lift {code other : Code σ α} (agrees : code.Agrees other) :
    (ExceptT.lift code : Routine σ α).run.Agrees (ExceptT.lift other : Routine σ α).run :=
  agrees.bind fun _ => Code.agrees_ret _

theorem agrees_perform {action : Action σ α} (oblivious : action.oblivious = true) :
    (perform action).run.Agrees (perform action).run :=
  agrees_lift (Code.agrees_perform oblivious)

theorem agrees_failing {action : Action σ (Except Failure α)} (oblivious : action.oblivious = true) :
    (failing action).run.Agrees (failing action).run :=
  Code.agrees_act oblivious fun _ => Code.agrees_ret _

theorem agrees_panicking {code other : Code σ (Except Panic α)} (agrees : code.Agrees other) :
    (panicking code).run.Agrees (panicking other).run :=
  agrees.bind fun _ => Code.agrees_ret _

theorem agrees_emit (event : Event) :
    (emit event : Routine σ Unit).run.Agrees (emit event : Routine σ Unit).run :=
  agrees_panicking (Code.agrees_perform rfl)

theorem agrees_dispatch (call : Invocation) :
    (dispatch call : Routine σ Decision).run.Agrees (dispatch call : Routine σ Decision).run := by
  apply agrees_bind (agrees_failing rfl)
  intro slot
  cases slot with
  | none => exact agrees_pure _
  | some hook => exact Code.agrees_perform rfl

theorem agrees_catchFailure (agrees : routine.run.Agrees plain.run) :
    (catchFailure routine).run.Agrees (catchFailure plain).run := by
  apply Code.Agrees.bind agrees
  intro ended
  rcases ended with (failure | panic) | value
  all_goals exact Code.agrees_ret _

theorem agrees_intercepting (hook : Hook σ) (agrees : routine.run.Agrees plain.run) :
    (intercepting hook routine).run.Agrees (intercepting hook plain).run := by
  refine agrees_bind (Code.agrees_perform rfl) fun _ => ?_
  refine agrees_bind (agrees_lift agrees) fun ended => ?_
  exact agrees_bind (agrees_panicking (Code.agrees_perform rfl)) fun _ => Code.agrees_ret _

theorem agrees_exclusively (agrees : routine.run.Agrees plain.run) :
    (exclusively routine).run.Agrees (exclusively plain).run := by
  refine agrees_bind (agrees_perform rfl) fun _ => ?_
  refine agrees_bind (agrees_lift agrees) fun ended => ?_
  exact agrees_bind (agrees_perform rfl) fun _ => Code.agrees_ret _

theorem agrees_quietly (mute mute' : Bool) (agrees : routine.run.Agrees plain.run) :
    (quietly mute routine).run.Agrees (quietly mute' plain).run := by
  intro t world muted guards log silent
  have thread : ({ t with muted } : Thread).hushed mute' =
      { t.hushed mute with muted := mute' || muted } := rfl
  have around : ∃ guards' log', ({ world with guards, log } : World σ).hushed mute' =
      { world.hushed mute with guards := guards', log := log' } := by
    cases mute <;> cases mute' <;> exact ⟨_, _, rfl⟩
  obtain ⟨guards', log', around⟩ := around
  rw [exec_quietly_any, exec_quietly_any, thread, around]
  rcases agrees.ends (t.hushed mute) (mute' || muted) guards' log' (silent.hushed mute) with
    ⟨never, never'⟩ | ⟨ended, _, _, _, ran, _, ran'⟩
  · rw [never, never']
    rfl
  · rw [ran, ran']
    cases mute <;> cases mute' <;> rfl

end Routine

/-! ### Extractions -/

structure Pipeline.Blind (pipeline : Pipeline σ Program Params) : Prop where
  lower : ∀ program pair params config, (pipeline.lower program pair params config).run.Blind
  clearFunctions : pipeline.clearFunctions.Blind
  clearFallback : ∀ clear, pipeline.clearFallback = some clear → clear.Blind

/-- No collaborator can tell whether logging is on. -/
structure Extractor.Blind (extractor : Extractor σ Program Params) : Prop where
  pipeline : extractor.pipeline.Blind
  factory : ∀ request, (extractor.factory request).run.Blind
  resolver : ∀ target host, (extractor.resolver target host).run.Blind

def Settings.suppressing (settings : Settings) (on : Bool) : Settings :=
  { settings with suppressLogs := on }

def Batch.suppressing (batch : Batch.{u} σ) (on : Bool) : Batch.{u} σ :=
  { batch with extractor :=
    { batch.extractor with settings := batch.extractor.settings.suppressing on } }

open Routine

theorem isolated_agrees (settings : Settings) (on off : Bool) (index : Nat) {body plain : Routine σ Unit}
    (agrees : body.run.Agrees plain.run) :
    (isolated (settings.suppressing on) index body).Agrees
      (isolated (settings.suppressing off) index plain) := by
  refine Code.agrees_act rfl fun answer => ?_
  cases answer with
  | error reason => exact Code.agrees_ret _
  | ok spawned =>
      refine Code.agrees_fork _ (agrees_quietly on off agrees) fun ended => ?_
      rcases ended with (failure | panic) | value
      all_goals exact Code.agrees_ret _

namespace Pipeline.Blind

variable {pipeline : Pipeline σ Program Params} (blind : pipeline.Blind)

include blind

theorem pass (pair : TargetPair) (program : Program) (params : Params) :
    (pipeline.pass pair program params).run.Blind := by
  have clear := agrees_panicking blind.clearFunctions
  rw [pass_eq]
  refine agrees_bind clear fun _ => agrees_bind ?_ fun _ => ?_
  · rw [announcing]
    cases (PassConfig.ofTarget pair.target).auxiliaryBackend with
    | none => exact agrees_pure ()
    | some backend => exact agrees_emit _
  · refine agrees_bind (agrees_catchFailure (blind.lower program pair params _)) fun lowered => ?_
    refine agrees_bind clear fun _ => ?_
    cases lowered with
    | ok done => exact agrees_pure ()
    | error failure => exact agrees_fail _

theorem passes (settings : Settings) (on off : Bool) (pair : TargetPair) (index : Nat)
    (work : List (Program × Params)) :
    (pipeline.passes (settings.suppressing on) pair index work).run.Agrees
      (pipeline.passes (settings.suppressing off) pair index work).run := by
  have clear := agrees_panicking blind.clearFunctions
  have forgetting : pipeline.forgetting.run.Blind := by
    rw [Pipeline.forgetting]
    split
    · rename_i found fallback
      exact agrees_panicking (blind.clearFallback found fallback)
    · exact agrees_pure ()
  induction work generalizing index with
  | nil => exact agrees_pure ()
  | cons item rest ih =>
      obtain ⟨program, params⟩ := item
      have pass := isolated_agrees settings on off index (blind.pass pair program params)
      rw [passes_cons, passes_cons]
      refine agrees_bind clear fun _ => agrees_bind (agrees_lift pass) fun traced => ?_
      refine agrees_bind clear fun _ => agrees_bind forgetting fun _ => ?_
      cases traced with
      | ok done => exact ih (index + 1)
      | error failure => exact agrees_fail _

end Pipeline.Blind

theorem Factory.materialize_agrees {factory : Factory σ} (blind : ∀ request, (factory request).run.Blind)
    (settings : Settings) (on off : Bool) (target : Target) (calls : List Invocation) :
    (factory.materialize (settings.suppressing on) target calls).run.Agrees
      (factory.materialize (settings.suppressing off) target calls).run := by
  induction calls with
  | nil => exact agrees_pure _
  | cons call rest ih =>
      refine agrees_bind (agrees_catchFailure (blind (call.request settings target))) fun built => ?_
      cases built with
      | ok task => exact agrees_bind ih fun _ => agrees_pure _
      | error failure =>
          simp only
          split
          · exact agrees_bind (agrees_emit _) fun _ => agrees_bind ih fun _ => agrees_pure _
          · exact agrees_fail _

namespace Batch

variable {batch : Batch.{u} σ}

theorem suppressing_traced (blind : batch.extractor.Blind) (on off : Bool) (pair : TargetPair)
    (work : List (batch.Program × batch.Params)) :
    ((batch.suppressing on).extractor.traced pair work batch.filter).run.Agrees
      ((batch.suppressing off).extractor.traced pair work batch.filter).run := by
  have passes := blind.pipeline.passes batch.extractor.settings on off pair 0 work
  refine agrees_exclusively (agrees_bind (agrees_failing rfl) fun _ => ?_)
  refine agrees_bind (agrees_intercepting _ (agrees_quietly on off passes)) fun _ => ?_
  exact agrees_bind (agrees_failing rfl) fun _ => agrees_pure _

theorem suppressing_resolved (blind : batch.extractor.Blind) (on off : Bool) (pair : TargetPair) :
    ((batch.suppressing on).extractor.resolved batch.programs batch.params batch.filter pair).run.Agrees
      ((batch.suppressing off).extractor.resolved batch.programs batch.params batch.filter pair).run := by
  refine agrees_bind (suppressing_traced blind on off pair _) fun calls => ?_
  refine agrees_bind (Factory.materialize_agrees blind.factory _ on off pair.target calls) fun made => ?_
  exact agrees_bind (agrees_emit _) fun _ => agrees_pure _

/-- With log suppression and without, a batch does the same but for what is logged. -/
theorem suppressing_report (blind : batch.extractor.Blind) (on off : Bool) (t : Thread)
    {world : World σ} (silent : world.Silent) :
    ((batch.suppressing on).report.run.exec t world).map bared =
      ((batch.suppressing off).report.run.exec t world).map bared := by
  by_cases paired : batch.programs.length = batch.params.length
  · cases outside : t.inPass with
    | true =>
        have refused (flag : Bool) : (batch.suppressing flag).report.run.exec t world =
            some (.error (.failure .insidePass), t, world) :=
          Extractor.exec_report_inside _ _ _ _ _ _ paired outside world
        rw [refused, refused]
    | false =>
        rw [(batch.suppressing on).exec_report paired outside,
          (batch.suppressing off).exec_report paired outside, ← Routine.exec_bind, ← Routine.exec_bind]
        have resolver := blind.resolver batch.target batch.host
        exact agrees_bind resolver (suppressing_resolved blind on off) t world _ _ _ silent
  · have refused (flag : Bool) : (batch.suppressing flag).report.run.exec t world =
        some (.error (.failure (.unpaired batch.programs.length batch.params.length)), t, world) :=
      Extractor.exec_report_unpaired _ _ _ _ _ _ paired t world
    rw [refused, refused]

end Batch

end TuningTasks
