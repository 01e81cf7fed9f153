import TuningTasks.Proofs.Facade
import TuningTasks.Proofs.Nested

/-!
Calls that wait for themselves. The session lock cannot be taken twice, and only the thread of a pass
refuses to try; everywhere else an extraction that a running batch starts waits for the batch, and the
batch for it. Where its collaborators start none but on the threads of passes, no call comes to that
(`System.Reached.never_self_waits`).
-/
namespace TuningTasks

universe u v
variable {σ α β : Type} {Program : Type u} {Params : Type v}

/-! ### Code that takes the lock once -/

def Action.locking : Action σ β → Bool
  | .lockSession | .unlockSession => true
  | _ => false

theorem Action.perform_session {action : Action σ β} (other : action.locking = false) (t : Thread)
    (world : World σ) : (action.perform t world).2.2.session = world.session := by
  cases action with
  | lockSession | unlockSession => cases other
  | emit event =>
      simp only [perform, World.emit_snd]
      rfl
  | consult hook invocation =>
      obtain ⟨_, _, _, same⟩ := world.consult_frame t hook invocation
      simp only [perform, same]
  | install hook =>
      obtain ⟨_, _, same⟩ := world.install_frame t hook
      simp only [perform, same]
  | uninstall =>
      obtain ⟨_, _, same⟩ := world.uninstall_frame t
      simp only [perform, same]
  | resetLedger name filter =>
      obtain ⟨_, same⟩ := world.resetLedger_frame name filter
      simp only [perform, same]
  | record name invocation =>
      obtain ⟨_, _, same⟩ := world.record_frame t name invocation
      simp only [perform, same]
  | warnOnce cache message =>
      obtain ⟨_, _, same⟩ := world.warnOnce_frame t cache message
      simp only [perform, same]
  | thread | mute | unmute | installedHook | isTracing | readLedger | updateCache | spawn | client =>
      rfl

namespace Code

/-- Code that takes the session lock only where it does not hold it yet, and gives it back only where it
does. `inside` tells whether its thread is in a pass; `held` and `left`, whether it holds the lock before
and after. -/
inductive Locks {σ : Type} : Bool → Bool → {α : Type} → Code σ α → Bool → Prop
  | ret {inside held : Bool} {α : Type} (value : α) : Locks inside held (.ret value) held
  | act {inside held left : Bool} {α β : Type} {action : Action σ β} {next : β → Code σ α}
      (other : action.locking = false)
      (rest : ∀ answer, action.Honest inside answer → Locks inside held (next answer) left) :
      Locks inside held (.act action next) left
  | lock {inside left : Bool} {α : Type} {next : Unit → Code σ α}
      (rest : Locks inside true (next ()) left) : Locks inside false (.act .lockSession next) left
  | unlock {inside left : Bool} {α : Type} {next : Unit → Code σ α}
      (rest : Locks inside false (next ()) left) : Locks inside true (.act .unlockSession next) left
  | fork {inside held left : Bool} {α β : Type} (thread : Thread) {body : Code σ β}
      {next : β → Code σ α} (within : Locks thread.inPass held body held)
      (rest : ∀ answer, Locks inside held (next answer) left) :
      Locks inside held (.fork thread body next) left

namespace Locks

variable {inside held middle left : Bool}

theorem bind {code : Code σ α} {f : α → Code σ β} (locks : code.Locks inside held middle)
    (rest : ∀ value, (f value).Locks inside middle left) :
    (code.bind f).Locks inside held left := by
  induction locks with
  | ret value => exact rest value
  | act other _ ih => exact .act other fun answer honest => ih answer honest rest
  | lock _ ih => exact .lock (ih rest)
  | unlock _ ih => exact .unlock (ih rest)
  | fork thread within _ _ ih => exact .fork thread within fun answer => ih answer rest

end Locks

end Code

namespace Routine

variable {inside held middle left : Bool} {routine : Routine σ α}

theorem locks_bind {rest : α → Routine σ β} (first : routine.run.Locks inside held left)
    (later : ∀ value, (rest value).run.Locks inside left left) :
    (routine >>= rest).run.Locks inside held left := by
  apply Code.Locks.bind first
  intro ended
  cases ended with
  | ok value => exact later value
  | error exit => exact .ret _

theorem locks_lift {code : Code σ α} (locks : code.Locks inside held left) :
    (ExceptT.lift code : Routine σ α).run.Locks inside held left :=
  locks.bind fun _ => .ret _

theorem locks_lift_bind {code : Code σ α} {rest : α → Routine σ β}
    (first : code.Locks inside held middle) (later : ∀ value, (rest value).run.Locks inside middle left) :
    (ExceptT.lift code >>= rest).run.Locks inside held left := by
  change ((code.bind _).bind _).Locks inside held left
  rw [Code.bind_assoc]
  exact first.bind later

theorem locks_perform {action : Action σ α} (other : action.locking = false) :
    (perform action).run.Locks inside held held :=
  locks_lift (.act other fun _ _ => .ret _)

theorem locks_attempt {action : Action σ (Except Exit α)} (other : action.locking = false) :
    (attempt action).run.Locks inside held held :=
  .act other fun _ _ => .ret _

theorem locks_failing {action : Action σ (Except Failure α)} (other : action.locking = false) :
    (failing action).run.Locks inside held held :=
  .act other fun _ _ => .ret _

theorem locks_panicking {code : Code σ (Except Panic α)} (locks : code.Locks inside held left) :
    (panicking code).run.Locks inside held left :=
  locks.bind fun _ => .ret _

theorem locks_emit (event : Event) : (emit event : Routine σ Unit).run.Locks inside held held :=
  locks_panicking (.act rfl fun _ _ => .ret _)

theorem locks_catchFailure (locks : routine.run.Locks inside held left) :
    (catchFailure routine).run.Locks inside held left := by
  apply Code.Locks.bind locks
  intro ended
  rcases ended with (failure | panic) | value
  all_goals exact .ret _

theorem locks_intercepting (hook : Hook σ) (locks : routine.run.Locks inside held held) :
    (intercepting hook routine).run.Locks inside held held := by
  apply locks_bind (locks_attempt rfl)
  intro _
  apply locks_lift_bind locks
  intro _
  exact locks_bind (locks_panicking (.act rfl fun _ _ => .ret _)) fun _ => .ret _

theorem locks_quietly (mute : Bool) (locks : routine.run.Locks inside held held) :
    (quietly mute routine).run.Locks inside held held := by
  cases mute with
  | false => exact locks
  | true =>
      apply locks_bind (locks_perform rfl)
      intro _
      apply locks_lift_bind locks
      intro _
      exact locks_bind (locks_perform rfl) fun _ => .ret _

theorem locks_exclusively (locks : routine.run.Locks inside true true) :
    (exclusively routine).run.Locks inside false false := by
  refine locks_lift_bind (.lock (.ret _)) fun _ => ?_
  apply locks_lift_bind locks
  intro _
  exact locks_lift_bind (.unlock (.ret _)) fun _ => .ret _

theorem locks_isolated (settings : Settings) (index : Nat) {body : Routine σ Unit}
    (locks : body.run.Locks true held held) :
    (isolated settings index body).Locks inside held held := by
  refine .act rfl fun answer _ => ?_
  cases answer with
  | error reason => exact .ret _
  | ok _ =>
      refine .fork _ (locks_quietly _ locks) fun ended => ?_
      rcases ended with (failure | panic) | value
      all_goals exact .ret _

end Routine

/-! ### Extractions whose collaborators start others with care -/

/-- Collaborators that hold the session lock when they are asked do not take it. They may start
extractions on the threads of passes, where these are refused. -/
structure Pipeline.Careful (pipeline : Pipeline σ Program Params) : Prop where
  lower : ∀ program pair params config,
    (pipeline.lower program pair params config).run.Locks true true true
  clearFunctions : ∀ inside, pipeline.clearFunctions.Locks inside true true
  clearFallback : ∀ clear, pipeline.clearFallback = some clear → clear.Locks false true true

structure Batch.Careful (batch : Batch.{u} σ) : Prop where
  pipeline : batch.extractor.pipeline.Careful
  resolver : ∀ target host, (batch.extractor.resolver target host).run.Locks false false false
  factory : ∀ request, (batch.extractor.factory request).run.Locks false false false

open Routine

theorem Pipeline.Careful.pass {pipeline : Pipeline σ Program Params} (careful : pipeline.Careful)
    (pair : TargetPair) (program : Program) (params : Params) :
    (pipeline.pass pair program params).run.Locks true true true := by
  have clear := locks_panicking (careful.clearFunctions true)
  rw [Pipeline.pass_eq]
  apply locks_bind clear
  intro _
  apply locks_bind
  · rw [announcing]
    split
    · exact locks_emit _
    · exact .ret _
  · intro _
    apply locks_bind (locks_catchFailure (careful.lower program pair params _))
    intro lowered
    apply locks_bind clear
    intro _
    cases lowered <;> exact .ret _

theorem Pipeline.Careful.passes {pipeline : Pipeline σ Program Params} (careful : pipeline.Careful)
    (settings : Settings) (pair : TargetPair) (index : Nat) (work : List (Program × Params)) :
    (pipeline.passes settings pair index work).run.Locks false true true := by
  have clear := locks_panicking (careful.clearFunctions false)
  induction work generalizing index with
  | nil => exact .ret _
  | cons item rest ih =>
      obtain ⟨program, params⟩ := item
      rw [passes_cons]
      apply locks_bind clear
      intro _
      apply locks_lift_bind (locks_isolated settings index (careful.pass pair program params))
      intro traced
      apply locks_bind clear
      intro _
      apply locks_bind
      · rw [forgetting]
        split
        · exact locks_panicking (careful.clearFallback _ ‹_›)
        · exact .ret _
      · intro _
        cases traced with
        | ok _ => exact ih (index + 1)
        | error failure => exact .ret _

theorem Factory.materialize_locks {factory : Factory σ}
    (careful : ∀ request, (factory request).run.Locks false false false) (settings : Settings)
    (target : Target) (invocations : List Invocation) :
    (factory.materialize settings target invocations).run.Locks false false false := by
  induction invocations with
  | nil => exact .ret _
  | cons invocation rest ih =>
      apply locks_bind (locks_catchFailure (careful _))
      intro built
      cases built with
      | ok task => exact locks_bind ih fun _ => .ret _
      | error failure =>
          simp only
          split
          · exact locks_bind (locks_emit _) fun _ => locks_bind ih fun _ => .ret _
          · exact .ret _

theorem Batch.Careful.report {batch : Batch.{u} σ} (careful : batch.Careful) :
    batch.report.run.Locks false false false := by
  rw [Batch.report, Extractor.report_eq]
  split
  · exact .ret _
  · refine .act rfl fun t outside => ?_
    change t.inPass = false at outside
    change (if t.inPass then fail .insidePass else _ : Routine σ Report).run.Locks false false false
    rw [outside]
    apply locks_bind (careful.resolver _ _)
    intro pair
    have tracing : (batch.extractor.tracing pair (batch.programs.zip batch.params)
        batch.filter).run.Locks false true true := by
      apply locks_bind (locks_failing rfl)
      intro _
      apply locks_bind (locks_intercepting _ (locks_quietly _ (careful.pipeline.passes _ pair 0 _)))
      exact fun _ => locks_bind (locks_failing rfl) fun _ => .ret _
    apply locks_bind (locks_exclusively tracing)
    intro invocations
    apply locks_bind (Factory.materialize_locks careful.factory _ _ _)
    exact fun _ => locks_bind (locks_emit _) fun _ => .ret _

theorem Batch.locks_nested (batch : Batch.{u} σ) (held : Bool) :
    batch.report.run.Locks true held held := by
  rw [Batch.report, Extractor.report_eq]
  split
  · exact .ret _
  · refine .act rfl fun t inside => ?_
    change t.inPass = true at inside
    change (if t.inPass then fail .insidePass else _ : Routine σ Report).run.Locks true held held
    rw [inside]
    exact .ret _

/-! ### Running code -/

inductive Shift (caller : Nat) : Bool → Bool → Option Nat → Option Nat → Prop
  | kept (held : Bool) (session : Option Nat) : Shift caller held held session session
  | took : Shift caller false true none (some caller)
  | gave (session : Option Nat) : Shift caller true false session none

namespace Shift

variable {caller : Nat} {held later : Bool} {before after : Option Nat}

theorem own (shift : Shift caller held later before after)
    (holds : before = some caller ↔ held = true) : after = some caller ↔ later = true := by
  cases shift with
  | kept => exact holds
  | took => simp
  | gave => simp

theorem other (shift : Shift caller held later before after)
    (holds : before = some caller ↔ held = true) {other : Nat} (differ : caller ≠ other) :
    after = some other ↔ before = some other := by
  cases shift with
  | kept => rfl
  | took => simp [differ]
  | gave => simp [holds.mpr rfl, differ]

end Shift

namespace Running

def Locks (caller : Nat) : {α : Type} → Bool → Running σ α → Bool → Prop
  | _, held, .on t code, left => t.caller = caller ∧ code.Locks t.inPass held left
  | _, held, .joining t body next, left => t.caller = caller ∧ ∃ joined,
      Locks caller held body joined ∧ ∀ value, (next value).Locks t.inPass joined left

variable {caller : Nat} {held left : Bool}

theorem Locks.next {running next : Running σ α} {world after : World σ} {moment : Option (Moment σ)}
    (locks : running.Locks caller held left) (step : running.Step world moment next after) :
    ∃ later, next.Locks caller later left ∧ Shift caller held later world.session after.session := by
  induction step generalizing held left with
  | @act _ _ action rest t world ready =>
      obtain ⟨works, keeps⟩ := locks
      have same := action.perform_inPass t world
      have works' := (action.perform_caller t world).trans works
      cases keeps with
      | act other later =>
          have honest := action.perform_honest t world
          refine ⟨held, ⟨works', ?_⟩, ?_⟩
          · rw [same]
            exact later _ honest
          · rw [action.perform_session other]
            exact .kept held _
      | lock later =>
          have free : world.session = none := Option.isNone_iff_eq_none.mp ready
          refine ⟨true, ⟨works', later⟩, ?_⟩
          rw [free, ← works]
          exact .took
      | unlock later => exact ⟨false, ⟨works', later⟩, .gave _⟩
  | fork =>
      obtain ⟨works, keeps⟩ := locks
      cases keeps with
      | fork thread within later =>
          exact ⟨held, ⟨works, held, ⟨works, within⟩, later⟩, .kept held _⟩
  | inside _ ih =>
      obtain ⟨works, joined, body, later⟩ := locks
      obtain ⟨held', body', shift⟩ := ih body
      exact ⟨held', ⟨works, joined, body', later⟩, shift⟩
  | join =>
      obtain ⟨works, joined, ⟨-, ended⟩, later⟩ := locks
      cases ended
      exact ⟨held, ⟨works, later _⟩, .kept held _⟩

theorem Locks.steps {running : Running σ α} (locks : running.Locks caller true left)
    (unended : ¬ running.Ended) (world : World σ) :
    ∃ moment next after, running.Step world moment next after := by
  induction running generalizing left with
  | on t code =>
      cases code with
      | ret value => exact absurd ⟨t, value, rfl⟩ unended
      | fork thread body next => exact ⟨_, _, _, .fork⟩
      | act action next =>
          have ready : action.ready world = true := by
            obtain ⟨-, keeps⟩ := locks
            cases keeps with
            | act other _ => cases action <;> first | rfl | cases other
            | unlock => rfl
          exact ⟨_, _, _, .act ready⟩
  | joining t body next ih =>
      obtain ⟨-, joined, inner, -⟩ := locks
      by_cases ended : body.Ended
      · obtain ⟨thread, value, rfl⟩ := ended
        exact ⟨_, _, _, .join⟩
      · obtain ⟨moment, body', after, step⟩ := ih inner ended
        exact ⟨moment, _, after, .inside step⟩

end Running

/-! ### Calls that wait for themselves -/

namespace System

variable {n : Nat} {τ : Fin n → Type} {calls : Fin n → Call.{u} (Parts τ)} {start : World (Parts τ)}
  {system : System τ}

/-- The call has not ended and cannot go on, and the session lock that it waits for is its own: the
thread that holds it is the one that waits, or one that joins it. -/
structure SelfWaits (system : System τ) (index : Fin n) : Prop where
  holds : system.world.session = some index.val
  unended : ¬ (system.running index).Ended
  stuck : ∀ moment running world, ¬ (system.running index).Step system.world moment running world

/-- Each call keeps to the lock, and holds it if its number stands there. -/
structure Lawful (holds : Fin n → Bool) (system : System τ) : Prop where
  locks : ∀ index, (system.running index).Locks index.val (holds index) false
  session : ∀ index : Fin n, system.world.session = some index.val ↔ holds index = true

theorem Lawful.next {holds : Fin n → Bool} (lawful : Lawful holds system) {later : System τ}
    (step : Step calls system later) : ∃ holds, Lawful holds later := by
  cases step with
  | deliver | expire => exact ⟨holds, lawful.locks, lawful.session⟩
  | @move index moment running world step =>
      obtain ⟨held, locks, shift⟩ := (lawful.locks index).next step
      have own := lawful.session index
      refine ⟨fun other => if other = index then held else holds other, fun other => ?_,
        fun other => ?_⟩
      · by_cases same : other = index
        · subst same
          simpa [moved] using locks
        · simpa [moved, same] using lawful.locks other
      · by_cases same : other = index
        · subst same
          simpa [moved] using shift.own own
        · have differ : index.val ≠ other.val := fun equal => same (Fin.ext equal.symm)
          simpa [moved, same] using (shift.other own differ).trans (lawful.session other)

theorem Lawful.initial (careful : ∀ index, (calls index).batch.Careful)
    (free : ∀ index : Fin n, start.session ≠ some index.val) :
    Lawful (fun _ => false) (initial calls start) where
  locks index := by
    refine ⟨rfl, ?_⟩
    cases (calls index).thread.inPass with
    | false => exact (careful index).report
    | true => exact (calls index).batch.locks_nested false
  session index := by simpa [System.initial] using free index

theorem Reached.lawful (careful : ∀ index, (calls index).batch.Careful)
    (free : ∀ index : Fin n, start.session ≠ some index.val) (reached : Reached calls start system) :
    ∃ holds, Lawful holds system := by
  induction reached with
  | refl => exact ⟨_, Lawful.initial careful free⟩
  | step _ step ih =>
      obtain ⟨holds, lawful⟩ := ih
      exact lawful.next step

end System

/-- While the session is held, an extraction that is not refused blocks. -/
theorem Batch.refused_or_blocked (inner : Batch.{u} σ) {t thread : Thread} {world resolved : World σ}
    {answer : Except Exit TargetPair} {holder : Nat}
    (resolves : inner.resolving.run.exec t world = some (answer, thread, resolved))
    (held : resolved.session = some holder) :
    (inner.programs.length = inner.params.length ∧ t.inPass = false ∧ answer.isOk = true ∧
        inner.report.run.exec t world = none) ∨
      (¬ (inner.programs.length = inner.params.length ∧ t.inPass = false ∧ answer.isOk = true) ∧
        ∃ exit thread' last, inner.report.run.exec t world = some (.error exit, thread', last)) := by
  by_cases paired : inner.programs.length = inner.params.length
  · cases outside : t.inPass with
    | true => exact Or.inr ⟨by simp, _, _, _, inner.exec_report_nested outside world⟩
    | false =>
        rw [inner.exec_report paired outside, resolves, Option.bind_some]
        cases answer with
        | error exit => exact Or.inr ⟨fun allowed => Bool.noConfusion allowed.2.2, exit, _, _, rfl⟩
        | ok pair =>
            refine Or.inl ⟨paired, rfl, rfl, ?_⟩
            simp only [onward, Extractor.resolved]
            rw [Routine.exec_bind, Extractor.traced_eq, exec_exclusively_held held]
            rfl
  · exact Or.inr ⟨fun allowed => paired allowed.1, _, _, _,
      inner.extractor.exec_report_unpaired _ _ _ _ _ paired t world⟩

namespace System

variable {n : Nat} {τ : Fin n → Type} {calls : Fin n → Call.{u} (Parts τ)} {start : World (Parts τ)}
  {system : System τ}

/-- No call waits for itself as long as the collaborators start extractions on the threads of passes
only, or where the lock is free. An extraction that is started elsewhere while the lock is held blocks,
unless its lists differ in length or its resolver does not answer. -/
theorem Reached.never_self_waits (careful : ∀ index, (calls index).batch.Careful)
    (free : ∀ index : Fin n, start.session ≠ some index.val) (reached : Reached calls start system) :
    (∀ index, ¬ system.SelfWaits index) ∧
    ∀ (inner : Batch.{u} (Parts τ)) (t thread : Thread) (world resolved : World (Parts τ))
      (answer : Except Exit TargetPair) (holder : Nat),
      inner.resolving.run.exec t world = some (answer, thread, resolved) →
      resolved.session = some holder →
      (inner.programs.length = inner.params.length ∧ t.inPass = false ∧ answer.isOk = true ∧
          inner.report.run.exec t world = none) ∨
        (¬ (inner.programs.length = inner.params.length ∧ t.inPass = false ∧ answer.isOk = true) ∧
          ∃ exit thread' last,
            inner.report.run.exec t world = some (.error exit, thread', last)) := by
  refine ⟨?_, fun inner _ _ _ _ _ _ resolves held => inner.refused_or_blocked resolves held⟩
  rintro index ⟨held, unended, stuck⟩
  -- The lock is held by the call that waits, and whoever holds the lock can go on.
  obtain ⟨holds, lawful⟩ := reached.lawful careful free
  have locks := lawful.locks index
  rw [(lawful.session index).mp held] at locks
  obtain ⟨moment, running, world, step⟩ := locks.steps unended system.world
  exact stuck moment running world step

end System

theorem Pipeline.nesting_careful (other : Batch.{u} σ) : (Pipeline.nesting other).Careful where
  lower program _ _ _ := by
    have dispatching : ∀ invocation,
        (dispatch invocation : Routine σ Decision).run.Locks true true true := by
      intro invocation
      apply locks_bind (locks_failing rfl)
      intro hook
      cases hook with
      | none => exact .ret _
      | some hook => exact locks_attempt rfl
    cases program with
    | none => exact locks_bind (other.locks_nested true) fun _ => .ret _
    | some invocation =>
        apply locks_bind (locks_bind (locks_catchFailure (other.locks_nested true)) fun _ => .ret _)
        exact fun _ => locks_bind (dispatching invocation) fun _ => .ret _
  clearFunctions _ := .ret _
  clearFallback _ impossible := nomatch impossible

theorem Batch.nesting_careful (other : Batch.{u} σ) : (nesting other).Careful where
  pipeline := Pipeline.nesting_careful other
  resolver _ _ := .ret _
  factory _ := .ret _

/-- Places from which a running batch may start an extraction that is not refused. -/
inductive Elsewhere
  | helper
  | facade
  | clearFunctions
  | clearFallback
deriving DecidableEq

def Batch.selfCalling (place : Elsewhere) : Batch.{0} σ :=
  let inner : Batch.{0} σ := .replay "inner" [] none
  let clear : Code σ (Except Panic Unit) := do
    if (← Code.perform .thread).inPass then return .ok ()
    discard inner.report.run
    return .ok ()
  { Program := Unit
    Params := Unit
    extractor :=
      { pipeline :=
          { lower := fun _ _ _ _ => match place with
              | .helper => discard (onThread {} inner.report)
              | .facade => discard (inner.extractor.reportAwaited 1 inner.programs inner.params
                  inner.filter inner.target inner.host none (.ret false))
              | _ => pure ()
            clearFunctions := if place = .clearFunctions then clear else .ret (.ok ())
            clearFallback := if place = .clearFallback then some clear else none } }
    programs := [()]
    params := [()]
    filter := none
    target := default
    host := none }

namespace System

theorem SelfWaits.of_stuck {n : Nat} {τ : Fin n → Type} {system : System τ} {index : Fin n}
    (holds : system.world.session = some index.val)
    (stuck : ((system.running index).advance system.world).isNone = true)
    (unfinished : ((system.running index).finish system.world).isNone = true) :
    system.SelfWaits index where
  holds := holds
  unended := by
    rintro ⟨thread, value, done⟩
    rw [done] at unfinished
    cases unfinished
  stuck moment running world step := by
    rw [step.advance] at stuck
    cases stuck

def Trapped (batch : Batch.{0} (Parts fun _ : Fin 1 => Unit)) : Prop :=
  ∃ system, Reached (fun _ => { batch }) (.initial fun _ => ()) system ∧ system.SelfWaits 0

theorem trapped_of_stuck {batch : Batch.{0} (Parts fun _ : Fin 1 => Unit)} (turns : List (Fin 1))
    (stuck : let calls : Fin 1 → Call (Parts fun _ => Unit) := fun _ => { batch }
      let system := turns.foldl (advance calls) (initial calls (.initial fun _ => ()))
      system.world.session = some 0 ∧ ((system.running 0).advance system.world).isNone = true ∧
        ((system.running 0).finish system.world).isNone = true) : Trapped batch := by
  obtain ⟨holds, waits, unfinished⟩ := stuck
  exact ⟨_, Reached.refl.run turns, .of_stuck holds waits unfinished⟩

/-- From each of these places the extraction is not refused, and its batch waits for ever. -/
theorem self_waits_elsewhere :
    Trapped (.selfCalling .helper) ∧ Trapped (.selfCalling .facade) ∧
      Trapped (.selfCalling .clearFunctions) ∧ Trapped (.selfCalling .clearFallback) := by
  refine ⟨?_, ?_, ?_, ?_⟩
  · exact trapped_of_stuck (List.replicate 40 0) (by decide +kernel)
  · exact trapped_of_stuck (List.replicate 40 0) (by decide +kernel)
  · exact trapped_of_stuck (List.replicate 40 0) (by decide +kernel)
  · exact trapped_of_stuck (List.replicate 40 0) (by decide +kernel)

theorem never_self_waits_nesting :
    let start : World (Parts fun _ : Fin 2 => Unit) := .initial fun _ => ()
    let inner : Batch.{0} (Parts fun _ : Fin 2 => Unit) := .replay "inner" [] none
    let calls : Fin 2 → Call.{0} (Parts fun _ => Unit) := fun _ => { batch := .nesting inner }
    ∃ system, Reached calls start system ∧ (∀ index, ¬ system.SelfWaits index) ∧
      (system.answers 0).map Except.isOk = some false ∧
      (system.answers 1).map Except.isOk = some false ∧
      inner.report.run.exec {} (start.locked 0) = none := by
  intro start inner calls
  have begun : Reached calls start (initial calls start) := .refl
  have reached := begun.run (List.replicate 60 [0, 1]).flatten
  obtain ⟨never, others⟩ := Reached.never_self_waits (fun _ => Batch.nesting_careful inner)
    (fun _ => (Option.some_ne_none _).symm) reached
  refine ⟨_, reached, never, ?_, ?_, ?_⟩
  · decide +kernel
  · decide +kernel
  · have resolves : inner.resolving.run.exec {} (start.locked 0) =
        some (.ok ⟨default, none⟩, {}, start.locked 0) := rfl
    rcases others inner {} {} (start.locked 0) (start.locked 0) _ 0 resolves rfl with
      ⟨-, -, -, blocked⟩ | ⟨refused, -⟩
    · exact blocked
    · exact absurd ⟨rfl, rfl, rfl⟩ refused

end System

end TuningTasks
