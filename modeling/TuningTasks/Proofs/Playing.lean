import TuningTasks.Proofs.Turns

/-!
An extraction plays its role when its pipeline keeps to the traced part and dispatches nowhere else,
and its resolver and factory keep to themselves. It then goes through its stages in order, whatever
its collaborators answer, and says that something else is being traced only if one of them does.
-/
namespace TuningTasks

universe u v
variable {n : Nat} {τ : Fin n → Type} {α β : Type}

def Untraced (ended : Except Exit α) : Prop :=
  ∀ failure, ended = .error (.failure failure) → failure.kind ≠ .alreadyTracing

theorem Untraced.ok (value : α) : Untraced (.ok value) := fun _ impossible => nomatch impossible

theorem Untraced.panic (panic : Panic) : Untraced (.error (.panic panic) : Except Exit α) :=
  fun _ impossible => nomatch impossible

theorem Untraced.failure {failure : Failure} (other : failure.kind ≠ .alreadyTracing) :
    Untraced (.error (.failure failure) : Except Exit α) := by
  intro given same
  cases same
  exact other

theorem Untraced.error {exit : Exit} (untraced : Untraced (.error exit : Except Exit α)) :
    Untraced (.error exit : Except Exit β) := by
  intro failure same
  cases same
  exact untraced failure rfl

theorem Failure.wrapped_kind (failure : Failure) : failure.wrapped.kind = .loweringFailure := by
  rw [wrapped]
  split
  · assumption
  · rfl

namespace Role

variable {role : Role n} {inside : Bool} {stage : Stage} {routine : Routine (Parts τ) α}

theorem stays_untraced {rest : α → Routine (Parts τ) β}
    (first : role.Stays inside stage routine.run Untraced)
    (ok : ∀ value, role.Stays inside stage (rest value).run Untraced) :
    role.Stays inside stage (routine >>= rest).run Untraced := by
  apply stays_bind first
  · exact fun value _ => ok value
  · exact fun exit untraced => untraced.error

theorem stays_clearing {clear : Code (Parts τ) (Except Panic Unit)}
    (stays : role.Stays inside stage clear fun _ => True) :
    role.Stays inside stage (Routine.panicking clear).run Untraced := by
  apply (keeps_panicking stays).mono
  rintro later ended ⟨answer, rfl, same, -⟩
  cases answer with
  | ok value => exact ⟨same, .ok value⟩
  | error panic => exact ⟨same, .panic panic⟩

theorem stays_emit_untraced (event : Event) :
    role.Stays inside stage (Routine.emit event : Routine (Parts τ) Unit).run Untraced := by
  apply (keeps_emit event).mono
  rintro later ended ⟨same, rfl⟩
  exact ⟨same, .ok ()⟩

/-- In the traced part a dispatch always finds the ledger and is answered by it. -/
theorem stays_dispatch (call : Invocation) :
    role.Stays inside .tracing (Routine.dispatch call : Routine (Parts τ) Decision).run fun ended =>
      ∃ decision, ended = .ok decision := by
  refine keeps_bind (keeps_failing .look fun _ _ same => same) ?_ ?_
  · rintro later hook ⟨_, found, rfl, rfl⟩
    cases found
    have asking : role.Turn (.consult (.ledger role.ledger) call : Action (Parts τ) _)
        .tracing .tracing := .ask call
    exact keeps_perform asking fun _ _ same => same
  · rintro later exit ⟨_, failed, -, rfl⟩
    cases failed

theorem stays_isolated (settings : Settings) (index : Nat) {body : Routine (Parts τ) Unit}
    (stays : role.Stays true .tracing body.run Untraced) :
    role.Stays inside .tracing (isolated settings index body) fun traced =>
      ∀ failure, traced = .error failure → failure.kind ≠ .alreadyTracing := by
  refine Keeps.bind (keeps_perform (.own .tracing trivial) fun _ _ same => same) ?_
  rintro later answer ⟨rfl, -⟩
  cases answer with
  | error reason =>
      refine ⟨rfl, ?_⟩
      intro failure same
      cases same
      exact FailureKind.noConfusion
  | ok _ =>
      have threaded : role.Stays inside .tracing (Code.onThread (settings.passThread index)
          (Routine.quietly settings.suppressLogs body).run) Untraced :=
        ⟨Untraced, keeps_quietly _ stays, fun ended holds => ⟨rfl, holds⟩⟩
      apply Keeps.bind threaded
      rintro later ended ⟨rfl, untraced⟩
      rcases ended with (failure | panic) | value
      · refine ⟨rfl, ?_⟩
        intro given same
        cases same
        exact untraced failure rfl
      · refine ⟨rfl, ?_⟩
        intro given same
        cases same
        exact FailureKind.noConfusion
      · exact ⟨rfl, fun _ impossible => nomatch impossible⟩

end Role

namespace Batch

variable (batch : Batch.{u} (Parts τ))

/-- The ledger and the filter are those of the role, and each collaborator keeps to its stage. -/
structure Plays (role : Role n) : Prop where
  ledger : role.ledger = batch.extractor.ledger
  filter : role.filter = batch.filter
  resolver : role.Stays false .outside batch.resolving.run Untraced
  lower : ∀ program pair params config,
    role.Stays true .tracing (batch.extractor.pipeline.lower program pair params config).run
      fun _ => True
  clearFunctions : ∀ inside,
    role.Stays inside .tracing batch.extractor.pipeline.clearFunctions fun _ => True
  clearFallback : ∀ clear, batch.extractor.pipeline.clearFallback = some clear →
    role.Stays false .tracing clear fun _ => True
  factory : ∀ request, role.Stays false .closed (batch.extractor.factory request).run Untraced

namespace Plays

open Role

variable {batch} {role : Role n} (plays : batch.Plays role)

include plays

theorem stays_lowering (pair : TargetPair) (program : batch.Program) (params : batch.Params) :
    role.Stays true .tracing (batch.extractor.pipeline.lowering pair program params).run Untraced := by
  have caught : role.Stays true .tracing (Routine.catchFailure (batch.extractor.pipeline.lower program
      pair params (PassConfig.ofTarget pair.target))).run Untraced := by
    apply keeps_catchFailure (plays.lower program pair params _)
    · exact fun later value holds => ⟨holds.1, .ok _⟩
    · exact fun later failure holds => ⟨holds.1, .ok _⟩
    · exact fun later panic holds => ⟨holds.1, .panic panic⟩
  -- The cache is cleared before anybody looks at how the lowering ended.
  apply stays_untraced caught
  intro lowered
  apply stays_untraced (stays_clearing (plays.clearFunctions true))
  intro _
  cases lowered with
  | ok _ => exact ⟨rfl, .ok ()⟩
  | error failure =>
      refine ⟨rfl, .failure ?_⟩
      rw [failure.wrapped_kind]
      exact FailureKind.noConfusion

theorem stays_pass (pair : TargetPair) (program : batch.Program) (params : batch.Params) :
    role.Stays true .tracing (batch.extractor.pipeline.pass pair program params).run Untraced := by
  have lowering := plays.stays_lowering pair program params
  apply stays_untraced (stays_clearing (plays.clearFunctions true))
  intro _
  cases backend : (PassConfig.ofTarget pair.target).auxiliaryBackend with
  | none =>
      simp only [backend]
      exact lowering
  | some name =>
      simp only [backend]
      exact stays_untraced (stays_emit_untraced _) fun _ => lowering

theorem stays_passes (pair : TargetPair) (index : Nat) (work : List (batch.Program × batch.Params)) :
    role.Stays false .tracing
      (batch.extractor.pipeline.passes batch.extractor.settings pair index work).run Untraced := by
  have clear := stays_clearing (plays.clearFunctions false)
  induction work generalizing index with
  | nil => exact ⟨rfl, .ok ()⟩
  | cons item rest ih =>
      obtain ⟨program, params⟩ := item
      have further : ∀ traced : Except Failure Unit,
          (∀ failure, traced = .error failure → failure.kind ≠ .alreadyTracing) →
          role.Stays false .tracing (batch.extractor.pipeline.further batch.extractor.settings pair
            index rest traced).run Untraced := by
        intro traced untraced
        cases traced with
        | ok _ => exact ih (index + 1)
        | error failure => exact ⟨rfl, .failure (untraced failure rfl)⟩
      apply stays_untraced clear
      intro _
      apply keeps_lift_bind (stays_isolated _ index (plays.stays_pass pair program params))
      rintro _ traced ⟨rfl, untraced⟩
      apply stays_untraced clear
      intro _
      cases fallback : batch.extractor.pipeline.clearFallback with
      | none => exact further traced untraced
      | some clearing =>
          exact stays_untraced (stays_clearing (plays.clearFallback clearing fallback))
            fun _ => further traced untraced

theorem keeps_tracing (pair : TargetPair) :
    role.Keeps false .locked (batch.extractor.tracing pair (batch.programs.zip batch.params)
      batch.filter).run fun later ended => later = .left ∧ Untraced ended := by
  have emptying : role.Turn (.resetLedger batch.extractor.ledger batch.filter : Action (Parts τ) _)
      .locked .emptied := by
    rw [← plays.ledger, ← plays.filter]
    exact .empty
  have reading : role.Turn (.readLedger batch.extractor.ledger : Action (Parts τ) _) .left .left := by
    rw [← plays.ledger]
    exact .read
  have scope := keeps_intercepting
    (keeps_quietly batch.extractor.settings.suppressLogs
      (plays.stays_passes pair 0 (batch.programs.zip batch.params)))
  rw [plays.ledger] at scope
  -- The ledger of the role is sound, so it refuses neither to be emptied nor to be read.
  refine keeps_bind (keeps_failing emptying fun _ _ same => same) ?_ ?_
  · rintro later _ ⟨_, -, rfl, -⟩
    apply keeps_bind scope
    · rintro later _ ⟨rfl, -⟩
      refine keeps_bind (keeps_failing reading fun _ _ same => same) ?_ ?_
      · rintro later ledger ⟨_, -, rfl, -⟩
        exact ⟨rfl, .ok _⟩
      · rintro later exit ⟨_, failed, -, ledger, rfl⟩
        cases failed
    · exact fun later exit holds => ⟨holds.1, holds.2.error⟩
  · rintro later exit ⟨_, failed, -, rfl⟩
    cases failed

theorem stays_materialize (target : Target) (calls : List Invocation) :
    role.Stays false .closed
      (batch.extractor.factory.materialize batch.extractor.settings target calls).run Untraced := by
  induction calls with
  | nil => exact ⟨rfl, .ok _⟩
  | cons call rest ih =>
      have caught : role.Stays false .closed (Routine.catchFailure (batch.extractor.factory
          (call.request batch.extractor.settings target))).run fun ended =>
            Untraced ended ∧
              ∀ failure, ended = .ok (.error failure) → failure.kind ≠ .alreadyTracing := by
        apply keeps_catchFailure (plays.factory _)
        · exact fun later value holds => ⟨holds.1, .ok _, fun _ impossible => nomatch impossible⟩
        · rintro later failure ⟨same, untraced⟩
          refine ⟨same, .ok _, ?_⟩
          intro given equal
          cases equal
          exact untraced failure rfl
        · exact fun later panic holds => ⟨holds.1, .panic panic, fun _ impossible => nomatch impossible⟩
      refine stays_bind caught ?_ fun exit holds => holds.1.error
      rintro built ⟨-, honest⟩
      cases built with
      | ok task => exact stays_untraced ih fun _ => ⟨rfl, .ok _⟩
      | error failure =>
          simp only
          split
          · exact stays_untraced (stays_emit_untraced _) fun _ =>
              stays_untraced ih fun _ => ⟨rfl, .ok _⟩
          · exact ⟨rfl, .failure (honest failure rfl)⟩

theorem stays_concluded (pair : TargetPair) (calls : List Invocation) :
    role.Stays false .closed
      (batch.extractor.concluded batch.programs.length pair calls).run Untraced := by
  apply stays_untraced (plays.stays_materialize _ calls)
  intro made
  exact stays_untraced (stays_emit_untraced _) fun _ => ⟨rfl, .ok _⟩

/-- On a thread outside every pass the only refusals are those of unpaired lists and of the resolver. -/
theorem keeps_report : role.Keeps false .outside batch.report.run fun later ended =>
    (later = .outside ∨ later = .closed) ∧ Untraced ended := by
  have traced : ∀ pair, role.Keeps false .outside (batch.extractor.traced pair
      (batch.programs.zip batch.params) batch.filter).run fun later ended =>
        later = .closed ∧ Untraced ended :=
    fun pair => keeps_exclusively (plays.keeps_tracing pair)
  rw [report, Extractor.report_eq]
  by_cases differ : batch.programs.length ≠ batch.params.length
  · rw [if_pos differ]
    exact ⟨Or.inl rfl, .failure FailureKind.noConfusion⟩
  · rw [if_neg differ]
    refine keeps_lift_bind (keeps_perform (.own .outside trivial) fun _ _ same => same) ?_
    rintro _ t ⟨rfl, outside⟩
    have allowed : ¬ t.inPass = true := ne_true_of_eq_false outside
    rw [if_neg allowed]
    apply keeps_bind plays.resolver
    · rintro later pair ⟨rfl, -⟩
      apply keeps_bind (traced pair)
      · rintro later calls ⟨rfl, -⟩
        apply (plays.stays_concluded pair calls).mono
        exact fun later ended holds => ⟨Or.inr holds.1, holds.2⟩
      · exact fun later exit holds => ⟨Or.inr holds.1, holds.2.error⟩
    · exact fun later exit holds => ⟨Or.inl holds.1, holds.2.error⟩

end Plays

theorem replay_plays (role : Role n) (programs : List (List Invocation)) :
    (Batch.replay role.ledger programs role.filter : Batch (Parts τ)).Plays role where
  ledger := rfl
  filter := rfl
  resolver := ⟨rfl, .ok _⟩
  lower program _ _ _ := by
    induction program with
    | nil => exact ⟨rfl, trivial⟩
    | cons call rest ih =>
        have first : role.Stays true .tracing
            (discard (Routine.dispatch call) : Routine (Parts τ) Unit).run fun _ => True := by
          apply (Role.stays_dispatch call).bind
          rintro later ended ⟨rfl, decision, rfl⟩
          exact ⟨rfl, trivial⟩
        exact Role.stays_bind first (fun _ _ => ih) fun _ _ => trivial
  clearFunctions _ := ⟨rfl, trivial⟩
  clearFallback _ impossible := nomatch impossible
  factory _ := ⟨rfl, .ok _⟩

end Batch

end TuningTasks
