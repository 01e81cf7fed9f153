import TuningTasks.Proofs.Stages

/-!
Tidy code holds scopes, muting guards and the session lock for the length of a body only, and reaches
a hook by dispatching. It is closed under every way to build routines, so a whole extraction is tidy
when its collaborators are. Tidy code gives back what it takes on every way out (`Tidy.restores`).
-/
namespace TuningTasks

universe u v
variable {σ α β : Type} {Program : Type u} {Params : Type v} {waits : Bool}

/-- Neither takes nor gives back a scope, a guard or the session lock, nor asks a hook. -/
def Action.Plain : Action σ β → Prop
  | .mute | .unmute _ | .installedHook | .consult .. | .install _ | .uninstall
  | .lockSession | .unlockSession => False
  | _ => True

namespace Code

/-- `waits` says whether the code may take the session lock, and so may have to wait for it. -/
inductive Tidy {σ : Type} (waits : Bool) : {α : Type} → Code σ α → Prop
  | ret {α : Type} (value : α) : Tidy waits (ret value)
  | act {α β : Type} {action : Action σ β} {next : β → Code σ α} (plain : action.Plain)
      (rest : ∀ answer, Tidy waits (next answer)) : Tidy waits (act action next)
  | fork {α β : Type} (thread : Thread) {body : Code σ β} {next : β → Code σ α}
      (inside : Tidy waits body) (rest : ∀ answer, Tidy waits (next answer)) :
      Tidy waits (fork thread body next)
  | dispatch {α : Type} (invocation : Invocation) {next : Except Exit Decision → Code σ α}
      (rest : ∀ answer, Tidy waits (next answer)) :
      Tidy waits ((Routine.dispatch invocation).run.bind next)
  | scope {α β : Type} (hook : Hook σ) {body : Routine σ β} {next : Except Exit β → Code σ α}
      (inside : Tidy waits body.run) (rest : ∀ answer, Tidy waits (next answer)) :
      Tidy waits ((Routine.intercepting hook body).run.bind next)
  | quiet {α β : Type} {body : Routine σ β} {next : Except Exit β → Code σ α}
      (inside : Tidy waits body.run) (rest : ∀ answer, Tidy waits (next answer)) :
      Tidy waits ((Routine.quietly true body).run.bind next)
  | session {α β : Type} (may : waits = true) {body : Routine σ β} {next : Except Exit β → Code σ α}
      (inside : Tidy waits body.run) (rest : ∀ answer, Tidy waits (next answer)) :
      Tidy waits ((Routine.exclusively body).run.bind next)

theorem Tidy.bind {code : Code σ α} {f : α → Code σ β} (tidy : code.Tidy waits)
    (rest : ∀ value, (f value).Tidy waits) : (code.bind f).Tidy waits := by
  induction tidy with
  | ret value => exact rest value
  | act plain _ ih => exact .act plain fun answer => ih answer rest
  | fork thread inside _ _ ih => exact .fork thread inside fun answer => ih answer rest
  | dispatch invocation _ ih =>
      rw [bind_assoc]
      exact .dispatch invocation fun answer => ih answer rest
  | scope hook inside _ _ ih =>
      rw [bind_assoc]
      exact .scope hook inside fun answer => ih answer rest
  | quiet inside _ _ ih =>
      rw [bind_assoc]
      exact .quiet inside fun answer => ih answer rest
  | session may inside _ _ ih =>
      rw [bind_assoc]
      exact .session may inside fun answer => ih answer rest

theorem Tidy.waiting {code : Code σ α} (tidy : code.Tidy waits) : code.Tidy true := by
  induction tidy with
  | ret value => exact .ret value
  | act plain _ ih => exact .act plain ih
  | fork thread _ _ inner ih => exact .fork thread inner ih
  | dispatch invocation _ ih => exact .dispatch invocation ih
  | scope hook _ _ inner ih => exact .scope hook inner ih
  | quiet _ _ inner ih => exact .quiet inner ih
  | session _ _ _ inner ih => exact .session rfl inner ih

end Code

/-! ### What a run leaves behind -/

/-- Nothing that scopes, guards and locks stand for has changed. -/
structure Restored (t : Thread) (world : World σ) (thread : Thread) (last : World σ) : Prop where
  thread : thread = t
  hook : last.hook = world.hook
  session : last.session = world.session
  guards : last.guards = world.guards
  poisoned : ∀ name, (last.ledgers name).poisoned = (world.ledgers name).poisoned

namespace Restored

theorem refl (t : Thread) (world : World σ) : Restored t world t world :=
  ⟨rfl, rfl, rfl, rfl, fun _ => rfl⟩

theorem trans {t middle thread : Thread} {world between last : World σ}
    (first : Restored t world middle between) (second : Restored middle between thread last) :
    Restored t world thread last where
  thread := second.thread.trans first.thread
  hook := second.hook.trans first.hook
  session := second.session.trans first.session
  guards := second.guards.trans first.guards
  poisoned := fun name => (second.poisoned name).trans (first.poisoned name)

end Restored

namespace World

theorem record_poisoned {world : World σ} (silent : world.Silent) (thread : Thread)
    (name other : String) (invocation : Invocation) :
    ((world.record thread name invocation).2.ledgers other).poisoned =
      (world.ledgers other).poisoned := by
  by_cases sound : (world.ledgers name).poisoned = false
  · obtain ⟨log, recorded⟩ := record_sound silent sound thread invocation
    rw [recorded]
    by_cases here : other = name
    · simp [setLedger, here, sound]
    · simp [setLedger, here]
  · have broken : (world.ledgers name).poisoned = true := by simpa using sound
    simp [record, broken]

theorem resetLedger_poisoned (world : World σ) (name other : String) (filter : Option Filter) :
    ((world.resetLedger name filter).2.ledgers other).poisoned =
      (world.ledgers other).poisoned := by
  simp only [resetLedger]
  split
  · rfl
  · rename_i sound
    by_cases here : other = name
    · simpa [setLedger, here] using sound
    · simp [setLedger, here]

theorem consult_poisoned {world : World σ} (silent : world.Silent) (thread : Thread)
    (hook : Hook σ) (invocation : Invocation) (other : String) :
    ((world.consult thread hook invocation).2.ledgers other).poisoned =
      (world.ledgers other).poisoned := by
  cases hook with
  | ledger name => exact record_poisoned silent thread name other invocation
  | custom answer => rfl

theorem consult_restored {world : World σ} (silent : world.Silent) (t : Thread) (hook : Hook σ)
    (invocation : Invocation) : Restored t world t (world.consult t hook invocation).2 := by
  have poisoned := fun other => consult_poisoned silent t hook invocation other
  obtain ⟨_, _, _, same⟩ := world.consult_frame t hook invocation
  rw [same] at poisoned ⊢
  exact ⟨rfl, rfl, rfl, rfl, poisoned⟩

theorem hook_cases (world : World σ) :
    world.hook.poisoned = true ∨ (∃ active, world.hook = { value := some active }) ∨
      world.hook = { value := none } := by
  rcases world.hook with ⟨_ | active, _ | _⟩
  · exact Or.inr (Or.inr rfl)
  · exact Or.inl rfl
  · exact Or.inr (Or.inl ⟨active, rfl⟩)
  · exact Or.inl rfl

end World

namespace Restored

variable {t final : Thread} {world after : World σ}

theorem joined {thread : Thread} (body : Restored thread world final after) :
    Restored t world t after :=
  ⟨rfl, body.hook, body.session, body.guards, body.poisoned⟩

theorem uninstalled {hook : Hook σ} (idle : world.hook = { value := none })
    (body : Restored t (world.installed t hook) final after) :
    Restored t world final (after.uninstalled final) where
  thread := body.thread
  hook := by
    have slot : (after.uninstalled final).hook = { after.hook with value := none } := rfl
    rw [slot, body.hook, idle]
    rfl
  session := body.session
  guards := body.guards
  poisoned := body.poisoned

theorem unguarded (body : Restored { t with muted := true } world.guarded final after) :
    Restored t world { final with muted := t.muted } after.unguarded where
  thread := by simp [body.thread]
  hook := body.hook
  session := body.session
  guards := by
    have one : after.unguarded.guards = after.guards - 1 := rfl
    rw [one, body.guards]
    rfl
  poisoned := body.poisoned

theorem unlocked (free : world.session = none)
    (body : Restored t (world.locked t.caller) final after) :
    Restored t world final after.unlocked :=
  ⟨body.thread, body.hook, free.symm, body.guards, body.poisoned⟩

end Restored

theorem Action.Plain.restores {action : Action σ β} (plain : action.Plain) {world : World σ}
    (silent : world.Silent) (t : Thread) :
    Restored t world (action.perform t world).2.1 (action.perform t world).2.2 := by
  cases action with
  | mute | unmute | installedHook | consult | install | uninstall | lockSession | unlockSession =>
      exact plain.elim
  | emit event =>
      simp only [perform, World.emit_snd]
      exact ⟨rfl, rfl, rfl, rfl, fun _ => rfl⟩
  | record name invocation =>
      have poisoned := fun other => World.record_poisoned silent t name other invocation
      obtain ⟨_, _, same⟩ := world.record_frame t name invocation
      simp only [perform]
      rw [same] at poisoned ⊢
      exact ⟨rfl, rfl, rfl, rfl, poisoned⟩
  | resetLedger name filter =>
      have poisoned := fun other => world.resetLedger_poisoned name other filter
      obtain ⟨_, same⟩ := world.resetLedger_frame name filter
      simp only [perform]
      rw [same] at poisoned ⊢
      exact ⟨rfl, rfl, rfl, rfl, poisoned⟩
  | warnOnce cache message =>
      obtain ⟨_, _, same⟩ := world.warnOnce_frame t cache message
      simp only [perform, same]
      exact ⟨rfl, rfl, rfl, rfl, fun _ => rfl⟩
  | thread | isTracing | readLedger | updateCache | spawn | client =>
      exact ⟨rfl, rfl, rfl, rfl, fun _ => rfl⟩

namespace Code

/-- On every way out of tidy code each scope, guard and lock is as it was. -/
theorem Tidy.restores {code : Code σ α} (tidy : code.Tidy waits) {t thread : Thread}
    {world last : World σ} {answer : α} (silent : world.Silent)
    (ended : code.exec t world = some (answer, thread, last)) : Restored t world thread last := by
  -- In each case something is taken, a body restores what it found, and that thing is given back.
  induction tidy generalizing t world thread last with
  | ret value =>
      simp only [exec, Option.some.injEq, Prod.mk.injEq] at ended
      obtain ⟨-, rfl, rfl⟩ := ended
      exact .refl _ _
  | act plain _ ih =>
      simp only [exec] at ended
      split at ended
      · have step := plain.restores silent t
        exact step.trans (ih _ (Action.perform_silent _ silent t) ended)
      · cases ended
  | fork thread' inside _ inner ih =>
      simp only [exec] at ended
      split at ended
      · rename_i value final after joined
        have body := inner silent joined
        exact body.joined.trans (ih value (exec_silent joined silent) ended)
      · cases ended
  | dispatch invocation _ ih =>
      rw [exec_bind, Routine.exec_dispatch] at ended
      simp only [Option.bind_some] at ended
      split at ended
      · exact ih _ silent ended
      · exact ih _ silent ended
      · rename_i hook _
        have step := World.consult_restored silent t hook invocation
        exact step.trans (ih _ (Action.perform_silent (.consult hook invocation) silent t) ended)
  | scope hook inside _ inner ih =>
      -- A refused scope has no body and nothing to give back.
      rw [exec_bind] at ended
      rcases world.hook_cases with broken | ⟨active, busy⟩ | idle
      · rw [Routine.exec_intercepting_refused (World.install_poisoned broken t hook)] at ended
        exact ih _ silent ended
      · rw [Routine.exec_intercepting_refused (World.install_active busy t hook)] at ended
        exact ih _ silent ended
      · rw [Routine.exec_intercepting_idle silent idle] at ended
        simp only [Option.bind_map, Option.bind_eq_some_iff, Function.comp_apply] at ended
        obtain ⟨⟨outcome, final, after⟩, ran, ended⟩ := ended
        have body := inner (silent.installed t hook) ran
        have quiet : after.Silent := exec_silent ran silent
        exact (body.uninstalled idle).trans (ih _ quiet ended)
  | quiet inside _ inner ih =>
      rw [exec_bind, Routine.exec_quietly] at ended
      simp only [Option.bind_map, Option.bind_eq_some_iff, Function.comp_apply] at ended
      obtain ⟨⟨outcome, final, after⟩, ran, ended⟩ := ended
      have body := inner silent.guarded ran
      have quiet : after.Silent := exec_silent ran silent
      exact body.unguarded.trans (ih _ quiet ended)
  | session _ inside _ inner ih =>
      cases held : world.session with
      | some holder =>
          rw [exec_bind, Routine.exec_exclusively_held held] at ended
          cases ended
      | none =>
          rw [exec_bind, Routine.exec_exclusively held] at ended
          simp only [Option.bind_map, Option.bind_eq_some_iff, Function.comp_apply] at ended
          obtain ⟨⟨outcome, final, after⟩, ran, ended⟩ := ended
          have body := inner (silent.locked t.caller) ran
          have quiet : after.Silent := exec_silent ran silent
          exact (body.unlocked held).trans (ih _ quiet ended)

/-- Tidy code that never takes the session lock runs to its end. -/
theorem Tidy.ends {code : Code σ α} (tidy : code.Tidy false) (t : Thread) {world : World σ}
    (silent : world.Silent) : ∃ ended, code.exec t world = some ended := by
  induction tidy generalizing t world with
  | ret value => exact ⟨_, rfl⟩
  | @act _ _ action next plain _ ih =>
      have ready : action.ready world = true := by
        cases action <;> first | rfl | exact plain.elim
      simp only [exec, ready, ↓reduceIte]
      exact ih _ _ (Action.perform_silent _ silent t)
  | @fork _ _ thread body next _ _ inner ih =>
      obtain ⟨⟨value, final, after⟩, joined⟩ := inner { thread with caller := t.caller } silent
      simp only [exec, joined]
      exact ih value t (exec_silent joined silent)
  | dispatch invocation _ ih =>
      rw [exec_bind]
      cases ran : (Routine.dispatch invocation).run.exec t world with
      | none => simp [Routine.exec_dispatch] at ran
      | some ended => exact ih _ _ (exec_silent ran silent)
  | scope hook _ _ inner ih =>
      -- Refused or not, the code goes on.
      rw [exec_bind]
      rcases world.hook_cases with broken | ⟨active, busy⟩ | idle
      · rw [Routine.exec_intercepting_refused (World.install_poisoned broken t hook)]
        exact ih _ t silent
      · rw [Routine.exec_intercepting_refused (World.install_active busy t hook)]
        exact ih _ t silent
      · obtain ⟨⟨outcome, final, after⟩, ran⟩ :=
          inner t (silent.installed t hook)
        have quiet : after.Silent := exec_silent ran silent
        rw [Routine.exec_intercepting_idle silent idle, ran]
        exact ih outcome final (quiet.uninstalled final)
  | quiet _ _ inner ih =>
      obtain ⟨⟨outcome, final, after⟩, ran⟩ := inner { t with muted := true } silent.guarded
      have quiet : after.Silent := exec_silent ran silent
      rw [exec_bind, Routine.exec_quietly, ran]
      exact ih outcome _ quiet.unguarded
  -- The only code that might wait is not allowed here.
  | session may _ _ _ _ => exact absurd may Bool.false_ne_true

end Code

/-! ### Tidy routines -/

namespace Routine

theorem tidy_pure (value : α) : (pure value : Routine σ α).run.Tidy waits := .ret _

theorem tidy_fail (failure : Failure) : (fail failure : Routine σ α).run.Tidy waits := .ret _

theorem tidy_bind {routine : Routine σ α} {rest : α → Routine σ β} (first : routine.run.Tidy waits)
    (later : ∀ value, (rest value).run.Tidy waits) : (routine >>= rest).run.Tidy waits := by
  apply Code.Tidy.bind first
  intro ended
  cases ended with
  | ok value => exact later value
  | error exit => exact .ret _

theorem tidy_lift {code : Code σ α} (tidy : code.Tidy waits) :
    (ExceptT.lift code : Routine σ α).run.Tidy waits :=
  tidy.bind fun _ => .ret _

theorem tidy_perform {action : Action σ α} (plain : action.Plain) :
    (perform action).run.Tidy waits :=
  tidy_lift (.act plain fun _ => .ret _)

theorem tidy_failing {action : Action σ (Except Failure α)} (plain : action.Plain) :
    (failing action).run.Tidy waits :=
  .act plain fun _ => .ret _

theorem tidy_panicking {code : Code σ (Except Panic α)} (tidy : code.Tidy waits) :
    (panicking code).run.Tidy waits :=
  tidy.bind fun _ => .ret _

theorem tidy_emit (event : Event) : (emit event : Routine σ Unit).run.Tidy waits :=
  tidy_panicking (.act trivial fun _ => .ret _)

theorem tidy_dispatch (invocation : Invocation) :
    (dispatch invocation : Routine σ Decision).run.Tidy waits := by
  rw [← Code.bind_ret (dispatch invocation).run]
  exact .dispatch invocation fun _ => .ret _

theorem tidy_catchFailure {routine : Routine σ α} (tidy : routine.run.Tidy waits) :
    (catchFailure routine).run.Tidy waits := by
  apply Code.Tidy.bind tidy
  intro ended
  rcases ended with (failure | panic) | value
  all_goals exact .ret _

theorem tidy_intercepting (hook : Hook σ) {body : Routine σ α} (tidy : body.run.Tidy waits) :
    (intercepting hook body).run.Tidy waits := by
  rw [← Code.bind_ret (intercepting hook body).run]
  exact .scope hook tidy fun _ => .ret _

theorem tidy_quietly (mute : Bool) {body : Routine σ α} (tidy : body.run.Tidy waits) :
    (quietly mute body).run.Tidy waits := by
  cases mute with
  | false => exact tidy
  | true =>
      rw [← Code.bind_ret (quietly true body).run]
      exact .quiet tidy fun _ => .ret _

theorem tidy_exclusively (may : waits = true) {body : Routine σ α} (tidy : body.run.Tidy waits) :
    (exclusively body).run.Tidy waits := by
  rw [← Code.bind_ret (exclusively body).run]
  exact .session may tidy fun _ => .ret _

end Routine

/-! ### Tidy extractions -/

structure Pipeline.Tidy (waits : Bool) (pipeline : Pipeline σ Program Params) : Prop where
  lower : ∀ program pair params config, (pipeline.lower program pair params config).run.Tidy waits
  clearFunctions : pipeline.clearFunctions.Tidy waits
  clearFallback : ∀ clear, pipeline.clearFallback = some clear → clear.Tidy waits

structure Extractor.Tidy (waits : Bool) (extractor : Extractor σ Program Params) : Prop where
  pipeline : extractor.pipeline.Tidy waits
  factory : ∀ request, (extractor.factory request).run.Tidy waits
  resolver : ∀ target host, (extractor.resolver target host).run.Tidy waits

open Routine

theorem Pipeline.Tidy.lowering {pipeline : Pipeline σ Program Params} (tidy : pipeline.Tidy waits)
    (pair : TargetPair) (program : Program) (params : Params) :
    (pipeline.lowering pair program params).run.Tidy waits := by
  apply tidy_bind (tidy_catchFailure (tidy.lower program pair params _))
  intro lowered
  apply tidy_bind (tidy_panicking tidy.clearFunctions)
  intro _
  cases lowered with
  | ok _ => exact tidy_pure ()
  | error failure => exact tidy_fail _

theorem Pipeline.Tidy.pass {pipeline : Pipeline σ Program Params} (tidy : pipeline.Tidy waits)
    (pair : TargetPair) (program : Program) (params : Params) :
    (pipeline.pass pair program params).run.Tidy waits := by
  have lowering := tidy.lowering pair program params
  apply tidy_bind (tidy_panicking tidy.clearFunctions)
  intro _
  cases backend : (PassConfig.ofTarget pair.target).auxiliaryBackend with
  | none =>
      simp only [backend]
      exact lowering
  | some name =>
      simp only [backend]
      exact tidy_bind (tidy_emit _) fun _ => lowering

theorem isolated_tidy (settings : Settings) (index : Nat) {body : Routine σ Unit}
    (tidy : body.run.Tidy waits) : (isolated settings index body).Tidy waits := by
  refine .act trivial fun answer => ?_
  cases answer with
  | error reason => exact .ret _
  | ok _ =>
      refine .fork _ (tidy_quietly _ tidy) fun ended => ?_
      rcases ended with (failure | panic) | value
      all_goals exact .ret _

theorem Pipeline.Tidy.passes {pipeline : Pipeline σ Program Params} (tidy : pipeline.Tidy waits)
    (settings : Settings) (pair : TargetPair) (index : Nat) (work : List (Program × Params)) :
    (pipeline.passes settings pair index work).run.Tidy waits := by
  have clear := tidy_panicking tidy.clearFunctions
  induction work generalizing index with
  | nil => exact tidy_pure ()
  | cons item rest ih =>
      obtain ⟨program, params⟩ := item
      have further : ∀ traced, (pipeline.further settings pair index rest traced).run.Tidy waits := by
        intro traced
        cases traced with
        | ok _ => exact ih (index + 1)
        | error failure => exact tidy_fail _
      apply tidy_bind clear
      intro _
      refine tidy_bind (tidy_lift (isolated_tidy settings index (tidy.pass pair program params)))
        fun traced => ?_
      apply tidy_bind clear
      intro _
      cases fallback : pipeline.clearFallback with
      | none => exact further traced
      | some clearing =>
          apply tidy_bind (tidy_panicking (tidy.clearFallback clearing fallback))
          exact fun _ => further traced

theorem Factory.materialize_tidy {factory : Factory σ}
    (tidy : ∀ request, (factory request).run.Tidy waits) (settings : Settings) (target : Target)
    (invocations : List Invocation) :
    (factory.materialize settings target invocations).run.Tidy waits := by
  induction invocations with
  | nil => exact tidy_pure _
  | cons invocation rest ih =>
      apply tidy_bind (tidy_catchFailure (tidy _))
      intro built
      cases built with
      | ok task => exact tidy_bind ih fun _ => tidy_pure _
      | error failure =>
          simp only
          split
          · exact tidy_bind (tidy_emit _) fun _ => tidy_bind ih fun _ => tidy_pure _
          · exact tidy_fail _

theorem Extractor.Tidy.concluded {extractor : Extractor σ Program Params}
    (tidy : extractor.Tidy waits) (programs : Nat) (pair : TargetPair)
    (invocations : List Invocation) :
    (extractor.concluded programs pair invocations).run.Tidy waits := by
  apply tidy_bind (Factory.materialize_tidy tidy.factory _ _ invocations)
  intro made
  exact tidy_bind (tidy_emit _) fun _ => tidy_pure _

theorem Extractor.Tidy.tracing {extractor : Extractor σ Program Params}
    (tidy : extractor.Tidy waits) (pair : TargetPair) (work : List (Program × Params))
    (filter : Option Filter) : (extractor.tracing pair work filter).run.Tidy waits := by
  have passes := tidy.pipeline.passes extractor.settings pair 0 work
  refine tidy_bind (tidy_failing trivial) fun _ => ?_
  apply tidy_bind (tidy_intercepting _ (tidy_quietly _ passes))
  intro _
  exact tidy_bind (tidy_failing trivial) fun _ => tidy_pure _

theorem Extractor.Tidy.traced {extractor : Extractor σ Program Params} (tidy : extractor.Tidy waits)
    (pair : TargetPair) (work : List (Program × Params)) (filter : Option Filter) :
    (extractor.traced pair work filter).run.Tidy true :=
  tidy_exclusively rfl (tidy.tracing pair work filter).waiting

theorem Extractor.Tidy.report {extractor : Extractor σ Program Params} (tidy : extractor.Tidy waits)
    (programs : List Program) (params : List Params) (filter : Option Filter) (target : Target)
    (host : Option Target) :
    (extractor.report programs params filter target host).run.Tidy true := by
  rw [Extractor.report_eq]
  split
  · exact tidy_fail _
  · refine tidy_bind (tidy_perform trivial) fun thread => ?_
    split
    · exact tidy_fail _
    · apply tidy_bind (tidy.resolver target host).waiting
      intro pair
      apply tidy_bind (tidy.traced pair _ filter)
      intro invocations
      exact (tidy.concluded _ pair invocations).waiting

/-- An extraction whose collaborators never wait ends wherever the session lock is free. -/
theorem Extractor.Tidy.report_ends {extractor : Extractor σ Program Params}
    (tidy : extractor.Tidy false) (programs : List Program) (params : List Params)
    (filter : Option Filter) (target : Target) (host : Option Target) (t : Thread) {world : World σ}
    (silent : world.Silent) (free : world.session = none) :
    ∃ ended, (extractor.report programs params filter target host).run.exec t world = some ended := by
  by_cases paired : programs.length = params.length
  · cases outside : t.inPass with
    | true =>
        exact ⟨_, extractor.exec_report_inside programs params filter target host paired outside _⟩
    | false =>
        rw [extractor.exec_report programs params filter target host paired outside]
        obtain ⟨⟨found, thread, resolved⟩, ran⟩ := (tidy.resolver target host).ends t silent
        rw [ran]
        cases found with
        | error exit => exact ⟨_, rfl⟩
        | ok pair =>
            have quiet : resolved.Silent := Code.exec_silent ran silent
            have unlocked : resolved.session = none :=
              ((tidy.resolver target host).restores silent ran).session.trans free
            obtain ⟨⟨outcome, thread', traced⟩, tracing⟩ :=
              (tidy.tracing pair (programs.zip params) filter).ends thread (quiet.locked thread.caller)
            change ∃ ended, (extractor.traced pair _ filter >>= _).run.exec thread resolved = some ended
            rw [exec_bind, extractor.traced_eq, exec_exclusively unlocked, tracing]
            cases outcome with
            | error exit => exact ⟨_, rfl⟩
            | ok invocations =>
                have later : traced.Silent := Code.exec_silent tracing (quiet.locked thread.caller)
                exact (tidy.concluded programs.length pair invocations).ends thread' later.unlocked
  · exact ⟨_, extractor.exec_report_unpaired programs params filter target host paired t world⟩

theorem Batch.tidy_report {batch : Batch.{u} σ} (tidy : batch.extractor.Tidy waits) :
    batch.report.run.Tidy true :=
  tidy.report batch.programs batch.params batch.filter batch.target batch.host

theorem Pipeline.replay_tidy : (Pipeline.replay : Pipeline σ _ _).Tidy waits where
  lower program _ _ _ := by
    induction program with
    | nil => exact tidy_pure ()
    | cons invocation rest ih =>
        exact tidy_bind (tidy_bind (tidy_dispatch invocation) fun _ => tidy_pure _) fun _ => ih
  clearFunctions := .ret _
  clearFallback _ impossible := nomatch impossible

theorem Batch.replay_tidy (ledger : String) (programs : List (List Invocation))
    (filter : Option Filter) :
    (Batch.replay ledger programs filter : Batch σ).extractor.Tidy waits where
  pipeline := Pipeline.replay_tidy
  factory _ := tidy_pure _
  resolver _ _ := .ret _

end TuningTasks
