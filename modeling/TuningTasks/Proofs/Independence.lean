import TuningTasks.Proofs.Audible
import TuningTasks.Proofs.Discipline
import TuningTasks.Proofs.Ownership

/-!
Extractions in two worlds. Two runs of the same code are parallel when they end with the same answer in
worlds that are still related (`Code.Parallel`). An extraction whose collaborators look at the slot, the
session lock and its own ledger alone answers by these alone, so batches that are run in turn have the
same answers in any two worlds that differ elsewhere (`Batch.same_answer`).
-/
namespace TuningTasks

universe u v
variable {σ α β : Type} {Program : Type u} {Params : Type v}

/-! ### Two worlds -/

namespace World

/-- The log takes every event in both worlds, and threads are granted by their stack size alone. -/
structure Even (world other : World σ) : Prop where
  silent : world.Silent
  silent' : other.Silent
  granted : ∀ number number' size, other.refusal number' size = world.refusal number size

structure Meets (ledger : String) (world other : World σ) : Prop where
  hook : other.hook = world.hook
  session : other.session = world.session
  poisoned : (other.ledgers ledger).poisoned = (world.ledgers ledger).poisoned

structure Shares (ledger : String) (world other : World σ) : Prop where
  hook : other.hook = world.hook
  session : other.session = world.session
  cell : other.ledgers ledger = world.ledgers ledger

def SharesAt (ledger : String) (slot : Guarded (Option (Hook σ))) (world other : World σ) : Prop :=
  world.Shares ledger other ∧ world.hook = slot

variable {world other : World σ} {ledger : String}

theorem Shares.meets (shares : world.Shares ledger other) : world.Meets ledger other :=
  ⟨shares.hook, shares.session, congrArg Guarded.poisoned shares.cell⟩

theorem Even.exec (even : world.Even other) {code : Code σ α} {code' : Code σ β}
    {t thread t' thread' : Thread} {last last' : World σ} {answer : α} {answer' : β}
    (ran : code.exec t world = some (answer, thread, last))
    (ran' : code'.exec t' other = some (answer', thread', last')) : last.Even last' where
  silent := Code.exec_silent ran even.silent
  silent' := Code.exec_silent ran' even.silent'
  granted number number' size := by
    rw [(Code.exec_frame ran).2, (Code.exec_frame ran').2]
    exact even.granted number number' size

theorem Even.hushed (even : world.Even other) (mute : Bool) :
    (world.hushed mute).Even (other.hushed mute) where
  silent := even.silent.hushed mute
  silent' := even.silent'.hushed mute
  granted := by
    cases mute <;> exact even.granted

end World

theorem Thread.Same.together {t t' thread thread' : Thread} (same : t'.Same t) {code : Code σ α}
    {code' : Code σ β} {world other last last' : World σ} {answer : α} {answer' : β}
    (ran : code.exec t world = some (answer, thread, last))
    (ran' : code'.exec t' other = some (answer', thread', last')) : thread'.Same thread := by
  have kept := Code.exec_thread ran
  have kept' := Code.exec_thread ran'
  rw [same] at kept'
  rw [Same, kept, kept']

/-! ### Parallel runs -/

namespace Code

/-- From related worlds the code runs to the same answer, or to none, and then to related worlds. -/
def Parallel (before : World σ → World σ → Prop) (code : Code σ α)
    (after : α → World σ → World σ → Prop) : Prop :=
  ∀ ⦃t t' : Thread⦄ ⦃world other : World σ⦄, t'.Same t → world.Even other → before world other →
    (code.exec t world = none ∧ code.exec t' other = none) ∨
      ∃ value thread last thread' last', code.exec t world = some (value, thread, last) ∧
        code.exec t' other = some (value, thread', last') ∧ after value last last'

def Respects (related : World σ → World σ → Prop) (code : Code σ α) : Prop :=
  code.Parallel related fun _ => related

variable {before middle related : World σ → World σ → Prop} {after : α → World σ → World σ → Prop}

theorem respects_ret (value : α) : (ret value : Code σ α).Respects related :=
  fun t t' world other _ _ holds => Or.inr ⟨value, t, world, t', other, rfl, rfl, holds⟩

theorem Parallel.mono {code : Code σ α} {after' : α → World σ → World σ → Prop}
    (parallel : code.Parallel before after)
    (implies : ∀ value world other, after value world other → after' value world other) :
    code.Parallel before after' := by
  intro t t' world other same even holds
  rcases parallel same even holds with never | ⟨value, thread, last, thread', last', ran, ran', ends⟩
  · exact Or.inl never
  · exact Or.inr ⟨value, thread, last, thread', last', ran, ran', implies value last last' ends⟩

theorem Parallel.bind {code : Code σ α} {f : α → Code σ β} {later : β → World σ → World σ → Prop}
    (first : code.Parallel before after) (rest : ∀ value, (f value).Parallel (after value) later) :
    (code.bind f).Parallel before later := by
  intro t t' world other same even holds
  rw [exec_bind, exec_bind]
  rcases first same even holds with ⟨never, never'⟩ | ⟨value, thread, last, thread', last', ran, ran', ends⟩
  · rw [never, never']
    exact Or.inl ⟨rfl, rfl⟩
  · rw [ran, ran']
    exact rest value (same.together ran ran') (even.exec ran ran') ends

theorem parallel_perform {action : Action σ α}
    (step : ∀ ⦃t t' world other⦄, t'.Same t → world.Even other → before world other →
      action.ready other = action.ready world ∧ (action.perform t' other).1 = (action.perform t world).1 ∧
        after (action.perform t world).1 (action.perform t world).2.2 (action.perform t' other).2.2) :
    (perform action).Parallel before after := by
  intro t t' world other same even holds
  obtain ⟨ready, answer, ends⟩ := step same even holds
  simp only [perform, exec, ready]
  split
  · exact Or.inr ⟨_, _, _, _, _, rfl, by rw [answer], ends⟩
  · exact Or.inl ⟨rfl, rfl⟩

theorem parallel_onThread (thread : Thread) {body : Code σ α} (inside : body.Parallel before after) :
    (onThread thread body).Parallel before after := by
  intro t t' world other same even holds
  have fresh : ({ thread with caller := t'.caller } : Thread).Same { thread with caller := t.caller } := by
    rw [same]
    rfl
  rw [exec_onThread, exec_onThread]
  rcases inside fresh even holds with ⟨never, never'⟩ | ⟨value, _, last, _, last', ran, ran', ends⟩
  · rw [never, never']
    exact Or.inl ⟨rfl, rfl⟩
  · rw [ran, ran']
    exact Or.inr ⟨value, t, last, t', last', rfl, rfl, ends⟩

end Code

namespace Routine

open Code

variable {before related : World σ → World σ → Prop} {after : Except Exit α → World σ → World σ → Prop}
  {routine : Routine σ α}

theorem parallel_bind {rest : α → Routine σ β} {later : Except Exit β → World σ → World σ → Prop}
    (first : routine.run.Parallel before after)
    (ok : ∀ value, (rest value).run.Parallel (after (.ok value)) later)
    (error : ∀ exit world other, after (.error exit) world other → later (.error exit) world other) :
    (routine >>= rest).run.Parallel before later := by
  apply Parallel.bind first
  intro ended
  cases ended with
  | ok value => exact ok value
  | error exit =>
      intro t t' world other _ _ holds
      exact Or.inr ⟨_, t, world, t', other, rfl, rfl, error exit world other holds⟩

theorem respects_pure (value : α) : (pure value : Routine σ α).run.Respects related :=
  respects_ret (Except.ok value)

theorem respects_fail (failure : Failure) : (fail failure : Routine σ α).run.Respects related :=
  respects_ret (Except.error (Exit.failure failure))

theorem respects_bind {rest : α → Routine σ β} (first : routine.run.Respects related)
    (later : ∀ value, (rest value).run.Respects related) : (routine >>= rest).run.Respects related :=
  parallel_bind first later fun _ _ _ => id

theorem respects_lift {code : Code σ α} (respects : code.Respects related) :
    (ExceptT.lift code : Routine σ α).run.Respects related :=
  respects.bind fun value => respects_ret (Except.ok value)

theorem respects_panicking {code : Code σ (Except Panic α)} (respects : code.Respects related) :
    (panicking code).run.Respects related :=
  respects.bind fun answer => respects_ret (answer.mapError Exit.panic)

theorem respects_catchFailure (respects : routine.run.Respects related) :
    (catchFailure routine).run.Respects related := by
  apply Parallel.bind respects
  intro ended
  rcases ended with (failure | panic) | value
  all_goals exact respects_ret _

theorem respects_failing {action : Action σ (Except Failure α)}
    (respects : (Code.perform action).Respects related) :
    (failing action).run.Respects related :=
  respects.bind fun answer => respects_ret (answer.mapError Exit.failure)

end Routine

/-! ### What an extraction does of its own -/

section Own

open Code Routine

variable {ledger : String} {slot : Guarded (Option (Hook σ))} {routine : Routine σ α}

namespace World.SharesAt

variable {world other : World σ} (shares : world.SharesAt ledger slot other)

include shares

theorem logged (t t' : Thread) (event : Event) :
    (world.logged t event).SharesAt ledger slot (other.logged t' event) :=
  ⟨⟨shares.1.hook, shares.1.session, shares.1.cell⟩, shares.2⟩

theorem hushed (mute : Bool) : (world.hushed mute).SharesAt ledger slot (other.hushed mute) := by
  cases mute with
  | false => exact shares
  | true => exact ⟨⟨shares.1.hook, shares.1.session, shares.1.cell⟩, shares.2⟩

theorem unhushed (mute : Bool) : (world.unhushed mute).SharesAt ledger slot (other.unhushed mute) := by
  cases mute with
  | false => exact shares
  | true => exact ⟨⟨shares.1.hook, shares.1.session, shares.1.cell⟩, shares.2⟩

end World.SharesAt

namespace Routine

theorem respects_emit (event : Event) :
    (emit event : Routine σ Unit).run.Respects (World.SharesAt ledger slot) := by
  refine respects_panicking (parallel_perform ?_)
  intro t t' world other _ even shares
  simp only [Action.perform, World.emit_silent even.silent, World.emit_silent even.silent', true_and]
  exact ⟨rfl, shares.logged t t' event⟩

theorem respects_dispatch (call : Invocation) :
    (dispatch call : Routine σ Decision).run.Respects
      (World.SharesAt ledger { value := some (.ledger ledger) }) := by
  intro t t' world other _ even ⟨shares, busy⟩
  have slot : world.installedHook = .ok (some (.ledger ledger)) := by simp [World.installedHook, busy]
  have slot' : other.installedHook = .ok (some (.ledger ledger)) := by
    simp [World.installedHook, shares.hook, busy]
  rw [exec_dispatch, exec_dispatch, slot, slot']
  cases sound : (world.ledgers ledger).poisoned with
  | true =>
      have sound' : (other.ledgers ledger).poisoned = true := shares.meets.poisoned.trans sound
      simp only [World.consult, World.record_broken sound, World.record_broken sound']
      exact Or.inr ⟨_, _, _, _, _, rfl, rfl, shares, busy⟩
  | false =>
      have sound' : (other.ledgers ledger).poisoned = false := shares.meets.poisoned.trans sound
      obtain ⟨log, taken⟩ := World.record_sound even.silent sound t call
      obtain ⟨log', taken'⟩ := World.record_sound even.silent' sound' t' call
      simp only [World.consult, taken, taken', shares.cell]
      refine Or.inr ⟨_, _, _, _, _, rfl, rfl, ⟨shares.hook, shares.session, ?_⟩, busy⟩
      simp [World.setLedger]

theorem respects_quietly (mute : Bool) (respects : routine.run.Respects (World.SharesAt ledger slot)) :
    (quietly mute routine).run.Respects (World.SharesAt ledger slot) := by
  intro t t' world other same even shares
  have hushed : (t'.hushed mute).Same (t.hushed mute) := by
    rw [same]
    rfl
  rw [exec_quietly_any, exec_quietly_any]
  rcases respects hushed (even.hushed mute) (shares.hushed mute) with
    ⟨never, never'⟩ | ⟨value, thread, last, thread', last', ran, ran', ends⟩
  · rw [never, never']
    exact Or.inl ⟨rfl, rfl⟩
  · rw [ran, ran']
    exact Or.inr ⟨_, _, _, _, _, rfl, rfl, ends.unhushed mute⟩

end Routine

theorem isolated_respects (settings : Settings) (index : Nat) {body : Routine σ Unit}
    (respects : body.run.Respects (World.SharesAt ledger slot)) :
    (isolated settings index body).Respects (World.SharesAt ledger slot) := by
  have spawning : (Code.perform (.spawn settings.stackSize)).Respects (World.SharesAt ledger slot) := by
    refine parallel_perform ?_
    intro t t' world other _ even shares
    simp only [Action.perform, World.spawn, even.granted world.spawned other.spawned]
    exact ⟨rfl, trivial, ⟨shares.1.hook, shares.1.session, shares.1.cell⟩, shares.2⟩
  refine spawning.bind fun answer => ?_
  cases answer with
  | error reason => exact respects_ret _
  | ok spawned =>
      refine (parallel_onThread _ (respects_quietly settings.suppressLogs respects)).bind fun ended => ?_
      rcases ended with (failure | panic) | value
      all_goals exact respects_ret _

end Own

/-! ### Independent extractions -/

/-- The pipeline looks at the slot, in which it finds the hook of the ledger, at the session lock and at the
ledger alone. -/
structure Pipeline.Independent (pipeline : Pipeline σ Program Params) (ledger : String) : Prop where
  lower : ∀ program pair params config, (pipeline.lower program pair params config).run.Respects
    (World.SharesAt ledger { value := some (.ledger ledger) })
  clearFunctions : pipeline.clearFunctions.Respects (World.SharesAt ledger { value := some (.ledger ledger) })
  clearFallback : ∀ clear, pipeline.clearFallback = some clear →
    clear.Respects (World.SharesAt ledger { value := some (.ledger ledger) })

/-- What the collaborators do depends neither on their earlier calls nor on another ledger. -/
structure Extractor.Independent (extractor : Extractor σ Program Params) : Prop where
  pipeline : extractor.pipeline.Independent extractor.ledger
  factory : ∀ request, (extractor.factory request).run.Respects
    (World.SharesAt extractor.ledger { value := none })
  resolver : ∀ target host, (extractor.resolver target host).run.Respects (World.Meets extractor.ledger)

open Code Routine

namespace Pipeline.Independent

variable {pipeline : Pipeline σ Program Params} {ledger : String} (independent : pipeline.Independent ledger)

include independent

theorem forgetting : pipeline.forgetting.run.Respects
    (World.SharesAt ledger { value := some (.ledger ledger) }) := by
  rw [Pipeline.forgetting]
  split
  · rename_i found fallback
    exact respects_panicking (independent.clearFallback found fallback)
  · exact respects_pure ()

theorem pass (pair : TargetPair) (program : Program) (params : Params) :
    (pipeline.pass pair program params).run.Respects
      (World.SharesAt ledger { value := some (.ledger ledger) }) := by
  have clear := respects_panicking independent.clearFunctions
  rw [pass_eq]
  refine respects_bind clear fun _ => respects_bind ?_ fun _ => ?_
  · rw [announcing]
    cases (PassConfig.ofTarget pair.target).auxiliaryBackend with
    | none => exact respects_pure ()
    | some backend => exact respects_emit _
  · refine respects_bind (respects_catchFailure (independent.lower program pair params _)) fun lowered => ?_
    refine respects_bind clear fun _ => ?_
    cases lowered with
    | ok done => exact respects_pure ()
    | error failure => exact respects_fail _

theorem passes (settings : Settings) (pair : TargetPair) (index : Nat) (work : List (Program × Params)) :
    (pipeline.passes settings pair index work).run.Respects
      (World.SharesAt ledger { value := some (.ledger ledger) }) := by
  have clear := respects_panicking independent.clearFunctions
  induction work generalizing index with
  | nil => exact respects_pure ()
  | cons item rest ih =>
      obtain ⟨program, params⟩ := item
      have pass := isolated_respects settings index (independent.pass pair program params)
      rw [passes_cons]
      refine respects_bind clear fun _ => respects_bind (respects_lift pass) fun traced => ?_
      refine respects_bind clear fun _ => respects_bind independent.forgetting fun _ => ?_
      cases traced with
      | ok done => exact ih (index + 1)
      | error failure => exact respects_fail _

end Pipeline.Independent

theorem Factory.materialize_respects {factory : Factory σ} {ledger : String}
    {slot : Guarded (Option (Hook σ))}
    (respects : ∀ request, (factory request).run.Respects (World.SharesAt ledger slot)) (settings : Settings)
    (target : Target) (calls : List Invocation) :
    (factory.materialize settings target calls).run.Respects (World.SharesAt ledger slot) := by
  induction calls with
  | nil => exact respects_pure _
  | cons call rest ih =>
      refine respects_bind (respects_catchFailure (respects (call.request settings target))) fun built => ?_
      cases built with
      | ok task => exact respects_bind ih fun _ => respects_pure _
      | error failure =>
          simp only
          split
          · exact respects_bind (respects_emit _) fun _ => respects_bind ih fun _ => respects_pure _
          · exact respects_fail _

/-- How two worlds are left: if there is an answer, then with an empty slot and with the same ledger. -/
def World.Emerge (ledger : String) : Except Exit α → World σ → World σ → Prop
  | .ok _ => World.SharesAt ledger { value := none }
  | .error _ => World.Meets ledger

theorem World.SharesAt.emerge {ledger : String} {world other : World σ}
    (shares : world.SharesAt ledger { value := none } other) (ended : Except Exit α) :
    World.Emerge ledger ended world other := by
  cases ended with
  | ok value => exact shares
  | error exit => exact shares.1.meets

namespace Routine

variable {ledger : String}

theorem parallel_intercepting {body : Routine σ α}
    (inside : body.run.Respects (World.SharesAt ledger { value := some (.ledger ledger) })) :
    (intercepting (.ledger ledger) body).run.Parallel (World.Shares ledger) (World.Emerge ledger) := by
  intro t t' world other same even shares
  rcases world.hook_cases with broken | ⟨active, busy⟩ | idle
  · rw [exec_intercepting_refused (World.install_poisoned broken t _),
      exec_intercepting_refused (World.install_poisoned (shares.hook ▸ broken) t' _)]
    exact Or.inr ⟨_, _, _, _, _, rfl, rfl, shares.meets⟩
  · rw [exec_intercepting_refused (World.install_active busy t _),
      exec_intercepting_refused (World.install_active (shares.hook.trans busy) t' _)]
    exact Or.inr ⟨_, _, _, _, _, rfl, rfl, shares.meets⟩
  · have idle' : other.hook = { value := none } := shares.hook.trans idle
    have entered : (world.installed t (.ledger ledger)).Even (other.installed t' (.ledger ledger)) :=
      ⟨even.silent.installed t _, even.silent'.installed t' _, even.granted⟩
    have scope : (world.installed t (.ledger ledger)).SharesAt ledger { value := some (.ledger ledger) }
        (other.installed t' (.ledger ledger)) := ⟨⟨rfl, shares.session, shares.cell⟩, rfl⟩
    rw [exec_intercepting_idle even.silent idle, exec_intercepting_idle even.silent' idle']
    rcases inside same entered scope with
      ⟨never, never'⟩ | ⟨value, thread, last, thread', last', ran, ran', ends⟩
    · rw [never, never']
      exact Or.inl ⟨rfl, rfl⟩
    · rw [ran, ran']
      have left : ({ last.hook with value := none } : Guarded (Option (Hook σ))) = { value := none } := by
        rw [ends.2]
      have left' : ({ last'.hook with value := none } : Guarded (Option (Hook σ))) = { value := none } := by
        rw [ends.1.hook, ends.2]
      have emerges : (last.uninstalled thread).SharesAt ledger { value := none }
          (last'.uninstalled thread') :=
        ⟨⟨left'.trans left.symm, ends.1.session, ends.1.cell⟩, left⟩
      exact Or.inr ⟨_, _, _, _, _, rfl, rfl, emerges.emerge value⟩

theorem parallel_resetLedger (filter : Option Filter) :
    (failing (.resetLedger ledger filter) : Routine σ Unit).run.Parallel (World.Meets ledger)
      fun | .ok _ => World.Shares ledger | .error _ => World.Meets ledger := by
  intro t t' world other _ _ meets
  rw [exec_failing _ rfl, exec_failing _ rfl]
  cases sound : (world.ledgers ledger).poisoned with
  | true =>
      have sound' : (other.ledgers ledger).poisoned = true := meets.poisoned.trans sound
      simp only [Action.perform, World.resetLedger, sound, sound', ↓reduceIte, mapError_error]
      exact Or.inr ⟨_, _, _, _, _, rfl, rfl, meets⟩
  | false =>
      have sound' : (other.ledgers ledger).poisoned = false := meets.poisoned.trans sound
      simp only [Action.perform, World.resetLedger_sound sound, World.resetLedger_sound sound', mapError_ok]
      refine Or.inr ⟨_, _, _, _, _, rfl, rfl, meets.hook, meets.session, ?_⟩
      simp [World.emptied, World.setLedger]

theorem respects_reading {slot : Guarded (Option (Hook σ))} (shown : Ledger → α) :
    (do return shown (← failing (.readLedger ledger)) : Routine σ α).run.Respects
      (World.SharesAt ledger slot) := by
  refine respects_bind (respects_failing (parallel_perform ?_)) fun _ => respects_pure _
  intro t t' world other _ _ shares
  simp only [Action.perform, World.readLedger, shares.1.cell]
  exact ⟨rfl, trivial, shares⟩

theorem parallel_exclusively {body : Routine σ α}
    (inside : body.run.Parallel (World.Meets ledger) (World.Emerge ledger)) :
    (exclusively body).run.Parallel (World.Meets ledger) (World.Emerge ledger) := by
  intro t t' world other same even meets
  cases free : world.session with
  | some holder =>
      rw [exec_exclusively_held free, exec_exclusively_held (meets.session.trans free)]
      exact Or.inl ⟨rfl, rfl⟩
  | none =>
      have locked : (world.locked t.caller).Meets ledger (other.locked t'.caller) := by
        refine ⟨meets.hook, ?_, meets.poisoned⟩
        rw [same]
        rfl
      have lockedEven : (world.locked t.caller).Even (other.locked t'.caller) :=
        ⟨even.silent.locked _, even.silent'.locked _, even.granted⟩
      rw [exec_exclusively free, exec_exclusively (meets.session.trans free)]
      rcases inside same lockedEven locked with
        ⟨never, never'⟩ | ⟨value, thread, last, thread', last', ran, ran', ends⟩
      · rw [never, never']
        exact Or.inl ⟨rfl, rfl⟩
      · rw [ran, ran']
        refine Or.inr ⟨_, _, _, _, _, rfl, rfl, ?_⟩
        cases value with
        | ok found => exact ⟨⟨ends.1.hook, rfl, ends.1.cell⟩, ends.2⟩
        | error exit => exact ⟨ends.hook, rfl, ends.poisoned⟩

end Routine

namespace Extractor.Independent

variable {extractor : Extractor σ Program Params} (independent : extractor.Independent)

include independent

theorem traced (pair : TargetPair) (work : List (Program × Params)) (filter : Option Filter) :
    (extractor.traced pair work filter).run.Parallel (World.Meets extractor.ledger)
      (World.Emerge extractor.ledger) := by
  have passes := independent.pipeline.passes extractor.settings pair 0 work
  refine parallel_exclusively (parallel_bind (parallel_resetLedger filter) (fun _ => ?_) fun _ _ _ => id)
  refine parallel_bind (parallel_intercepting (respects_quietly _ passes)) (fun _ => ?_) fun _ _ _ => id
  exact (respects_reading Ledger.ordered).mono fun ended _ _ shares => shares.emerge ended

theorem concluded (programs : Nat) (pair : TargetPair) (found : List Invocation) :
    (extractor.concluded programs pair found).run.Respects
      (World.SharesAt extractor.ledger { value := none }) := by
  refine respects_bind (Factory.materialize_respects independent.factory _ _ _) fun _ => ?_
  exact respects_bind (respects_emit _) fun _ => respects_pure _

/-- An independent extraction answers by the slot, by the session lock and by whether its ledger is
poisoned. -/
theorem report (programs : List Program) (params : List Params) (filter : Option Filter) (target : Target)
    (host : Option Target) :
    (extractor.report programs params filter target host).run.Respects (World.Meets extractor.ledger) := by
  intro t t' world other same even meets
  by_cases paired : programs.length = params.length
  · cases outside : t.inPass with
    | true =>
        rw [exec_report_inside _ _ _ _ _ _ paired outside,
          exec_report_inside _ _ _ _ _ _ paired (same.inPass.trans outside)]
        exact Or.inr ⟨_, _, _, _, _, rfl, rfl, meets⟩
    | false =>
        rw [exec_report _ _ _ _ _ _ paired outside,
          exec_report _ _ _ _ _ _ paired (same.inPass.trans outside), ← Routine.exec_bind,
          ← Routine.exec_bind]
        refine parallel_bind (independent.resolver target host) (fun pair => ?_) (fun _ _ _ => id)
          same even meets
        refine parallel_bind (independent.traced pair _ filter) (fun found => ?_) fun _ _ _ => id
        exact (independent.concluded programs.length pair found).mono fun _ _ _ shares => shares.1.meets
  · rw [exec_report_unpaired _ _ _ _ _ _ paired, exec_report_unpaired _ _ _ _ _ _ paired]
    exact Or.inr ⟨_, _, _, _, _, rfl, rfl, meets⟩

end Extractor.Independent

/-! ### Batches in turn -/

/-- The worlds agree on the slot, the session lock and the poison of every ledger but one. -/
structure World.Level (name : String) (world other : World σ) : Prop where
  hook : other.hook = world.hook
  session : other.session = world.session
  poisoned : ∀ ledger, ledger ≠ name → (other.ledgers ledger).poisoned = (world.ledgers ledger).poisoned

theorem World.Level.meets {name ledger : String} {world other : World σ} (level : world.Level name other)
    (elsewhere : ledger ≠ name) : world.Meets ledger other :=
  ⟨level.hook, level.session, level.poisoned ledger elsewhere⟩

namespace Batch

def inTurn : List (Batch.{u} σ) → Code σ Unit
  | [] => .ret ()
  | batch :: rest => batch.report.run.bind fun _ => inTurn rest

/-- Batches that give back what they take leave the worlds as level as they find them, on any ledger. -/
theorem inTurn_respects (name : String) {batches : List (Batch.{u} σ)}
    (tidy : ∀ batch ∈ batches, batch.extractor.Tidy false) :
    (inTurn batches).Respects fun world other => world.Level name other ∧ world.session = none := by
  induction batches with
  | nil => exact respects_ret ()
  | cons batch rest ih =>
      have own := tidy batch List.mem_cons_self
      intro t t' world other same even ⟨level, free⟩
      have free' : other.session = none := level.session.trans free
      obtain ⟨⟨_, thread, last⟩, ran⟩ :=
        own.report_ends batch.programs batch.params batch.filter batch.target batch.host t even.silent free
      obtain ⟨⟨_, thread', last'⟩, ran'⟩ :=
        own.report_ends batch.programs batch.params batch.filter batch.target batch.host t' even.silent' free'
      have restored := (tidy_report own).restores even.silent ran
      have restored' := (tidy_report own).restores even.silent' ran'
      have after : last.Level name last' := by
        refine ⟨?_, ?_, fun ledger elsewhere => ?_⟩
        · rw [restored'.hook, restored.hook, level.hook]
        · rw [restored'.session, restored.session, level.session]
        · rw [restored'.poisoned, restored.poisoned, level.poisoned ledger elsewhere]
      have later := ih fun other member => tidy other (List.mem_cons_of_mem batch member)
      change batch.report.run.exec t world = _ at ran
      change batch.report.run.exec t' other = _ at ran'
      rw [inTurn, Code.exec_bind, Code.exec_bind, ran, ran']
      exact later (same.together ran ran') (even.exec ran ran') ⟨after, restored.session.trans free⟩

/-- An independent batch on another ledger answers the same, whatever batches come before it. -/
theorem same_answer {name : String} {earlier : List (Batch.{u} σ)}
    (tidy : ∀ batch ∈ earlier, batch.extractor.Tidy false) {batch : Batch.{u} σ}
    (elsewhere : batch.extractor.ledger ≠ name) (independent : batch.extractor.Independent) (t : Thread)
    {world other : World σ} (even : world.Even other) (level : world.Level name other)
    (free : world.session = none) :
    (((inTurn earlier).bind fun _ => batch.report.run).exec t other).map Prod.fst =
      (((inTurn earlier).bind fun _ => batch.report.run).exec t world).map Prod.fst := by
  have report : batch.report.run.Parallel
      (fun world other => world.Level name other ∧ world.session = none) fun _ _ _ => True := by
    intro t t' world other same even ⟨level, _⟩
    exact ((independent.report _ _ _ _ _).mono fun _ _ _ _ => trivial) same even (level.meets elsewhere)
  have both := (inTurn_respects name tidy).bind fun _ => report
  have same : t.Same t := rfl
  rcases both same even ⟨level, free⟩ with
    ⟨never, never'⟩ | ⟨value, thread, last, thread', last', ran, ran', -⟩
  · rw [never, never']
  · rw [ran, ran']
    rfl

end Batch

theorem Pipeline.replay_independent (ledger : String) :
    (Pipeline.replay : Pipeline σ _ _).Independent ledger where
  lower program _ _ _ := by
    induction program with
    | nil => exact respects_pure ()
    | cons call rest ih =>
        exact respects_bind (respects_bind (respects_dispatch call) fun _ => respects_pure _) fun _ => ih
  clearFunctions := respects_ret _
  clearFallback _ impossible := nomatch impossible

theorem Batch.replay_independent (ledger : String) (programs : List (List Invocation))
    (filter : Option Filter) : (Batch.replay ledger programs filter : Batch σ).extractor.Independent where
  pipeline := Pipeline.replay_independent ledger
  factory _ := respects_pure _
  resolver _ _ := respects_ret _

end TuningTasks
