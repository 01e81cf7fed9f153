import TuningTasks.Proofs.Audible
import TuningTasks.Proofs.Faults

/-!
What the log is told of an extraction. While programs are lowered it gets the events of the pipeline's
replies and, unless logs are suppressed, an announcement before each lowering for an auxiliary backend;
while tasks are built it gets the events of the factory's replies and a warning for each skip.
-/
namespace TuningTasks

universe u v
variable {σ α β : Type} {Program : Type u} {Params : Type v}

def Request.announced : Request Program Params → List Event
  | .lower _ _ _ config => config.auxiliaryBackend.toList.map .auxiliaryLowering
  | _ => []

namespace Extractor

variable (extractor : Extractor σ Program Params)

def moments (asking : Asking σ (@Request.Reply Program Params)) : List (Moment σ) :=
  (extractor.reply asking.request).run.history asking.thread asking.world

def said (asking : Asking σ (@Request.Reply Program Params)) : List Event :=
  (extractor.moments asking).flatMap Moment.said

/-- What the log is told of a request, from its announcement on. -/
def told (asking : Asking σ (@Request.Reply Program Params)) : List Event :=
  (if extractor.settings.suppressLogs then [] else asking.request.announced) ++ extractor.said asking

variable {extractor}

theorem said_log {request : Request Program Params} {t : Thread} {world : World σ}
    {ended : Except Exit request.Reply × Thread × World σ}
    (ran : (extractor.reply request).run.exec t world = some ended) :
    ended.2.2.log = world.log ++ extractor.said ⟨request, t, world, some ended⟩ :=
  (Code.follows_history ran).log

theorem told_plain {asking : Asking σ (@Request.Reply Program Params)}
    (plain : asking.request.announced = []) : extractor.told asking = extractor.said asking := by
  rw [told, plain]
  split <;> rfl

end Extractor

/-! ### Lowering -/

/-- From a thread that is muted as the settings say the draft asks on such threads only, and the log is
told of its requests and of nothing else. -/
structure Extraction.Accounts (extractor : Extractor σ Program Params)
    (told : Asking σ (@Request.Reply Program Params) → List Event)
    (draft : Extraction σ Program Params α) : Prop where
  tidy : (draft.routine extractor.reply).run.Tidy true
  muffled : ∀ t world, Muffled extractor.settings.suppressLogs t world →
    ∀ asking ∈ draft.askings extractor.reply t world,
      Muffled extractor.settings.suppressLogs asking.thread asking.world
  log : ∀ t world ended, Muffled extractor.settings.suppressLogs t world →
    (draft.routine extractor.reply).run.exec t world = some ended →
      ended.2.2.log = world.log ++ (draft.askings extractor.reply t world).flatMap told

namespace Extraction

open Draft

variable {extractor : Extractor σ Program Params}
  {told : Asking σ (@Request.Reply Program Params) → List Event}

theorem accounts_pure (value : α) :
    Accounts extractor told (pure value : Extraction σ Program Params α) where
  tidy := .ret _
  muffled _ _ _ _ none := nomatch none
  log := by
    intro t world ended _ ran
    cases ran
    exact (List.append_nil _).symm

theorem accounts_fail (failure : Failure) :
    Accounts extractor told (own (.fail failure) : Extraction σ Program Params α) where
  tidy := .ret _
  muffled _ _ _ _ none := nomatch none
  log := by
    intro t world ended _ ran
    cases ran
    exact (List.append_nil _).symm

theorem accounts_ask {request : Request Program Params}
    (tidy : (extractor.reply request).run.Tidy true)
    (plain : ∀ asking, asking.request = request → told asking = extractor.said asking) :
    Accounts extractor told (ask request : Extraction σ Program Params request.Reply) where
  tidy := by
    rw [routine_ask]
    exact tidy
  muffled := by
    intro t world muffled asking member
    rw [askings_ask] at member
    rw [List.mem_singleton.mp member]
    exact muffled
  log := by
    intro t world ended _ ran
    rw [routine_ask] at ran
    rw [askings_ask, ran, List.flatMap_singleton, plain _ rfl]
    exact Extractor.said_log ran

section Bind

variable {draft : Extraction σ Program Params α} {rest : α → Extraction σ Program Params β}

theorem Accounts.bind (first : Accounts extractor told draft)
    (later : ∀ value, Accounts extractor told (rest value)) :
    Accounts extractor told (draft >>= rest) where
  tidy := by
    rw [routine_bind]
    exact Routine.tidy_bind first.tidy fun value => (later value).tidy
  muffled := by
    intro t world muffled asking member
    rw [askings_bind] at member
    rcases List.mem_append.mp member with before | after
    · exact first.muffled t world muffled asking before
    · rcases ran : (draft.routine extractor.reply).run.exec t world with
        _ | ⟨exit | value, middle, between⟩
      all_goals rw [ran] at after
      · cases after
      · cases after
      · exact (later value).muffled middle between (muffled.exec first.tidy ran) asking after
  log := by
    intro t world ended muffled ended'
    rw [routine_bind, Routine.exec_bind, Option.bind_eq_some_iff] at ended'
    obtain ⟨⟨outcome, middle, between⟩, ran, ended'⟩ := ended'
    have before := first.log t world _ muffled ran
    rw [askings_bind, ran, List.flatMap_append, ← List.append_assoc, ← before]
    cases outcome with
    | error exit =>
        cases ended'
        exact (List.append_nil _).symm
    | ok value => exact (later value).log middle between ended (muffled.exec first.tidy ran) ended'

theorem Accounts.catchFailure (accounts : Accounts extractor told draft) :
    Accounts extractor told (Draft.catchFailure draft) where
  tidy := by
    rw [routine_catchFailure]
    exact Routine.tidy_catchFailure accounts.tidy
  muffled := by
    intro t world muffled
    rw [askings_catchFailure]
    exact accounts.muffled t world muffled
  log := by
    intro t world ended muffled ran
    rw [routine_catchFailure, Routine.exec_catchFailure, Option.map_eq_some_iff] at ran
    obtain ⟨inner, ran, rfl⟩ := ran
    rw [askings_catchFailure]
    exact accounts.log t world inner muffled ran

end Bind

theorem Accounts.isolated (index : Nat) {body : Extraction σ Program Params Unit}
    (accounts : Accounts extractor told body) :
    Accounts extractor told (lift (Extraction.isolated extractor.settings index body)) := by
  have passing : ∀ caller {world : World σ}, world.Silent → Muffled extractor.settings.suppressLogs
      (({ extractor.settings.passThread index with caller } : Thread).hushed extractor.settings.suppressLogs)
      (world.hushed extractor.settings.suppressLogs) := by
    intro caller world silent
    refine ⟨silent.hushed _, Bool.or_false _, fun muted => ?_⟩
    rw [muted]
    exact Nat.succ_pos _
  have hushed : ∀ world : World σ, (world.hushed extractor.settings.suppressLogs).log = world.log ∧
      (world.unhushed extractor.settings.suppressLogs).log = world.log := by
    intro world
    cases extractor.settings.suppressLogs <;> exact ⟨rfl, rfl⟩
  refine ⟨?_, ?_, ?_⟩
  · rw [routine_lift, answered_isolated]
    exact Routine.tidy_lift (isolated_tidy _ index accounts.tidy)
  · intro t world muffled asking member
    have silent : (world.spawn extractor.settings.stackSize).2.Silent := muffled.silent
    rw [askings_lift] at member
    simp only [Extraction.isolated, Outline.askings, Action.ready, ↓reduceIte, Action.perform] at member
    -- Without a thread nobody is asked; on one the body runs muffled by a guard of its own.
    rcases spawned : world.spawn extractor.settings.stackSize with ⟨reason | done, after⟩
    all_goals simp only [spawned] at member silent
    · cases member
    · rw [Outline.askings_fork_ret] at member
      change _ ∈ (quietly extractor.settings.suppressLogs body).askings extractor.reply _ _ at member
      rw [askings_quietly] at member
      exact accounts.muffled _ _ (passing _ silent) asking member
  · intro t world ended muffled ran
    have silent : (world.spawn extractor.settings.stackSize).2.Silent := muffled.silent
    have log : (world.spawn extractor.settings.stackSize).2.log = world.log := rfl
    rw [routine_lift, Routine.exec_lift, Option.map_eq_some_iff] at ran
    obtain ⟨inner, ran, rfl⟩ := ran
    rw [askings_lift]
    simp only [Extraction.isolated, Outline.askings, Outline.answered, Code.exec, Action.ready, ↓reduceIte,
      Action.perform] at ran ⊢
    rcases spawned : world.spawn extractor.settings.stackSize with ⟨reason | done, after⟩
    all_goals simp only [spawned] at ran silent log ⊢
    · cases ran
      rw [← log]
      exact (List.append_nil _).symm
    · rw [Outline.exec_fork_ret] at ran
      change (((quietly extractor.settings.suppressLogs body).routine extractor.reply).run.exec _ _).map _ =
        _ at ran
      rw [routine_quietly, Routine.exec_quietly_any, Option.map_map, Option.map_eq_some_iff] at ran
      obtain ⟨deepest, ran, rfl⟩ := ran
      rw [Outline.askings_fork_ret]
      change _ = _ ++ ((quietly extractor.settings.suppressLogs body).askings extractor.reply _ _).flatMap _
      rw [askings_quietly]
      have within := accounts.log _ _ _ (passing _ silent) ran
      rw [(hushed after).1, log] at within
      exact (hushed _).2.trans within

theorem exec_announcing_muffled {mute : Bool} {t : Thread} {world : World σ} (muffled : Muffled mute t world)
    (pair : TargetPair) :
    ∃ last, (Pipeline.announcing pair).run.exec t world = some (.ok (), t, last) ∧
      Muffled mute t last ∧ last.log = world.log ++ if mute then [] else
        (PassConfig.ofTarget pair.target).auxiliaryBackend.toList.map .auxiliaryLowering := by
  rw [Pipeline.announcing]
  cases (PassConfig.ofTarget pair.target).auxiliaryBackend with
  | none => exact ⟨world, rfl, muffled, by simp⟩
  | some backend =>
      refine ⟨_, Routine.exec_emit muffled.silent _ t, ⟨muffled.silent, muffled.muted, muffled.held⟩, ?_⟩
      rw [World.logged_log, muffled.hears]
      cases mute <;> rfl

variable (extractor) in
theorem askings_lowering (pair : TargetPair) (program : Program) (params : Params) (t : Thread)
    (world : World σ) :
    ∃ first rest, (lowering pair program params).askings extractor.reply t world = first :: rest ∧
      first.request = .lower program pair params (.ofTarget pair.target) ∧
      ∀ asking ∈ rest, asking.request.announced = [] := by
  have closing : ∀ lowered, (do clearFunctions; own (Pipeline.verdict lowered) :
      Extraction σ Program Params Unit).Asks extractor.reply fun request => request.announced.isEmpty :=
    fun lowered => (asks_ask rfl).bind fun _ => asks_own _
  rw [lowering, askings_bind, askings_catchFailure, lower, askings_ask]
  exact ⟨_, _, rfl, rfl, fun asking member => List.isEmpty_iff.mp (Asks.onward closing _ asking member)⟩

section Passes

variable (tidy : extractor.pipeline.Tidy true)

include tidy

theorem accounts_clearFunctions
    (plain : ∀ asking : Asking σ (@Request.Reply Program Params), asking.request.announced = [] →
      told asking = extractor.said asking) :
    Accounts extractor told (clearFunctions : Extraction σ Program Params Unit) := by
  have reply : (extractor.reply .clearFunctions).run.Tidy true :=
    Routine.tidy_panicking tidy.clearFunctions
  exact accounts_ask reply fun asking same => plain asking (by rw [same]; rfl)

theorem accounts_reset
    (plain : ∀ asking : Asking σ (@Request.Reply Program Params), asking.request.announced = [] →
      told asking = extractor.said asking) :
    Accounts extractor told
      (reset extractor.pipeline.clearFallback.isSome : Extraction σ Program Params Unit) := by
  refine (accounts_clearFunctions tidy plain).bind fun _ => ?_
  cases fallback : extractor.pipeline.clearFallback with
  | none => exact accounts_pure ()
  | some clear =>
      have reply : (extractor.reply .clearFallback).run.Tidy true := by
        change (extractor.pipeline.forgetting).run.Tidy true
        rw [Pipeline.forgetting, fallback]
        exact Routine.tidy_panicking (tidy.clearFallback clear fallback)
      exact accounts_ask reply fun asking same => plain asking (by rw [same]; rfl)

theorem accounts_lowering (pair : TargetPair) (program : Program) (params : Params) :
    Accounts extractor extractor.said
      (lowering pair program params : Extraction σ Program Params Unit) := by
  have reply : (extractor.reply (.lower program pair params (.ofTarget pair.target))).run.Tidy true :=
    tidy.lower program pair params _
  refine (accounts_ask reply fun _ _ => rfl).catchFailure.bind fun lowered => ?_
  refine (accounts_clearFunctions tidy fun _ _ => rfl).bind fun _ => ?_
  cases lowered with
  | ok done => exact accounts_pure ()
  | error failure => exact accounts_fail _

theorem accounts_pass (pair : TargetPair) (program : Program) (params : Params) :
    Accounts extractor extractor.told (pass pair program params : Extraction σ Program Params Unit) := by
  refine (accounts_clearFunctions tidy fun _ => Extractor.told_plain).bind fun _ => ?_
  have lowers := accounts_lowering tidy pair program params
  refine ⟨?_, ?_, ?_⟩
  · rw [routine_bind, routine_own]
    refine Routine.tidy_bind ?_ fun _ => lowers.tidy
    rw [Pipeline.announcing]
    split
    · exact Routine.tidy_emit _
    · exact Routine.tidy_pure ()
  · intro t world muffled
    obtain ⟨last, announced, here, -⟩ := exec_announcing_muffled muffled pair
    rw [askings_bind, askings_own, List.nil_append, routine_own, announced]
    exact lowers.muffled t last here
  · intro t world ended muffled ran
    obtain ⟨last, announced, here, heard⟩ := exec_announcing_muffled muffled pair
    obtain ⟨first, rest, askings, lower, plain⟩ :=
      askings_lowering extractor pair program params t last
    rw [routine_bind, routine_own, Routine.exec_bind, announced] at ran
    -- The announcement is told of the lowering, the first request; nothing goes before the others.
    have grown := lowers.log t last ended here ran
    have told : rest.flatMap extractor.told = rest.flatMap extractor.said := by
      rw [List.flatMap_def, List.flatMap_def,
        List.map_congr_left fun asking member => Extractor.told_plain (plain asking member)]
    rw [askings_bind, askings_own, List.nil_append, routine_own, announced, Option.elim_some, onwardAskings,
      askings, List.flatMap_cons, told, Extractor.told, lower]
    rw [askings, List.flatMap_cons, heard] at grown
    simpa only [List.append_assoc, Request.announced] using grown

theorem accounts_passes (pair : TargetPair) (index : Nat) (work : List (Program × Params)) :
    Accounts extractor extractor.told (passes extractor.pipeline.clearFallback.isSome extractor.settings
      pair index work : Extraction σ Program Params Unit) := by
  have clear := accounts_clearFunctions tidy fun _ => Extractor.told_plain
  have reset := accounts_reset tidy fun _ => Extractor.told_plain
  induction work generalizing index with
  | nil => exact accounts_pure ()
  | cons item rest ih =>
      obtain ⟨program, params⟩ := item
      have pass := (accounts_pass tidy pair program params).isolated index
      refine clear.bind fun _ => pass.bind fun traced => reset.bind fun _ => ?_
      cases traced with
      | ok done => exact ih (index + 1)
      | error failure => exact accounts_fail _

end Passes

end Extraction

/-! ### Building tasks -/

def Asking.Builds (asking : Asking σ (@Request.Reply Program Params)) (request : TaskRequest)
    (built : Except Exit Task) : Prop :=
  ∃ t world thread after, asking = ⟨.construct request, t, world, some (built, thread, after)⟩

/-- Building tasks from invocations: what is asked of the factory, what the log is told and how it
ends. The first failure that is not recoverable is the last thing that happens. -/
inductive Building (extractor : Extractor σ Program Params) (target : Target) :
    List Invocation → List (Asking σ (@Request.Reply Program Params)) → List Event →
      Except Exit Materialized → Prop
  | done : Building extractor target [] [] [] (.ok {})
  | made {call : Invocation} {rest : List Invocation} {asking : Asking σ _} {askings : List (Asking σ _)}
      {events : List Event} {ended : Except Exit Materialized} {task : Task}
      (builds : asking.Builds (call.request extractor.settings target) (.ok task))
      (later : Building extractor target rest askings events ended) :
      Building extractor target (call :: rest) (asking :: askings) (extractor.said asking ++ events)
        (ended.map fun made => { made with tasks := task :: made.tasks })
  | skipped {call : Invocation} {rest : List Invocation} {asking : Asking σ _}
      {askings : List (Asking σ _)} {events : List Event} {ended : Except Exit Materialized}
      {failure : Failure}
      (builds : asking.Builds (call.request extractor.settings target) (.error (.failure failure)))
      (recoverable : failure.isRecoverable = true)
      (later : Building extractor target rest askings events ended) :
      Building extractor target (call :: rest) (asking :: askings)
        (extractor.said asking ++ .skipped call failure.message :: events)
        (ended.map fun made => { made with skipped := ⟨call, failure.message⟩ :: made.skipped })
  | failed {call : Invocation} {rest : List Invocation} {asking : Asking σ _} {failure : Failure}
      (builds : asking.Builds (call.request extractor.settings target) (.error (.failure failure)))
      (fatal : failure.isRecoverable = false) :
      Building extractor target (call :: rest) [asking] (extractor.said asking)
        (.error (.failure (failure.atOperator call.operator)))
  | panicked {call : Invocation} {rest : List Invocation} {asking : Asking σ _} {panic : Panic}
      (builds : asking.Builds (call.request extractor.settings target) (.error (.panic panic))) :
      Building extractor target (call :: rest) [asking] (extractor.said asking) (.error (.panic panic))

namespace Extraction

open Draft

variable {extractor : Extractor σ Program Params}

theorem askings_bind_pure (draft : Extraction σ Program Params α) (f : α → β) (t : Thread)
    (world : World σ) :
    (draft >>= fun value => pure (f value)).askings extractor.reply t world =
      draft.askings extractor.reply t world :=
  askings_bind_own extractor.reply draft (fun value => pure (f value)) t world

theorem exec_further {routine : Routine σ α} {f : α → β} {t : Thread} {world : World σ}
    {ended : Except Exit β × Thread × World σ}
    (ran : (routine >>= fun value => pure (f value)).run.exec t world = some ended) :
    ∃ outcome, routine.run.exec t world = some (outcome, ended.2) ∧ ended.1 = outcome.map f := by
  rw [Routine.exec_bind, Option.bind_eq_some_iff] at ran
  obtain ⟨⟨outcome, thread, last⟩, ran, later⟩ := ran
  cases outcome with
  | error exit =>
      cases later
      exact ⟨_, ran, rfl⟩
  | ok value =>
      cases later
      exact ⟨_, ran, rfl⟩

/-- On a thread that is heard, the log is told of every skip. -/
theorem building (tidy : ∀ request, (extractor.factory request).run.Tidy true) (target : Target)
    (calls : List Invocation) {t : Thread} {world : World σ} (muffled : Muffled false t world)
    {ended : Except Exit Materialized × Thread × World σ}
    (ran : (extractor.factory.materialize extractor.settings target calls).run.exec t world =
      some ended) :
    ∃ events, Building extractor target calls ((materialize extractor.settings target calls).askings
        extractor.reply t world) events ended.1 ∧ ended.2.2.log = world.log ++ events := by
  induction calls generalizing t world ended with
  | nil =>
      cases ran
      exact ⟨[], .done, (List.append_nil _).symm⟩
  | cons call rest ih =>
      let request := call.request extractor.settings target
      rw [Factory.materialize, Routine.exec_bind, Routine.exec_catchFailure] at ran
      rcases answer : (extractor.factory request).run.exec t world with _ | ⟨built, thread, after⟩
      all_goals rw [answer] at ran
      · cases ran
      have here := muffled.exec (tidy request) answer
      have reply : (extractor.reply (.construct request)).run.exec t world = some (built, thread, after) :=
        answer
      have said := Extractor.said_log reply
      have builds : (⟨.construct request, t, world, some (built, thread, after)⟩ :
          Asking σ (@Request.Reply Program Params)).Builds request built := ⟨_, _, _, _, rfl⟩
      rw [materialize, askings_bind, askings_catchFailure, askings_ask, routine_catchFailure, routine_ask,
        Routine.exec_catchFailure, reply]
      rcases built with (failure | panic) | task
      · simp only [Option.map_some, Option.bind_some, Routine.caught, Routine.onward] at ran
        simp only [Option.map_some, Option.elim_some, Routine.caught, onwardAskings]
        cases recoverable : failure.isRecoverable with
        | true =>
            -- The warning comes between what the factory has said and what the rest will say.
            simp only [recoverable, ↓reduceIte] at ran ⊢
            rw [Routine.exec_bind, Routine.exec_emit here.silent, Option.bind_some, Routine.onward] at ran
            obtain ⟨outcome, ran, same⟩ := exec_further ran
            have next : Muffled false thread (after.logged thread (.skipped call failure.message)) :=
              ⟨here.silent, here.muted, here.held⟩
            obtain ⟨events, building, log⟩ := ih next ran
            rw [askings_bind, askings_own, List.nil_append, routine_own, Routine.exec_emit here.silent,
              Option.elim_some, onwardAskings, askings_bind_pure, same]
            refine ⟨_, .skipped builds recoverable building, ?_⟩
            rw [log, World.logged_log, here.hears, said]
            simp [request]
        | false =>
            simp only [recoverable, Bool.false_eq_true, ↓reduceIte] at ran ⊢
            cases ran
            rw [askings_own]
            exact ⟨_, .failed builds recoverable, said⟩
      · cases ran
        exact ⟨_, .panicked builds, said⟩
      · simp only [Option.map_some, Option.bind_some, Routine.caught, Routine.onward] at ran
        obtain ⟨outcome, ran, same⟩ := exec_further ran
        obtain ⟨events, building, log⟩ := ih here ran
        simp only [Option.map_some, Option.elim_some, Routine.caught, onwardAskings]
        rw [askings_bind_pure, same]
        refine ⟨_, .made builds building, ?_⟩
        rw [log, said, List.append_assoc]

end Extraction

end TuningTasks
