import TuningTasks.Proofs.Poison
import TuningTasks.Proofs.Telling

/-!
How tasks are built of recorded invocations. A factory that answers by the request alone makes of each
invocation a task, a skip or the end of the work; what comes before that end is kept apart in two lists in
the order of the invocations, and the log is warned of each skip where it happens
(`Extraction.materialize_partitions`).
-/
namespace TuningTasks

universe u v
variable {σ : Type} {Program : Type u} {Params : Type v}

/-- The factory answers a request in the same way whenever it is asked, as long as the log has that sink. -/
def Factory.Answers (factory : Factory σ) (sink : List Event → Event → Option Panic)
    (answer : TaskRequest → Except Exit Task) : Prop :=
  ∀ request t world, world.sink = sink →
    ∃ thread last, (factory request).run.exec t world = some (answer request, thread, last)

/-- What becomes of an invocation by the answer to its request, unless that ends the work. -/
def Invocation.part? (call : Invocation) : Except Exit Task → Option (Task ⊕ Skip)
  | .ok task => some (.inl task)
  | .error (.failure failure) =>
      if failure.kind = .invalidShape then some (.inr ⟨call, failure.message⟩) else none
  | .error (.panic _) => none

def Invocation.ending (call : Invocation) : Exit → Exit
  | .failure failure => .failure { failure with operator := failure.operator.or (some call.operator) }
  | .panic panic => .panic panic

def Materialized.ofParts (parts : List (Task ⊕ Skip)) : Materialized where
  tasks := parts.filterMap Sum.getLeft?
  skipped := parts.filterMap Sum.getRight?

def Materialized.add (made : Materialized) : Task ⊕ Skip → Materialized
  | .inl task => { made with tasks := task :: made.tasks }
  | .inr skip => { made with skipped := skip :: made.skipped }

namespace Materialized

theorem ofParts_cons (part : Task ⊕ Skip) (parts : List (Task ⊕ Skip)) :
    ofParts (part :: parts) = (ofParts parts).add part := by
  cases part <;> rfl

end Materialized

def Skip.warning (skip : Skip) : Event := .skipped skip.invocation skip.reason

/-- How the building of tasks ends by the answers: the invocations it gets to, what the sink panics with
on the warning of each of these, the parts that are made of them and what comes of it. Either every
invocation becomes a part, or the work stops at the first one that does not, or at the first whose warning
the sink does not take. -/
inductive Partition (answer : Invocation → Except Exit Task) :
    List Invocation → List Invocation → List (Option Panic) → List (Task ⊕ Skip) →
      Except Exit Materialized → Prop
  | whole {calls : List Invocation} {parts : List (Task ⊕ Skip)}
      (each : calls.map (fun call => call.part? (answer call)) = parts.map some) :
      Partition answer calls calls (calls.map fun _ => none) parts (.ok (.ofParts parts))
  | stopped {before : List Invocation} {call : Invocation} {after : List Invocation}
      {parts : List (Task ⊕ Skip)} {exit : Exit}
      (each : before.map (fun call => call.part? (answer call)) = parts.map some)
      (answered : answer call = .error exit) (fatal : call.part? (answer call) = none) :
      Partition answer (before ++ call :: after) (before ++ [call])
        ((before.map fun _ => none) ++ [none]) parts (.error (call.ending exit))
  | unwarned {before : List Invocation} {call : Invocation} {after : List Invocation}
      {parts : List (Task ⊕ Skip)} {skip : Skip} (panic : Panic)
      (each : before.map (fun call => call.part? (answer call)) = parts.map some)
      (skips : call.part? (answer call) = some (.inr skip)) :
      Partition answer (before ++ call :: after) (before ++ [call])
        ((before.map fun _ => none) ++ [some panic]) (parts ++ [.inr skip]) (.error (.panic panic))

namespace Partition

variable {answer : Invocation → Except Exit Task} {call : Invocation} {rest reached : List Invocation}
  {alarms : List (Option Panic)} {parts : List (Task ⊕ Skip)}

theorem stopped_first {exit : Exit} (answered : answer call = .error exit)
    (fatal : call.part? (answer call) = none) :
    Partition answer (call :: rest) [call] [none] [] (.error (call.ending exit)) :=
  @stopped _ [] call rest [] exit rfl answered fatal

theorem unwarned_first {skip : Skip} (panic : Panic)
    (skips : call.part? (answer call) = some (.inr skip)) :
    Partition answer (call :: rest) [call] [some panic] [.inr skip] (.error (.panic panic)) :=
  @unwarned _ [] call rest [] skip panic rfl skips

theorem cons {part : Task ⊕ Skip} {outcome : Except Exit Materialized}
    (made : call.part? (answer call) = some part)
    (later : Partition answer rest reached alarms parts outcome) :
    Partition answer (call :: rest) (call :: reached) (none :: alarms) (part :: parts)
      (outcome.map fun made => made.add part) := by
  have further {before : List Invocation} {parts : List (Task ⊕ Skip)}
      (each : before.map (fun call => call.part? (answer call)) = parts.map some) :
      (call :: before).map (fun call => call.part? (answer call)) = (part :: parts).map some := by
    simp only [List.map_cons, made, each]
  cases later with
  | whole each =>
      have all : Partition answer _ _ _ _ _ := .whole (further each)
      rwa [Materialized.ofParts_cons] at all
  | stopped each answered fatal => exact .stopped (further each) answered fatal
  | unwarned panic each skips => exact .unwarned panic (further each) skips

end Partition

/-- The warning that follows an answer, on the thread and in the world that the answer leaves. -/
def Asking.warnings : Asking σ (@Request.Reply Program Params) → List (Moment σ)
  | ⟨.construct request, _, _, some (.error (.failure failure), thread, after)⟩ =>
      if failure.isRecoverable then
        [⟨.emit (.skipped ⟨request.operator, request.signature⟩ failure.message), thread, after⟩]
      else []
  | _ => []

def Asking.alarm? (asking : Asking σ (@Request.Reply Program Params)) : Option Panic :=
  asking.warnings.head?.bind Moment.alarm?

def eventsOf (moments : List (Moment σ)) : List Event :=
  moments.filterMap fun moment => moment.action.event? moment.world

namespace Routine

variable {α : Type}

theorem history_catchFailure (routine : Routine σ α) (t : Thread) (world : World σ) :
    (catchFailure routine).run.history t world = routine.run.history t world := by
  change (routine.run.bind _).history t world = _
  rw [Code.history_bind]
  rcases routine.run.exec t world with _ | ⟨(failure | panic) | value, thread, last⟩
  · exact List.append_nil _
  all_goals exact List.append_nil _

theorem history_emit (event : Event) (t : Thread) (world : World σ) :
    (emit event : Routine σ Unit).run.history t world = [⟨.emit event, t, world⟩] := rfl

theorem history_bind_pure {β : Type} (routine : Routine σ α) (f : α → β) (t : Thread)
    (world : World σ) :
    (routine >>= fun value => pure (f value)).run.history t world = routine.run.history t world := by
  rw [history_bind]
  rcases routine.run.exec t world with _ | ⟨exit | value, thread, last⟩
  all_goals exact List.append_nil _

end Routine

namespace Extraction

open Draft

variable (extractor : Extractor σ Program Params)

/-- Building tasks does nothing but ask the factory and, after a rejected shape, warn. -/
theorem history_materialize (target : Target) (calls : List Invocation) (t : Thread)
    (world : World σ) :
    (extractor.factory.materialize extractor.settings target calls).run.history t world =
      ((materialize extractor.settings target calls).askings extractor.reply t world).flatMap
        fun asking => extractor.moments asking ++ asking.warnings := by
  induction calls generalizing t world with
  | nil => rfl
  | cons call rest ih =>
      let request := call.request extractor.settings target
      have moments (ended) : extractor.moments ⟨.construct request, t, world, ended⟩ =
          (extractor.factory request).run.history t world := rfl
      rw [Factory.materialize, Routine.history_bind, Routine.history_catchFailure,
        Routine.exec_catchFailure, materialize, askings_bind, askings_catchFailure, askings_ask,
        routine_catchFailure, routine_ask, Routine.exec_catchFailure, List.flatMap_append,
        List.flatMap_singleton, moments, List.append_assoc]
      congr 1
      rcases answer : (extractor.factory request).run.exec t world with
        _ | ⟨(failure | panic) | task, thread, after⟩
      all_goals
        have reply : (extractor.reply (.construct request)).run.exec t world = _ := answer
        rw [reply]
      · rfl
      · simp only [Option.map_some, Option.elim_some, Routine.caught, Routine.onwardHistory,
          onwardAskings, Asking.warnings]
        cases recoverable : failure.isRecoverable with
        | true =>
            simp only [↓reduceIte]
            rw [Routine.history_bind, Routine.history_emit, Routine.exec_emit_any, askings_bind, askings_own,
              routine_own, Routine.exec_emit_any]
            rcases after.emit thread (.skipped call failure.message) with ⟨panic | done, last⟩
            · rfl
            · simp only [Option.elim_some, Routine.mapError_ok, Routine.onwardHistory, onwardAskings]
              rw [Routine.history_bind_pure, askings_bind_pure, ih]
              rfl
        | false => rfl
      · rfl
      · simp only [Option.map_some, Option.elim_some, Routine.caught, Routine.onwardHistory,
          onwardAskings]
        rw [Routine.history_bind_pure, askings_bind_pure, ih]
        rfl

section Steps

variable {extractor} {target : Target} {call : Invocation} {t thread : Thread} {world after : World σ}

/-- An invocation that has become a part leaves the rest to be done. -/
structure Proceeds (extractor : Extractor σ Program Params) (target : Target) (call : Invocation)
    (rest : List Invocation) (t : Thread) (world : World σ) (built : Except Exit Task)
    (part : Task ⊕ Skip) (thread : Thread) (after next : World σ) : Prop where
  exec : (extractor.factory.materialize extractor.settings target (call :: rest)).run.exec t world =
    ((extractor.factory.materialize extractor.settings target rest).run.exec thread next).map fun ended =>
      (ended.1.map fun made => made.add part, ended.2)
  askings : (materialize extractor.settings target (call :: rest)).askings extractor.reply t world =
    ⟨.construct (call.request extractor.settings target), t, world, some (built, thread, after)⟩ ::
      (materialize extractor.settings target rest).askings extractor.reply thread next

theorem proceeds_made {task : Task} (rest : List Invocation)
    (ran : (extractor.factory (call.request extractor.settings target)).run.exec t world =
      some (.ok task, thread, after)) :
    Proceeds extractor target call rest t world (.ok task) (.inl task) thread after after := by
  have reply : (extractor.reply (.construct (call.request extractor.settings target))).run.exec t world =
    _ := ran
  constructor
  · rw [Factory.materialize, Routine.exec_bind, Routine.exec_catchFailure, ran]
    simp only [Option.map_some, Option.bind_some, Routine.caught, Routine.onward, Routine.exec_bind]
    rcases (extractor.factory.materialize extractor.settings target rest).run.exec thread after with
      _ | ⟨exit | made, _, _⟩
    all_goals rfl
  · rw [materialize, askings_bind, askings_catchFailure, askings_ask, routine_catchFailure, routine_ask,
      Routine.exec_catchFailure, reply]
    simp only [Option.map_some, Option.elim_some, Routine.caught, onwardAskings]
    rw [askings_bind_pure]
    rfl

theorem proceeds_skipped {failure : Failure} (rest : List Invocation)
    (ran : (extractor.factory (call.request extractor.settings target)).run.exec t world =
      some (.error (.failure failure), thread, after))
    (recoverable : failure.isRecoverable = true)
    (heard : after.panicOn thread (.skipped call failure.message) = none) :
    Proceeds extractor target call rest t world (.error (.failure failure))
      (.inr ⟨call, failure.message⟩) thread after (after.logged thread (.skipped call failure.message)) := by
  have reply : (extractor.reply (.construct (call.request extractor.settings target))).run.exec t world =
    _ := ran
  have emitted : (Routine.emit (.skipped call failure.message)).run.exec thread after =
      some (.ok (), thread, after.logged thread (.skipped call failure.message)) := by
    rw [Routine.exec_emit_any, World.emit_eq, heard]
    rfl
  constructor
  · rw [Factory.materialize, Routine.exec_bind, Routine.exec_catchFailure, ran]
    simp only [Option.map_some, Option.bind_some, Routine.caught, Routine.onward, recoverable, ↓reduceIte,
      Routine.exec_bind, emitted]
    rcases (extractor.factory.materialize extractor.settings target rest).run.exec thread
      (after.logged thread (.skipped call failure.message)) with _ | ⟨exit | made, _, _⟩
    all_goals rfl
  · rw [materialize, askings_bind, askings_catchFailure, askings_ask, routine_catchFailure, routine_ask,
      Routine.exec_catchFailure, reply]
    simp only [Option.map_some, Option.elim_some, Routine.caught, onwardAskings, recoverable, ↓reduceIte]
    rw [askings_bind, askings_own, routine_own, emitted]
    simp only [Option.elim_some, onwardAskings]
    rw [askings_bind_pure]
    rfl

structure Stops (extractor : Extractor σ Program Params) (target : Target) (call : Invocation)
    (rest : List Invocation) (t : Thread) (world : World σ) (built : Except Exit Task) (exit : Exit)
    (thread : Thread) (after last : World σ) : Prop where
  exec : (extractor.factory.materialize extractor.settings target (call :: rest)).run.exec t world =
    some (.error exit, thread, last)
  askings : (materialize extractor.settings target (call :: rest)).askings extractor.reply t world =
    [⟨.construct (call.request extractor.settings target), t, world, some (built, thread, after)⟩]

theorem stops_fatal {exit : Exit} (rest : List Invocation)
    (ran : (extractor.factory (call.request extractor.settings target)).run.exec t world =
      some (.error exit, thread, after))
    (fatal : call.part? (.error exit) = none) :
    Stops extractor target call rest t world (.error exit) (call.ending exit) thread after after := by
  have reply : (extractor.reply (.construct (call.request extractor.settings target))).run.exec t world =
    _ := ran
  cases exit with
  | panic panic =>
      constructor
      · rw [Factory.materialize, Routine.exec_bind, Routine.exec_catchFailure, ran]
        rfl
      · rw [materialize, askings_bind, askings_catchFailure, askings_ask, routine_catchFailure, routine_ask,
          Routine.exec_catchFailure, reply]
        rfl
  | failure failure =>
      have unrecoverable : failure.isRecoverable = false := by
        simpa [Invocation.part?, Failure.isRecoverable] using fatal
      constructor
      · rw [Factory.materialize, Routine.exec_bind, Routine.exec_catchFailure, ran]
        simp only [Option.map_some, Option.bind_some, Routine.caught, Routine.onward, unrecoverable,
          Bool.false_eq_true, ↓reduceIte]
        rfl
      · rw [materialize, askings_bind, askings_catchFailure, askings_ask, routine_catchFailure, routine_ask,
          Routine.exec_catchFailure, reply]
        simp only [Option.map_some, Option.elim_some, Routine.caught, onwardAskings, unrecoverable,
          Bool.false_eq_true, ↓reduceIte, askings_own, List.append_nil]

theorem stops_unwarned {failure : Failure} {panic : Panic} (rest : List Invocation)
    (ran : (extractor.factory (call.request extractor.settings target)).run.exec t world =
      some (.error (.failure failure), thread, after))
    (recoverable : failure.isRecoverable = true)
    (heard : after.panicOn thread (.skipped call failure.message) = some panic) :
    Stops extractor target call rest t world (.error (.failure failure)) (.panic panic) thread after
      (after.logged thread (.skipped call failure.message)) := by
  have reply : (extractor.reply (.construct (call.request extractor.settings target))).run.exec t world =
    _ := ran
  have emitted : (Routine.emit (.skipped call failure.message)).run.exec thread after =
      some (.error (.panic panic), thread, after.logged thread (.skipped call failure.message)) := by
    rw [Routine.exec_emit_any, World.emit_eq, heard]
    rfl
  constructor
  · rw [Factory.materialize, Routine.exec_bind, Routine.exec_catchFailure, ran]
    simp only [Option.map_some, Option.bind_some, Routine.caught, Routine.onward, recoverable, ↓reduceIte,
      Routine.exec_bind, emitted]
  · rw [materialize, askings_bind, askings_catchFailure, askings_ask, routine_catchFailure, routine_ask,
      Routine.exec_catchFailure, reply]
    simp only [Option.map_some, Option.elim_some, Routine.caught, onwardAskings, recoverable, ↓reduceIte]
    rw [askings_bind, askings_own, routine_own, emitted]
    rfl

end Steps

structure Recounts (extractor : Extractor σ Program Params) (target : Target) (reached : List Invocation)
    (alarms : List (Option Panic)) (parts : List (Task ⊕ Skip))
    (asked : List (Asking σ (@Request.Reply Program Params))) : Prop where
  requests : asked.map Asking.request =
    reached.map fun call => .construct (call.request extractor.settings target)
  alarms : asked.map Asking.alarm? = alarms
  warned : eventsOf (asked.flatMap Asking.warnings) = (Materialized.ofParts parts).skipped.map Skip.warning

namespace Recounts

variable {extractor} {target : Target} {call : Invocation} {t thread : Thread} {world after : World σ}
  {reached : List Invocation} {alarms : List (Option Panic)} {parts : List (Task ⊕ Skip)}
  {asked : List (Asking σ (@Request.Reply Program Params))}

theorem nil : Recounts extractor target [] [] [] [] := ⟨rfl, rfl, rfl⟩

theorem made {task : Task} (later : Recounts extractor target reached alarms parts asked) :
    Recounts extractor target (call :: reached) (none :: alarms) (.inl task :: parts)
      (⟨.construct (call.request extractor.settings target), t, world, some (.ok task, thread, after)⟩ ::
        asked) :=
  ⟨congrArg _ later.requests, congrArg _ later.alarms, later.warned⟩

theorem skipped {failure : Failure} (recoverable : failure.isRecoverable = true)
    (later : Recounts extractor target reached alarms parts asked) :
    Recounts extractor target (call :: reached)
      (after.panicOn thread (.skipped call failure.message) :: alarms)
      (.inr ⟨call, failure.message⟩ :: parts)
      (⟨.construct (call.request extractor.settings target), t, world,
        some (.error (.failure failure), thread, after)⟩ :: asked) := by
  refine ⟨congrArg _ later.requests, ?_, ?_⟩
  · rw [List.map_cons, later.alarms, Asking.alarm?, Asking.warnings, if_pos recoverable]
    rfl
  · rw [List.flatMap_cons, Asking.warnings, if_pos recoverable]
    exact congrArg (List.cons _) later.warned

theorem fatal {exit : Exit} (fatal : call.part? (.error exit) = none) :
    Recounts extractor target [call] [none] []
      [(⟨.construct (call.request extractor.settings target), t, world, some (.error exit, thread, after)⟩ :
        Asking σ (@Request.Reply Program Params))] := by
  cases exit with
  | panic panic => exact ⟨rfl, rfl, rfl⟩
  | failure failure =>
      have unrecoverable : ¬ failure.isRecoverable = true := by
        simpa [Invocation.part?, Failure.isRecoverable] using fatal
      refine ⟨rfl, ?_, ?_⟩
      · rw [List.map_singleton, Asking.alarm?, Asking.warnings, if_neg unrecoverable]
        rfl
      · rw [List.flatMap_singleton, Asking.warnings, if_neg unrecoverable]
        rfl

end Recounts

/-- By induction on the invocations: each becomes a part, and the rest is done in what its reply leaves. -/
theorem partition_of_answers {sink : List Event → Event → Option Panic}
    {answer : TaskRequest → Except Exit Task} (answers : extractor.factory.Answers sink answer)
    (target : Target) (calls : List Invocation) (t : Thread) {world : World σ} (same : world.sink = sink) :
    ∃ reached alarms parts outcome thread last,
      Partition (fun call => answer (call.request extractor.settings target)) calls reached alarms parts
        outcome ∧
      (extractor.factory.materialize extractor.settings target calls).run.exec t world =
        some (outcome, thread, last) ∧
      Recounts extractor target reached alarms parts
        ((materialize extractor.settings target calls).askings extractor.reply t world) := by
  induction calls generalizing t world with
  | nil => exact ⟨[], [], [], _, t, world, .whole rfl, rfl, .nil⟩
  | cons call rest ih =>
      obtain ⟨thread, after, ran⟩ := answers (call.request extractor.settings target) t world same
      have kept : after.sink = sink := (Code.exec_frame ran).1.trans same
      rcases built : answer (call.request extractor.settings target) with (failure | panic) | task
      all_goals rw [built] at ran
      · cases recoverable : failure.isRecoverable with
        | true =>
            have skips : call.part? (answer (call.request extractor.settings target)) =
                some (.inr ⟨call, failure.message⟩) := by
              simpa [built, Invocation.part?, Failure.isRecoverable] using recoverable
            -- The sink is asked in the world that the factory left, where the warning is logged.
            cases heard : after.panicOn thread (.skipped call failure.message) with
            | none =>
                have kept' : (after.logged thread (.skipped call failure.message)).sink = sink := kept
                obtain ⟨reached, alarms, parts, outcome, thread', last, partition, ended, recounts⟩ :=
                  ih thread kept'
                have step := proceeds_skipped rest ran recoverable heard
                rw [step.exec, step.askings, ended]
                exact ⟨_, _, _, _, thread', last, partition.cons skips, rfl,
                  heard ▸ recounts.skipped recoverable⟩
            | some panic =>
                have step := stops_unwarned rest ran recoverable heard
                rw [step.exec, step.askings]
                exact ⟨_, _, _, _, thread, _, .unwarned_first panic skips, rfl,
                  heard ▸ Recounts.nil.skipped recoverable⟩
        | false =>
            have fatal : call.part? (.error (.failure failure)) = none := by
              simpa [Invocation.part?, Failure.isRecoverable] using recoverable
            have step := stops_fatal rest ran fatal
            rw [step.exec, step.askings]
            exact ⟨_, _, _, _, thread, after, .stopped_first built (built ▸ fatal), rfl, .fatal fatal⟩
      · have step := stops_fatal rest ran rfl
        rw [step.exec, step.askings]
        exact ⟨_, _, _, _, thread, after, .stopped_first built (built ▸ rfl), rfl, .fatal rfl⟩
      · obtain ⟨reached, alarms, parts, outcome, thread', last, partition, ended, recounts⟩ :=
          ih thread kept
        have step := proceeds_made rest ran
        rw [step.exec, step.askings, ended]
        refine ⟨_, _, _, _, thread', last, partition.cons ?_, rfl, recounts.made⟩
        rw [built]
        rfl

/-- What comes of the invocations, what the factory is asked and what the log is warned of, for a factory
that answers by the request alone. The work goes on past a skip if the sink takes its warning in the world
that the answer leaves, and ends with the panic if it does not. -/
theorem materialize_partitions {answer : TaskRequest → Except Exit Task} {world : World σ}
    (answers : extractor.factory.Answers world.sink answer) (target : Target) (calls : List Invocation)
    (t : Thread) :
    let made := extractor.factory.materialize extractor.settings target calls
    let asked := (materialize extractor.settings target calls).askings extractor.reply t world
    ∃ reached parts outcome thread last,
      made.run.exec t world = some (outcome, thread, last) ∧
      Partition (fun call => answer (call.request extractor.settings target)) calls reached
        (asked.map Asking.alarm?) parts outcome ∧
      (∀ materialized, outcome = .ok materialized →
        calls.length = materialized.tasks.length + materialized.skipped.length) ∧
      asked.map Asking.request =
        reached.map (fun call => .construct (call.request extractor.settings target)) ∧
      made.run.history t world =
        asked.flatMap (fun asking => extractor.moments asking ++ asking.warnings) ∧
      eventsOf (asked.flatMap Asking.warnings) =
        (Materialized.ofParts parts).skipped.map Skip.warning := by
  obtain ⟨reached, alarms, parts, outcome, thread, last, partition, ended, requests, rfl, warned⟩ :=
    partition_of_answers extractor answers target calls t rfl
  refine ⟨reached, parts, outcome, thread, last, ended, partition, ?_, requests,
    history_materialize extractor target calls t world, warned⟩
  rintro materialized rfl
  exact Factory.materialize_count ended

end Extraction

def Factory.ofAnswers (answer : TaskRequest → Except Exit Task) : Factory σ := fun request =>
  ExceptT.mk (pure (answer request))

theorem Factory.answers_ofAnswers (sink : List Event → Event → Option Panic)
    (answer : TaskRequest → Except Exit Task) : (ofAnswers answer : Factory σ).Answers sink answer :=
  fun _ t world _ => ⟨t, world, rfl⟩

def TaskRequest.sorted (request : TaskRequest) : Except Exit Task :=
  if request.operator = "dense" then .ok (.ofRequest request)
  else if request.operator = "conv2d_nchw" then
    .error (.failure (.invalidShape request.operator "bad shape"))
  else .error (.failure { kind := .constructionFailure, message := "no template" })

/-- Of five invocations, the fourth ends the work; where the log takes one warning and no further one, the
third does. -/
theorem Extraction.materialize_partitions_sorted :
    let extractor : Extractor Unit (List Invocation) Unit :=
      { pipeline := .replay, factory := .ofAnswers TaskRequest.sorted }
    let calls : List Invocation := [⟨"dense", ⟨[]⟩⟩, ⟨"conv2d_nchw", ⟨[]⟩⟩, ⟨"conv2d_nchw", ⟨[.int 1]⟩⟩,
      ⟨"batch_matmul", ⟨[]⟩⟩, ⟨"dense", ⟨[.int 1]⟩⟩]
    let asked (world : World Unit) :=
      (materialize extractor.settings default calls).askings extractor.reply {} world
    let answer (call : Invocation) := (call.request extractor.settings default).sorted
    let skips : List Event := [.skipped ⟨"conv2d_nchw", ⟨[]⟩⟩ "bad shape",
      .skipped ⟨"conv2d_nchw", ⟨[.int 1]⟩⟩ "bad shape"]
    let full : World Unit := { World.initial () with
      sink := fun past event =>
        if event.level = .warn ∧ past ≠ [] then some ⟨some "log is full"⟩ else none }
    (∃ reached parts, Partition answer calls reached ((asked (.initial ())).map Asking.alarm?) parts
        (.error (.failure { kind := .constructionFailure, message := "no template"
                            operator := some "batch_matmul" })) ∧
      reached.length = 4 ∧ (Materialized.ofParts parts).skipped.map Skip.warning = skips) ∧
    ∃ reached parts, Partition answer calls reached ((asked full).map Asking.alarm?) parts
        (.error (.panic ⟨some "log is full"⟩)) ∧
      reached.length = 3 ∧ (Materialized.ofParts parts).skipped.map Skip.warning = skips := by
  intro extractor calls asked answer skips full
  have parted : ∀ (world : World Unit) (exit : Exit) (length : Nat),
      ((extractor.factory.materialize extractor.settings default calls).run.exec {} world).map Prod.fst =
        some (.error exit) →
      (asked world).length = length → eventsOf ((asked world).flatMap Asking.warnings) = skips →
      ∃ reached parts, Partition answer calls reached ((asked world).map Asking.alarm?) parts (.error exit) ∧
        reached.length = length ∧ (Materialized.ofParts parts).skipped.map Skip.warning = skips := by
    intro world exit length ran lengthy events
    have answers : extractor.factory.Answers world.sink TaskRequest.sorted :=
      Factory.answers_ofAnswers _ _
    obtain ⟨reached, parts, outcome, thread, last, ended, partition, -, requests, -, warned⟩ :=
      materialize_partitions extractor answers default calls {}
    rw [ended, Option.map_some, Option.some.injEq] at ran
    cases ran
    have count := congrArg List.length requests
    rw [List.length_map, List.length_map] at count
    exact ⟨reached, parts, partition, count.symm.trans lengthy, warned.symm.trans events⟩
  constructor
  · exact parted _ _ _ rfl (by decide +kernel) (by decide +kernel)
  · exact parted _ _ _ rfl (by decide +kernel) (by decide +kernel)

/-- A sink that panics on a warning stands between the skip and the tasks. -/
theorem Factory.unwarned_skip :
    let answer : TaskRequest → Except Exit Task := fun request =>
      .error (.failure (.invalidShape request.operator "bad shape"))
    let world : World Unit := { World.initial () with
      sink := fun _ event => if event.level = .warn then some ⟨some "log sink failed"⟩ else none }
    (ofAnswers answer : Factory Unit).Answers world.sink answer ∧
      (((ofAnswers answer).materialize {} default [⟨"dense", ⟨[]⟩⟩]).run.exec {} world).map Prod.fst =
        some (.error (.panic ⟨some "log sink failed"⟩)) :=
  ⟨answers_ofAnswers _ _, rfl⟩

end TuningTasks
