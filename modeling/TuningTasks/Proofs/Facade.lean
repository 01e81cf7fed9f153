import TuningTasks.Proofs.Serialization

/-!
Batches awaited in the background beside the same batches awaited on the spot. A limit that runs out
changes what one caller gets and nothing else: the schedule without its expiries, for callers that
block, leads through the same worlds (`System.facade_agrees`).
-/
namespace TuningTasks

universe u v
variable {n : Nat} {τ : Fin n → Type} {σ α : Type} {Program : Type u} {Params : Type v}

/-! ### One step -/

theorem Running.Step.advance {running next : Running σ α} {world after : World σ}
    {moment : Option (Moment σ)} (step : running.Step world moment next after) :
    running.advance world = some (moment, next, after) := by
  induction step with
  | act ready => simp only [Running.advance, ready, ↓reduceIte]
  | fork => rfl
  | @inside _ _ body body' next t world after moment step ih =>
      have working : ∀ thread value, body ≠ .on thread (.ret value) := by
        rintro thread value rfl
        cases step
      rw [Running.advance, ih]
      · rfl
      · exact working
  | join => rfl

def Running.ahead : {α : Type} → Running σ α → World σ → List (Moment σ)
  | _, on thread code, world => code.history thread world
  | _, joining thread body next, world =>
      body.ahead world ++ (body.finish world).elim [] fun ended =>
        (next ended.1).history thread ended.2.2

theorem Running.Step.ahead {running next : Running σ α} {world after : World σ}
    {moment : Option (Moment σ)} (step : running.Step world moment next after) :
    running.ahead world = moment.toList ++ next.ahead after := by
  induction step with
  | act ready => simp only [Running.ahead, Code.history, ready, ↓reduceIte]; rfl
  | @fork _ _ thread body next t world =>
      simp only [Running.ahead, Running.finish, Code.history]
      cases body.exec { thread with caller := t.caller } world with
      | none => rfl
      | some ended => rfl
  | inside step ih =>
      simp only [Running.ahead, ih, step.finish, List.append_assoc]
  | join => rfl

/-! ### What the caller gets -/

/-- How a batch ended in the background, and what its caller gets when no limit runs out. -/
inductive Relayed : Except Exit α → Except Failure α → Prop
  | value (value : α) : Relayed (.ok value) (.ok value)
  | failure (failure : Failure) : Relayed (.error (.failure failure)) (.error failure)
  | panic (panic : Panic) {failure : Failure} {rest : String} (kind : failure.kind = .internal)
      (message : failure.message = "task extraction join failure" ++ rest) :
      Relayed (.error (.panic panic)) (.error failure)

theorem Failure.joinFailure_message (task : Nat) (panic : Panic) :
    ∃ rest, (joinFailure task panic).message = "task extraction join failure" ++ rest := by
  have named : "task extraction join failure: task " = "task extraction join failure" ++ ": task " := rfl
  simp only [joinFailure, named, String.append_assoc]
  exact ⟨_, rfl⟩

theorem awaited_relayed (task : Nat) (ended : Except Exit α) :
    Relayed ended (awaited task (.ended ended)) := by
  rcases ended with (failure | panic) | value
  · exact .failure failure
  · obtain ⟨rest, message⟩ := Failure.joinFailure_message task panic
    exact .panic panic rfl message
  · exact .value value

/-- What a caller gets of a batch that ended in some way: word of the limit if that ran out first, and
else the end of the batch. -/
inductive Settled (limit : Option Nat) (elapsed : Bool) (ended : Except Exit α) :
    Except Failure α → Prop
  | timedOut {micros : Nat} (limited : limit = some micros) (late : elapsed = true) :
      Settled limit elapsed ended (.error (.timedOut micros))
  | relayed {told : Except Failure α} (early : limit = none ∨ elapsed = false)
      (relayed : Relayed ended told) : Settled limit elapsed ended told

theorem awaited_settled (task : Nat) (limit : Option Nat) (elapsed : Bool) (ended : Except Exit α) :
    Settled limit elapsed ended (awaited task (.of limit elapsed ended)) := by
  rcases limit with _ | micros
  · exact .relayed (Or.inl rfl) (awaited_relayed task ended)
  · cases elapsed with
    | true => exact .timedOut rfl rfl
    | false => exact .relayed (Or.inr rfl) (awaited_relayed task ended)

/-- The background batch runs as it does on a fresh thread, whether or not the limit runs out. -/
theorem Extractor.exec_reportAwaited (extractor : Extractor σ Program Params) (task : Nat)
    (programs : List Program) (params : List Params) (filter : Option Filter) (target : Target)
    (host : Option Target) (limit : Option Nat) (elapsed : Bool) (t : Thread) (world : World σ) :
    (extractor.reportAwaited task programs params filter target host limit (.ret elapsed)).run.exec
        t world =
      ((extractor.report programs params filter target host).run.exec { caller := t.caller } world).map
        fun ended => ((awaited task (.of limit elapsed ended.1)).mapError .failure, t, ended.2.2) := by
  simp only [reportAwaited, Routine.exec_bind, Routine.exec_lift, Code.exec_onThread]
  cases (extractor.report programs params filter target host).run.exec { caller := t.caller } world with
  | none => rfl
  | some ended => rfl

def Call.facade (call : Call.{u} σ) (task : Nat) (limit : Option Nat) (elapsed : Bool) :
    Routine σ Report :=
  call.batch.extractor.reportAwaited task call.batch.programs call.batch.params call.batch.filter
    call.batch.target call.batch.host limit (.ret elapsed)

theorem Call.exec_facade (call : Call.{u} σ) (task : Nat) (limit : Option Nat) (elapsed : Bool)
    (t : Thread) (world : World σ) :
    (call.facade task limit elapsed).run.exec t world =
      (call.batch.report.run.exec { caller := t.caller } world).map fun ended =>
        ((awaited task (.of limit elapsed ended.1)).mapError .failure, t, ended.2.2) :=
  call.batch.extractor.exec_reportAwaited task _ _ _ _ _ limit elapsed t world

inductive Call.Answers (call : Call.{u} σ) :
    Except Exit Report → Except Exit Report → Prop
  | blocking (waits : call.wait = .blocking) (ended : Except Exit Report) : Answers call ended ended
  | awaited {task : Nat} {limit : Option Nat} (waits : call.wait = .awaited task limit)
      {ended : Except Exit Report} {told : Except Failure Report} (relayed : Relayed ended told) :
      Answers call ended (told.mapError .failure)

theorem Call.answers (call : Call.{u} σ) (ended : Except Exit Report) :
    call.Answers ended (call.answer ended) := by
  rw [answer]
  cases waits : call.wait with
  | blocking => exact .blocking waits ended
  | awaited task limit => exact .awaited waits (awaited_relayed task ended)

def Call.blocking (call : Call.{u} σ) : Call.{u} σ := { call with wait := .blocking }

/-! ### Schedules -/

/-- A turn of the scheduler: a call may go on, its caller may get the result, or its limit run out. -/
inductive Tick (n : Nat)
  | move (index : Fin n)
  | deliver (index : Fin n)
  | expire (index : Fin n)

namespace Tick

def index : Tick n → Fin n
  | move index | deliver index | expire index => index

def expires : Tick n → Bool
  | expire _ => true
  | _ => false

end Tick

namespace System

variable (calls : Fin n → Call.{u} (Parts τ))

def tick (system : System τ) : Tick n → System τ
  | .move index =>
      match (system.running index).advance system.world with
      | some (moment, running, world) => system.moved index running world moment
      | none => system
  | .deliver index =>
      match system.running index, system.answers index with
      | .on _ (.ret ended), none => system.answered index ((calls index).answer ended)
      | _, _ => system
  | .expire index =>
      match (calls index).wait, system.answers index with
      | .awaited task (some micros), none =>
          system.answered index ((awaited task (.elapsed micros)).mapError .failure)
      | _, _ => system

def play (start : World (Parts τ)) (schedule : List (Tick n)) : System τ :=
  schedule.foldl (tick calls) (initial calls start)

variable {calls} {start : World (Parts τ)} {system next : System τ}

theorem Step.tick (step : Step calls system next) : ∃ turn, system.tick calls turn = next := by
  cases step with
  | move index step => exact ⟨.move index, by simp only [System.tick, step.advance]⟩
  | deliver index waiting done => exact ⟨.deliver index, by simp only [System.tick, done, waiting]⟩
  | expire index waiting limited => exact ⟨.expire index, by simp only [System.tick, limited, waiting]⟩

/-- Whatever the calls can do, some schedule has them do it. -/
theorem Reached.play (reached : Reached calls start system) :
    ∃ schedule, play calls start schedule = system := by
  induction reached with
  | refl => exact ⟨[], rfl⟩
  | step _ step ih =>
      obtain ⟨schedule, rfl⟩ := ih
      obtain ⟨turn, rfl⟩ := step.tick
      exact ⟨schedule ++ [turn], by rw [System.play, List.foldl_append]; rfl⟩

theorem tick_answers {index : Fin n} {answer : Except Exit Report}
    (given : system.answers index = some answer) (turn : Tick n) :
    (system.tick calls turn).answers index = some answer := by
  have kept : ∀ other result, system.answers other = none →
      (system.answered other result).answers index = some answer := by
    intro other result waiting
    have differ : index ≠ other := by
      rintro rfl
      rw [given] at waiting
      cases waiting
    simp only [answered, differ, ↓reduceIte, given]
  cases turn with
  | move other =>
      simp only [tick]
      split
      · exact given
      · exact given
  | deliver other =>
      simp only [tick]
      split
      · exact kept other _ ‹_›
      · exact given
  | expire other =>
      simp only [tick]
      split
      · exact kept other _ ‹_›
      · exact given

theorem foldl_answers {index : Fin n} {answer : Except Exit Report} (schedule : List (Tick n))
    (given : system.answers index = some answer) :
    (schedule.foldl (tick calls) system).answers index = some answer := by
  induction schedule generalizing system with
  | nil => exact given
  | cons turn rest ih => exact ih (tick_answers given turn)

/-- What a caller has got, beside what it has got from the same schedule when it blocks. -/
inductive Shown (call : Call.{u} (Parts τ)) (late : Prop) :
    Option (Except Exit Report) → Option (Except Exit Report) → Prop
  | waiting : Shown call late none none
  | delivered {ended answer : Except Exit Report} (answers : call.Answers ended answer) :
      Shown call late (some ended) (some answer)
  | timedOut (elapsed : late) (result : Option (Except Exit Report)) {task micros : Nat}
      (limited : call.wait = .awaited task (some micros)) :
      Shown call late result (some (.error (.failure (.timedOut micros))))

/-- The system is its twin but for what the callers have got; `late` are those whose limits may have
run out. -/
structure Beside (calls : Fin n → Call.{u} (Parts τ)) (late : Fin n → Prop)
    (system twin : System τ) : Prop where
  world : system.world = twin.world
  running : system.running = twin.running
  trace : system.trace = twin.trace
  answers : ∀ index, Shown (calls index) (late index) (twin.answers index) (system.answers index)

abbrev patient (calls : Fin n → Call.{u} (Parts τ)) : Fin n → Call.{u} (Parts τ) :=
  fun index => (calls index).blocking

variable {late : Fin n → Prop} {twin : System τ}

theorem Beside.moved (beside : Beside calls late system twin) (index : Fin n) :
    Beside calls late (system.tick calls (.move index)) (twin.tick (patient calls) (.move index)) := by
  obtain ⟨world, running, trace, answers⟩ := beside
  simp only [tick, world, running]
  split
  · exact ⟨rfl, by simp only [System.moved, running], by simp only [System.moved, trace], answers⟩
  · exact ⟨world, running, trace, answers⟩

theorem Beside.delivered (beside : Beside calls late system twin) (index : Fin n) :
    Beside calls late (system.tick calls (.deliver index))
      (twin.tick (patient calls) (.deliver index)) := by
  obtain ⟨world, running, trace, answers⟩ := beside
  simp only [tick, running]
  cases done : twin.running index with
  | joining => exact ⟨world, running, trace, answers⟩
  | on thread code =>
      cases code with
      | act | fork => exact ⟨world, running, trace, answers⟩
      | ret ended =>
          have shown := answers index
          generalize given : twin.answers index = result at shown
          generalize got : system.answers index = answer at shown
          cases shown with
          | waiting =>
              refine ⟨world, running, trace, fun other => ?_⟩
              by_cases own : other = index
              · subst own
                simp only [answered, ↓reduceIte]
                exact .delivered ((calls other).answers ended)
              · simp only [answered, own, ↓reduceIte]
                exact answers other
          | delivered => exact ⟨world, running, trace, answers⟩
          | timedOut elapsed _ limited =>
              -- The caller has been told already; the one that blocks may get the result only now.
              cases result with
              | some => exact ⟨world, running, trace, answers⟩
              | none =>
                  refine ⟨world, running, trace, fun other => ?_⟩
                  by_cases own : other = index
                  · subst own
                    rw [got]
                    exact .timedOut elapsed _ limited
                  · simp only [answered, own, ↓reduceIte]
                    exact answers other

theorem Beside.expired (beside : Beside calls late system twin) (index : Fin n) (elapsed : late index) :
    Beside calls late (system.tick calls (.expire index)) twin := by
  obtain ⟨world, running, trace, answers⟩ := beside
  simp only [tick]
  split
  · rename_i task micros limited waiting
    refine ⟨world, running, trace, fun other => ?_⟩
    by_cases own : other = index
    · subst own
      simp only [answered, ↓reduceIte]
      exact .timedOut elapsed _ limited
    · simp only [answered, own, ↓reduceIte]
      exact answers other
  · exact ⟨world, running, trace, answers⟩

theorem Beside.ticked (beside : Beside calls late system twin) (turn : Tick n)
    (elapsed : ∀ index, turn = .expire index → late index) :
    Beside calls late (system.tick calls turn)
      (if turn.expires then twin else twin.tick (patient calls) turn) := by
  cases turn with
  | move index => exact beside.moved index
  | deliver index => exact beside.delivered index
  | expire index => exact beside.expired index (elapsed index rfl)

theorem Beside.played (beside : Beside calls late system twin) (schedule : List (Tick n))
    (elapsed : ∀ index, .expire index ∈ schedule → late index) :
    Beside calls late (schedule.foldl (tick calls) system)
      ((schedule.filter fun turn => !turn.expires).foldl (tick (patient calls)) twin) := by
  induction schedule generalizing system twin with
  | nil => exact beside
  | cons turn rest ih =>
      have later := beside.ticked turn fun index same => elapsed index (same ▸ List.mem_cons_self)
      have onward := ih later fun index member => elapsed index (List.mem_cons_of_mem _ member)
      rw [List.foldl_cons, List.filter_cons]
      cases expires : turn.expires with
      | true => simpa [expires] using onward
      | false => simpa [expires] using onward

/-- While the other calls rest, a call does what it does alone. -/
structure Apart (calls : Fin n → Call.{u} (Parts τ)) (start : World (Parts τ)) (index : Fin n)
    (system : System τ) : Prop where
  finish : (system.running index).finish system.world = (calls index).alone index start
  history : system.trace.map Prod.snd ++ (system.running index).ahead system.world =
    (calls index).batch.report.run.history { (calls index).thread with caller := index } start

theorem Apart.ticked {index : Fin n} (apart : Apart calls start index system) {turn : Tick n}
    (own : turn.index = index) : Apart calls start index (system.tick calls turn) := by
  subst own
  obtain ⟨finish, history⟩ := apart
  cases turn with
  | move index =>
      simp only [tick, Tick.index] at finish history ⊢
      split
      · rename_i moment running world advanced
        have step := Running.step_of_advance advanced
        refine ⟨by simpa [moved] using step.finish.symm.trans finish, ?_⟩
        rw [step.ahead] at history
        rw [← history]
        cases moment <;> simp [moved]
      · exact ⟨finish, history⟩
  | deliver index =>
      simp only [tick, Tick.index] at finish history ⊢
      split
      · exact ⟨finish, history⟩
      · exact ⟨finish, history⟩
  | expire index =>
      simp only [tick, Tick.index] at finish history ⊢
      split
      · exact ⟨finish, history⟩
      · exact ⟨finish, history⟩

theorem Apart.played {index : Fin n} (apart : Apart calls start index system)
    (schedule : List (Tick n)) (own : ∀ turn ∈ schedule, turn.index = index) :
    Apart calls start index (schedule.foldl (tick calls) system) := by
  induction schedule generalizing system with
  | nil => exact apart
  | cons turn rest ih =>
      have here := apart.ticked (own turn List.mem_cons_self)
      exact ih here fun other member => own other (List.mem_cons_of_mem _ member)

theorem play_alone {index : Fin n} {schedule : List (Tick n)}
    (own : ∀ turn ∈ schedule, turn.index = index) {thread : Thread} {ended : Except Exit Report}
    (done : (play calls start schedule).running index = .on thread (.ret ended)) :
    (calls index).alone index start = some (ended, thread, (play calls start schedule).world) ∧
      (play calls start schedule).trace.map Prod.snd = (calls index).batch.report.run.history
        { (calls index).thread with caller := index } start := by
  have begun : Apart calls start index (initial calls start) := ⟨rfl, rfl⟩
  obtain ⟨finish, history⟩ := begun.played schedule own
  change ((play calls start schedule).running index).finish _ = _ at finish
  change _ ++ ((play calls start schedule).running index).ahead _ = _ at history
  rw [done] at finish history
  exact ⟨finish.symm, (List.append_nil _).symm.trans history⟩

/-- What a caller has got: nothing, the result of its call, which has ended, or word that its limit ran
out. -/
inductive Got (call : Call.{u} (Parts τ)) (late : Prop)
    (running : Running (Parts τ) (Except Exit Report)) : Option (Except Exit Report) → Prop
  | waiting : Got call late running none
  | delivered {thread : Thread} {ended : Except Exit Report} (done : running = .on thread (.ret ended)) :
      Got call late running (some (call.answer ended))
  | timedOut (elapsed : late) {task micros : Nat}
      (limited : call.wait = .awaited task (some micros)) :
      Got call late running (some ((awaited task (.elapsed micros)).mapError .failure))

theorem Got.ticked {index : Fin n} {late : Prop}
    (got : Got (calls index) late (system.running index) (system.answers index)) (turn : Tick n)
    (elapsed : turn = .expire index → late) :
    Got (calls index) late ((system.tick calls turn).running index)
      ((system.tick calls turn).answers index) := by
  cases turn with
  | move other =>
      simp only [tick]
      split
      · rename_i moment running world advanced
        by_cases own : index = other
        · subst own
          simp only [moved, ↓reduceIte]
          generalize system.answers index = answer at got
          cases got with
          | waiting => exact .waiting
          | delivered done =>
              -- A call that has ended takes no further step.
              rw [done] at advanced
              cases advanced
          | timedOut elapsed limited => exact .timedOut elapsed limited
        · simpa only [moved, own, ↓reduceIte] using got
      · exact got
  | deliver other =>
      simp only [tick]
      split
      · rename_i thread ended done waiting
        by_cases own : index = other
        · subst own
          simp only [answered, ↓reduceIte]
          exact .delivered done
        · simpa only [answered, own, ↓reduceIte] using got
      · exact got
  | expire other =>
      simp only [tick]
      split
      · rename_i task micros limited waiting
        by_cases own : index = other
        · subst own
          simp only [answered, ↓reduceIte]
          exact .timedOut (elapsed rfl) limited
        · simpa only [answered, own, ↓reduceIte] using got
      · exact got

theorem Got.played {index : Fin n} {late : Prop}
    (got : Got (calls index) late (system.running index) (system.answers index))
    (schedule : List (Tick n)) (elapsed : .expire index ∈ schedule → late) :
    Got (calls index) late ((schedule.foldl (tick calls) system).running index)
      ((schedule.foldl (tick calls) system).answers index) := by
  induction schedule generalizing system with
  | nil => exact got
  | cons turn rest ih =>
      have later := got.ticked turn fun same => elapsed (same ▸ List.mem_cons_self)
      exact ih later fun member => elapsed (List.mem_cons_of_mem _ member)

/-- What a schedule in which limits may run out has to do with batches that are awaited on the spot. -/
structure Agrees (calls : Fin n → Call.{u} (Parts τ)) (start : World (Parts τ))
    (schedule : List (Tick n)) : Prop where
  /-- The callers that block see the same world, and get the same unless their limits run out. -/
  beside : Beside calls (fun index => .expire index ∈ schedule) (play calls start schedule)
    (play (patient calls) start (schedule.filter fun turn => !turn.expires))
  /-- A limit that runs out is told at once and for good. -/
  expires : ∀ before index after task micros, schedule = before ++ .expire index :: after →
    (calls index).wait = .awaited task (some micros) →
    (play calls start before).answers index = none →
    (play calls start schedule).answers index = some (.error (.failure (.timedOut micros))) ∧
      (Failure.timedOut micros).kind = .timeout
  /-- A batch that is alone ends as it does on a fresh thread, whenever its limit runs out. -/
  alone : ∀ index, (∀ turn ∈ schedule, turn.index = index) → ∀ thread ended,
    (play calls start schedule).running index = .on thread (.ret ended) →
    (calls index).alone index start = some (ended, thread, (play calls start schedule).world) ∧
    (play calls start schedule).trace.map Prod.snd = (calls index).batch.report.run.history
      { (calls index).thread with caller := index } start
  /-- Whoever awaits a batch that has ended is answered by the next delivery. -/
  delivers : ∀ index thread ended, (play calls start schedule).running index = .on thread (.ret ended) →
    ((play calls start (schedule ++ [.deliver index])).answers index).isSome = true
  /-- What the caller of a batch that is alone has got is what the facade answers, by a limit that runs
  out only if the schedule says so. -/
  told : ∀ index, (∀ turn ∈ schedule, turn.index = index) → ∀ task limit,
    (calls index).wait = .awaited task limit → (calls index).thread = {} → ∀ thread ended answer,
    (play calls start schedule).running index = .on thread (.ret ended) →
    (play calls start schedule).answers index = some answer →
    ∃ elapsed : Bool, (elapsed = true → .expire index ∈ schedule) ∧
      ((calls index).facade task limit elapsed).run.exec { caller := index } start =
        some (answer, { caller := index }, (play calls start schedule).world)
  /-- The facade runs the batch on a fresh thread, and answers by its end unless the limit ran out. -/
  facade : ∀ index task limit elapsed t world,
    ((calls index).facade task limit elapsed).run.exec t world =
        ((calls index).batch.report.run.exec { caller := t.caller } world).map (fun ended =>
          ((awaited task (.of limit elapsed ended.1)).mapError .failure, t, ended.2.2)) ∧
      ∀ ended : Except Exit Report,
        Settled limit elapsed ended (awaited task (.of limit elapsed ended))

/-- A limit that runs out is told to the caller at once, and to nobody else. -/
theorem facade_agrees (calls : Fin n → Call.{u} (Parts τ)) (start : World (Parts τ))
    (schedule : List (Tick n)) : Agrees calls start schedule := by
  constructor
  case beside =>
    have begun : Beside calls (fun index => .expire index ∈ schedule) (initial calls start)
        (initial (patient calls) start) := ⟨rfl, rfl, rfl, fun _ => .waiting⟩
    exact begun.played schedule fun _ member => member
  case expires =>
    rintro before index after task micros rfl limited waiting
    refine ⟨?_, rfl⟩
    rw [play, List.foldl_append, List.foldl_cons]
    apply foldl_answers
    change (tick calls (play calls start before) (.expire index)).answers index = _
    simp only [tick, limited, waiting, answered, ↓reduceIte]
    rfl
  case alone => exact fun index own thread ended done => play_alone own done
  case delivers =>
    intro index thread ended done
    rw [play, List.foldl_append, List.foldl_cons, List.foldl_nil]
    change ((tick calls (play calls start schedule) (.deliver index)).answers index).isSome = true
    simp only [tick, done]
    cases given : (play calls start schedule).answers index with
    | none => simp only [answered, ↓reduceIte, Option.isSome_some]
    | some answer => simp only [given, Option.isSome_some]
  case told =>
    intro index own task limit waits fresh thread ended answer done given
    have ran := (play_alone own done).1
    rw [Call.alone, fresh] at ran
    have begun : Got (calls index) (.expire index ∈ schedule) ((initial calls start).running index)
        ((initial calls start).answers index) := .waiting
    -- Either the end was delivered, or the limit ran out first: an answer, once given, is kept.
    have got := begun.played schedule fun member => member
    change Got _ _ ((play calls start schedule).running index)
      ((play calls start schedule).answers index) at got
    rw [done, given] at got
    cases got with
    | delivered same =>
        cases same
        refine ⟨false, Bool.noConfusion, ?_⟩
        rw [Call.exec_facade, ran, Call.answer, waits]
        cases limit <;> rfl
    | timedOut elapsed limited =>
        rw [waits] at limited
        cases limited
        refine ⟨true, fun _ => elapsed, ?_⟩
        rw [Call.exec_facade, ran]
        rfl
  case facade =>
    intro index task limit elapsed t world
    exact ⟨(calls index).exec_facade task limit elapsed t world, awaited_settled task limit elapsed⟩

/-- The second of two extractions times out while it waits for the lock. It goes on all the same, and
the ledger is left to it in the end, as when its caller waits. -/
theorem facade_agrees_replay :
    let start : World (Parts fun _ : Fin 2 => Unit) := .initial fun _ => ()
    let calls : Fin 2 → Call.{0} (Parts fun _ => Unit) := fun index =>
      { batch := .replay "global" [[⟨if index = 0 then "dense" else "batch_matmul", ⟨[]⟩⟩]] none
        wait := if index = 0 then .blocking else .awaited 7 (some 500) }
    let before := [Tick.move 0, .move 1, .move 0, .move 0, .move 1]
    let after := (List.replicate 60 [Tick.move 0, .move 1]).flatten ++ [.deliver 0, .deliver 1]
    let schedule := before ++ .expire 1 :: after
    let patience := schedule.filter fun turn => !turn.expires
    Beside calls (fun index => .expire index ∈ schedule) (play calls start schedule)
        (play (patient calls) start patience) ∧
      (play calls start schedule).answers 1 = some (.error (.failure (.timedOut 500))) ∧
      ((play (patient calls) start patience).answers 1).map (fun answer =>
        answer.toOption.map fun report => report.tasks.map Task.name) = some (some ["batch_matmul"]) ∧
      ((play calls start schedule).world.ledgers "global").value.ordered.map Invocation.operator =
        ["batch_matmul"] := by
  intro start calls before after schedule patience
  obtain ⟨beside, expires, -, -, -, -⟩ := facade_agrees calls start schedule
  have waiting : ((play calls start before).answers 1).isNone = true := by decide +kernel
  have timedOut := expires before 1 after 7 500 rfl rfl (Option.isNone_iff_eq_none.mp waiting)
  refine ⟨beside, timedOut.1, ?_, ?_⟩
  · decide +kernel
  · decide +kernel

end System

end TuningTasks
