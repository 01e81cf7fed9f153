import TuningTasks.Batch.Await
import TuningTasks.Proofs.Mirror
import TuningTasks.Proofs.Playing

/-!
Any number of extractions at once, interleaved action by action. Each has a caller that waits for it,
perhaps with a time limit, and goes on whether or not the limit runs out. The session lock puts the
traced parts one after another, so each ends as it would alone (`System.Reached.serialized`).
-/
namespace TuningTasks

universe u
variable {n : Nat} {τ : Fin n → Type}

/-- A caller waits on its own thread, or for a background task of the given number, perhaps with a
limit in microseconds. -/
inductive Wait
  | blocking
  | awaited (task : Nat) (limit : Option Nat)

structure Call (σ : Type) where
  batch : Batch.{u} σ
  thread : Thread := {}
  wait : Wait := .blocking

namespace Call

variable {σ : Type} (call : Call.{u} σ)

def answer (ended : Except Exit Report) : Except Exit Report :=
  match call.wait with
  | .blocking => ended
  | .awaited task _ => (awaited task (.ended ended)).mapError .failure

theorem answer_untraced {ended : Except Exit Report} (untraced : Untraced ended) :
    Untraced (call.answer ended) := by
  unfold answer
  cases call.wait with
  | blocking => exact untraced
  | awaited task limit =>
      rcases ended with (failure | panic) | report
      · exact untraced
      · exact .failure FailureKind.noConfusion
      · exact .ok report

def start (index : Nat) : Running σ (Except Exit Report) :=
  .on { call.thread with caller := index } call.batch.report.run

def alone (index : Nat) (world : World σ) : Option (Except Exit Report × Thread × World σ) :=
  call.batch.report.run.exec { call.thread with caller := index } world

end Call

/-- The calls at work, what their callers have got so far, and what was done, call by call. -/
structure System (τ : Fin n → Type) where
  world : World (Parts τ)
  running : Fin n → Running (Parts τ) (Except Exit Report)
  answers : Fin n → Option (Except Exit Report) := fun _ => none
  trace : List (Fin n × Moment (Parts τ)) := []

def callsOf {σ : Type} (index : Fin n) (trace : List (Fin n × Moment σ)) : List Invocation :=
  dispatched ((trace.filter fun entry => entry.1 = index).map Prod.snd)

namespace System

def moved (system : System τ) (index : Fin n) (running : Running (Parts τ) (Except Exit Report))
    (world : World (Parts τ)) (moment : Option (Moment (Parts τ))) : System τ :=
  { system with
    world := world
    running := fun other => if other = index then running else system.running other
    trace := system.trace ++ moment.toList.map fun moment => (index, moment) }

def answered (system : System τ) (index : Fin n) (answer : Except Exit Report) : System τ :=
  { system with
    answers := fun other => if other = index then some answer else system.answers other }

/-- A call takes a step, or its caller gets the result, or gives up waiting for it. -/
inductive Step (calls : Fin n → Call.{u} (Parts τ)) : System τ → System τ → Prop
  | move {system : System τ} (index : Fin n) {moment : Option (Moment (Parts τ))}
      {running : Running (Parts τ) (Except Exit Report)} {world : World (Parts τ)}
      (step : (system.running index).Step system.world moment running world) :
      Step calls system (system.moved index running world moment)
  | deliver {system : System τ} (index : Fin n) {thread : Thread} {ended : Except Exit Report}
      (waiting : system.answers index = none)
      (done : system.running index = .on thread (.ret ended)) :
      Step calls system (system.answered index ((calls index).answer ended))
  | expire {system : System τ} (index : Fin n) {task micros : Nat}
      (waiting : system.answers index = none)
      (limited : (calls index).wait = .awaited task (some micros)) :
      Step calls system
        (system.answered index ((awaited task (.elapsed micros)).mapError .failure))

def initial (calls : Fin n → Call.{u} (Parts τ)) (start : World (Parts τ)) : System τ where
  world := start
  running index := (calls index).start index

inductive Reached (calls : Fin n → Call.{u} (Parts τ)) (start : World (Parts τ)) : System τ → Prop
  | refl : Reached calls start (initial calls start)
  | step {system next : System τ} (reached : Reached calls start system)
      (step : Step calls system next) : Reached calls start next

end System

/-- A scope is made only where none is, only the ledger of the own session is asked, and what is read
from it are the invocations that the call itself has dispatched. -/
def Role.Proper {β : Type} (role : Role n) (calls : List Invocation) (world : World (Parts τ)) :
    Action (Parts τ) β → Prop
  | .install _ => world.hook = { value := none }
  | .consult hook _ => hook = .ledger role.ledger ∧ world.session = some role.index.val
  | .readLedger name =>
      name = role.ledger ∧ world.ledgers name = { value := .after role.filter calls }
  | .record .. => False
  | _ => True

theorem Role.Turn.proper {β : Type} {role : Role n} {stage later : Stage}
    {action : Action (Parts τ) β} (turn : role.Turn action stage later) {world : World (Parts τ)}
    (placed : role.Placed stage world) {calls : List Invocation} (told : role.Told stage world calls) :
    role.Proper calls world action := by
  cases turn with
  | lock | empty | look | check | leave | unlock => trivial
  | enter => exact placed.hook rfl
  | ask call => exact ⟨rfl, placed.session rfl⟩
  | read => exact ⟨rfl, told.records rfl⟩
  | own stage own =>
      cases action <;> trivial

namespace System

variable {calls : Fin n → Call.{u} (Parts τ)} {owner : String → Option (Fin n)}
  {start : World (Parts τ)} {system next : System τ}

def role (calls : Fin n → Call.{u} (Parts τ)) (owner : String → Option (Fin n)) (index : Fin n) :
    Role n where
  index := index
  ledger := (calls index).batch.extractor.ledger
  filter := (calls index).batch.filter
  owner := owner

/-- Each call plays its role and is made outside every pass; nothing is traced at the start. -/
structure Fit (calls : Fin n → Call.{u} (Parts τ)) (owner : String → Option (Fin n))
    (start : World (Parts τ)) : Prop where
  plays : ∀ index, (calls index).batch.Plays (role calls owner index)
  outside : ∀ index, (calls index).thread.inPass = false
  orderly : start.Orderly
  free : start.session = none

/-- Where a call stands, beside the same call alone. -/
structure Follows (calls : Fin n → Call.{u} (Parts τ)) (owner : String → Option (Fin n))
    (start : World (Parts τ)) (system : System τ) (index : Fin n) (stage : Stage)
    (alone : World (Parts τ)) : Prop where
  runs : (role calls owner index).Runs stage (system.running index) fun later ended =>
    (later = .outside ∨ later = .closed) ∧ Untraced ended
  placed : (role calls owner index).Placed stage system.world
  mirrors : (role calls owner index).Mirrors stage system.world alone
  told : (role calls owner index).Told stage system.world (callsOf index system.trace)
  lonely : alone.Orderly
  kept : (role calls owner index).Placed stage alone
  free : stage.holds = false → alone.session = none
  finish : (system.running index).finish alone = (calls index).alone index start

def Clean (calls : Fin n → Call.{u} (Parts τ)) (owner : String → Option (Fin n))
    (trace : List (Fin n × Moment (Parts τ))) : Prop :=
  ∀ before index moment after, trace = before ++ (index, moment) :: after →
    (role calls owner index).Proper (callsOf index before) moment.world moment.action

theorem Clean.snoc {trace : List (Fin n × Moment (Parts τ))} (clean : Clean calls owner trace)
    {index : Fin n} {moment : Moment (Parts τ)}
    (proper : (role calls owner index).Proper (callsOf index trace) moment.world moment.action) :
    Clean calls owner (trace ++ [(index, moment)]) := by
  intro before other latest after split
  -- The moment asked about is the last one, or an earlier one of a trace that was clean already.
  rcases List.eq_nil_or_concat after with rfl | ⟨rest, final, rfl⟩
  · obtain ⟨rfl, same⟩ := List.append_inj' split rfl
    cases same
    exact proper
  · rw [List.concat_eq_append, ← List.cons_append, ← List.append_assoc] at split
    obtain ⟨earlier, -⟩ := List.append_inj' split rfl
    exact clean before other latest rest earlier

theorem callsOf_snoc (trace : List (Fin n × Moment (Parts τ))) (index : Fin n)
    (moment : Moment (Parts τ)) :
    callsOf index (trace ++ [(index, moment)]) = callsOf index trace ++ dispatched [moment] := by
  simp [callsOf, dispatched_append]

theorem callsOf_other {index other : Fin n} (differ : other ≠ index)
    (trace : List (Fin n × Moment (Parts τ))) (moment : Moment (Parts τ)) :
    callsOf other (trace ++ [(index, moment)]) = callsOf other trace := by
  simp [callsOf, differ.symm]

structure Sound (calls : Fin n → Call.{u} (Parts τ)) (owner : String → Option (Fin n))
    (start : World (Parts τ)) (stages : Fin n → Stage) (alones : Fin n → World (Parts τ))
    (system : System τ) : Prop where
  orderly : system.world.Orderly
  held : ∀ holder, system.world.session = some holder → ∃ index, (stages index).holds = true
  each : ∀ index, Follows calls owner start system index (stages index) (alones index)
  clean : Clean calls owner system.trace
  answers : ∀ index answer, system.answers index = some answer →
    (∃ task micros, (calls index).wait = .awaited task (some micros) ∧
      answer = .error (.failure (.timedOut micros))) ∨
    ∃ ended thread last, (calls index).alone index start = some (ended, thread, last) ∧
      Untraced ended ∧ answer = (calls index).answer ended

theorem Fit.sound (fit : Fit calls owner start) :
    Sound calls owner start (fun _ => .outside) (fun _ => start) (initial calls start) where
  orderly := fit.orderly
  held := by
    intro holder held
    rw [initial, fit.free] at held
    cases held
  each := by
    intro index
    have keeps := (fit.plays index).keeps_report
    rw [← fit.outside index] at keeps
    exact {
      runs := ⟨rfl, keeps⟩
      placed := ⟨fun unheld => Bool.noConfusion unheld, fun unheld => Bool.noConfusion unheld⟩
      mirrors := ⟨rfl, fun _ _ => rfl, fun _ => rfl, rfl⟩
      told := ⟨fun unread => Bool.noConfusion unread, fun _ => rfl⟩
      lonely := fit.orderly
      kept := ⟨fun unheld => Bool.noConfusion unheld, fun unheld => Bool.noConfusion unheld⟩
      free := fun _ => fit.free
      finish := rfl }
  clean := by
    intro before index moment after split
    simp [initial] at split
  answers := by
    intro index answer none
    cases none

variable {stages : Fin n → Stage} {alones : Fin n → World (Parts τ)}

section Turns

variable {index : Fin n} {stage later : Stage} {alone : World (Parts τ)} {β : Type}
  {action : Action (Parts τ) β} {t : Thread} {running : Running (Parts τ) (Except Exit Report)}
  (turn : (role calls owner index).Turn action stage later)
  (ready : action.ready system.world = true)

include turn ready

/-- A turn of a call takes the same call alone along. -/
theorem Follows.turned (follows : Follows calls owner start system index stage alone)
    (orderly : system.world.Orderly) (caller : t.caller = index.val)
    (runs : (role calls owner index).Fits t.inPass action (action.perform t system.world).1 →
      (role calls owner index).Runs later running fun last ended =>
        (last = .outside ∨ last = .closed) ∧ Untraced ended)
    (elsewhere : ∀ alone, action.ready alone = true →
      (role calls owner index).Alike action (action.perform t system.world).1
        (action.perform t alone).1 →
      (action.perform t system.world).2.1 = (action.perform t alone).2.1 →
      (system.running index).Step alone (some ⟨action, t, alone⟩) running
        (action.perform t alone).2.2) :
    Follows calls owner start
      (system.moved index running (action.perform t system.world).2.2
        (some ⟨action, t, system.world⟩))
      index later (action.perform t alone).2.2 := by
  -- Alone nobody else can hold the lock, and every answer is the same as in company.
  have ready' : action.ready alone = true := turn.ready follows.free
  obtain ⟨answers, threads⟩ := turn.alike (t := t) orderly follows.lonely follows.placed follows.kept
    follows.mirrors
  have step := elsewhere alone ready' answers threads
  have runs := runs (turn.fits orderly follows.placed rfl)
  have told := turn.told_later (t := t) orderly follows.placed follows.told
  rw [← callsOf_snoc] at told
  exact {
    runs := by simpa [moved] using runs
    placed := turn.placed_later orderly follows.placed caller ready
    mirrors := turn.mirrors_later orderly follows.lonely follows.placed follows.kept follows.mirrors
    told := told
    lonely := turn.orderly_later follows.lonely follows.kept caller ready'
    kept := turn.placed_later follows.lonely follows.kept caller ready'
    free := turn.free_later follows.free
    finish := by simpa [moved] using step.finish.symm.trans follows.finish }

theorem Follows.beside {other : Fin n} (differ : other ≠ index) {there : Stage}
    {elsewhere : World (Parts τ)} (placed : (role calls owner index).Placed stage system.world)
    (follows : Follows calls owner start system other there elsewhere) :
    Follows calls owner start
      (system.moved index running (action.perform t system.world).2.2
        (some ⟨action, t, system.world⟩))
      other there elsewhere where
  runs := by simpa [moved, differ] using follows.runs
  placed := turn.placed_elsewhere placed ready differ follows.placed
  mirrors := turn.mirrors_elsewhere placed ready differ follows.placed rfl follows.mirrors
  told := by
    have told := turn.told_elsewhere (t := t) placed ready differ follows.placed follows.told
    rw [← callsOf_other differ system.trace ⟨action, t, system.world⟩] at told
    exact told
  lonely := follows.lonely
  kept := follows.kept
  free := follows.free
  finish := by simpa [moved, differ] using follows.finish

end Turns

theorem Follows.quiet {index other : Fin n} {stage : Stage} {alone : World (Parts τ)}
    {running : Running (Parts τ) (Except Exit Report)}
    (follows : Follows calls owner start system other stage alone)
    (runs : other = index → (role calls owner other).Runs stage running fun last ended =>
      (last = .outside ∨ last = .closed) ∧ Untraced ended)
    (finish : other = index → running.finish alone = (calls other).alone other start) :
    Follows calls owner start (system.moved index running system.world none) other stage alone where
  runs := by
    by_cases same : other = index
    · simpa [moved, same] using same ▸ runs same
    · simpa [moved, same] using follows.runs
  placed := follows.placed
  mirrors := follows.mirrors
  told := by simpa [moved] using follows.told
  lonely := follows.lonely
  kept := follows.kept
  free := follows.free
  finish := by
    by_cases same : other = index
    · simpa [moved, same] using same ▸ finish same
    · simpa [moved, same] using follows.finish

theorem Step.sound (sound : Sound calls owner start stages alones system)
    (step : Step calls system next) :
    ∃ stages alones, Sound calls owner start stages alones next := by
  cases step with
  | @move index moment running world step =>
      have follows := sound.each index
      cases follows.runs.moves step with
      | quiet runs elsewhere =>
          refine ⟨stages, alones, sound.orderly, sound.held, fun other => ?_, ?_, sound.answers⟩
          · apply (sound.each other).quiet
            · rintro rfl
              exact runs
            · rintro rfl
              exact (elsewhere _).finish.symm.trans follows.finish
          · simpa [moved] using sound.clean
      | @turn _ action t later _ ready caller turn runs elsewhere =>
          let stages' other := if other = index then later else stages other
          let alones' other :=
            if other = index then (action.perform t (alones index)).2.2 else alones other
          refine ⟨stages', alones', ?_, ?_, fun other => ?_, ?_, sound.answers⟩
          · exact turn.orderly_later sound.orderly follows.placed caller ready
          · intro holder held
            -- Either the mover has the lock now, or whoever had it before the turn.
            rcases turn.session_later t system.world with holds | none | ⟨same, session⟩
            · exact ⟨index, by simpa [stages'] using holds⟩
            · rw [moved, none] at held
              cases held
            · obtain ⟨other, holds⟩ := sound.held holder (session.symm.trans held)
              refine ⟨other, ?_⟩
              by_cases own : other = index
              · subst own
                simpa [stages', same] using holds
              · simpa [stages', own] using holds
          · by_cases own : other = index
            · subst own
              simpa [stages', alones'] using
                follows.turned turn ready sound.orderly caller runs elsewhere
            · simpa [stages', alones', own] using
                (sound.each other).beside turn ready own follows.placed
          · exact sound.clean.snoc (turn.proper follows.placed follows.told)
  -- Answering a caller moves no call.
  | @deliver index thread ended waiting done =>
      obtain ⟨runs, placed, mirrors, told, lonely, kept, free, finish⟩ := sound.each index
      rw [done] at runs finish
      refine ⟨stages, alones, sound.orderly, sound.held, fun other => ?_, sound.clean, ?_⟩
      · exact { sound.each other with }
      · intro other answer given
        by_cases own : other = index
        · subst own
          simp only [answered, ↓reduceIte, Option.some.injEq] at given
          exact Or.inr ⟨ended, thread, alones other, finish.symm, runs.2.2, given.symm⟩
        · simp only [answered, own, ↓reduceIte] at given
          exact sound.answers other answer given
  | @expire index task micros waiting limited =>
      refine ⟨stages, alones, sound.orderly, sound.held, fun other => ?_, sound.clean, ?_⟩
      · exact { sound.each other with }
      · intro other answer given
        by_cases own : other = index
        · subst own
          simp only [answered, ↓reduceIte, Option.some.injEq] at given
          exact Or.inl ⟨task, micros, limited, given.symm⟩
        · simp only [answered, own, ↓reduceIte] at given
          exact sound.answers other answer given

theorem Reached.sound (fit : Fit calls owner start) (reached : Reached calls start system) :
    ∃ stages alones, Sound calls owner start stages alones system := by
  induction reached with
  | refl => exact ⟨_, _, fit.sound⟩
  | step _ step ih =>
      obtain ⟨stages, alones, sound⟩ := ih
      exact step.sound sound

theorem Follows.unheld {index : Fin n} {stage : Stage} {alone : World (Parts τ)}
    (follows : Follows calls owner start system index stage alone)
    (ended : (system.running index).Ended) : stage.holds = false := by
  obtain ⟨thread, value, done⟩ := ended
  have runs := follows.runs
  rw [done] at runs
  rcases runs.2.1 with rfl | rfl
  · rfl
  · rfl

/-- No call stands in the way of the others: each ends, and is answered, as if it were alone. -/
structure Serialized (calls : Fin n → Call.{u} (Parts τ)) (owner : String → Option (Fin n))
    (start : World (Parts τ)) (system : System τ) : Prop where
  untraced : ∀ index answer, system.answers index = some answer → Untraced answer
  answers : ∀ index answer, system.answers index = some answer →
    (∃ task micros, (calls index).wait = .awaited task (some micros) ∧
      answer = .error (.failure (.timedOut micros))) ∨
    ∃ ended thread last, (calls index).alone index start = some (ended, thread, last) ∧
      answer = (calls index).answer ended
  ends : ∀ index thread ended, system.running index = .on thread (.ret ended) →
    Untraced ended ∧ ∃ last, (calls index).alone index start = some (ended, thread, last)
  clean : Clean calls owner system.trace
  idle : (∀ index, (system.running index).Ended) →
    system.world.hook = { value := none } ∧ system.world.session = none
  moves : ∀ index, ¬ (system.running index).Ended → ∃ mover moment running world,
    (system.running mover).Step system.world moment running world

/-- In whatever order the calls take their steps, they are serialized. -/
theorem Reached.serialized (fit : Fit calls owner start) (reached : Reached calls start system) :
    Serialized calls owner start system := by
  obtain ⟨stages, alones, sound⟩ := reached.sound fit
  constructor
  case untraced =>
    intro index answer given
    rcases sound.answers index answer given with ⟨_, _, _, rfl⟩ | ⟨ended, _, _, _, untraced, rfl⟩
    · exact .failure FailureKind.noConfusion
    · exact (calls index).answer_untraced untraced
  case answers =>
    intro index answer given
    rcases sound.answers index answer given with expired | ⟨ended, thread, last, alone, -, same⟩
    · exact Or.inl expired
    · exact Or.inr ⟨ended, thread, last, alone, same⟩
  case ends =>
    intro index thread ended done
    obtain ⟨runs, _, _, _, _, _, _, finish⟩ := sound.each index
    rw [done] at runs finish
    exact ⟨runs.2.2, alones index, finish.symm⟩
  case clean => exact sound.clean
  case idle =>
    intro ended
    have free : system.world.session = none := by
      cases held : system.world.session with
      | none => rfl
      | some holder =>
          obtain ⟨index, holds⟩ := sound.held holder held
          rw [(sound.each index).unheld (ended index)] at holds
          cases holds
    exact ⟨sound.orderly.idle free, free⟩
  case moves =>
    intro index unended
    -- Whoever holds the lock can go on; if nobody does, the call itself can.
    cases held : system.world.session with
    | none =>
        obtain ⟨moment, running, world, step⟩ :=
          (sound.each index).runs.steps unended fun _ => held
        exact ⟨index, moment, running, world, step⟩
    | some holder =>
        obtain ⟨mover, holds⟩ := sound.held holder held
        have working : ¬ (system.running mover).Ended := by
          intro ended
          rw [(sound.each mover).unheld ended] at holds
          cases holds
        have within : (stages mover).holds = false → system.world.session = none := by
          intro unheld
          rw [holds] at unheld
          cases unheld
        obtain ⟨moment, running, world, step⟩ := (sound.each mover).runs.steps working within
        exact ⟨mover, moment, running, world, step⟩

def advance (calls : Fin n → Call.{u} (Parts τ)) (system : System τ) (index : Fin n) : System τ :=
  match (system.running index).advance system.world with
  | some (moment, running, world) => system.moved index running world moment
  | none =>
      match system.running index, system.answers index with
      | .on _ (.ret ended), none => system.answered index ((calls index).answer ended)
      | _, _ => system

theorem Reached.advance (reached : Reached calls start system) (index : Fin n) :
    Reached calls start (system.advance calls index) := by
  unfold System.advance
  split
  · rename_i advanced
    exact reached.step (.move index (Running.step_of_advance advanced))
  · split
    · exact reached.step (.deliver index ‹_› ‹_›)
    · exact reached

theorem Reached.run (reached : Reached calls start system) (turns : List (Fin n)) :
    Reached calls start (turns.foldl (System.advance calls) system) := by
  induction turns generalizing system with
  | nil => exact reached
  | cons index rest ih => exact ih (reached.advance index)

/-- Two extractions share a ledger, and the limit for the second runs out while it waits for the
lock; it goes on all the same, and the ledger holds its records in the end. -/
theorem serialized_replay :
    let start : World (Parts fun _ : Fin 2 => Unit) := .initial fun _ => ()
    let calls : Fin 2 → Call.{0} (Parts fun _ => Unit) := fun index =>
      { batch := .replay "global" [[⟨if index = 0 then "dense" else "batch_matmul", ⟨[]⟩⟩]] none
        wait := if index = 0 then .blocking else .awaited 7 (some 500) }
    ∃ system, Reached calls start system ∧ Serialized calls (fun _ => none) start system ∧
      (system.answers 0).map (fun answer => answer.toOption.map fun report =>
        report.tasks.map Task.name) = some (some ["dense"]) ∧
      (system.answers 1).map Except.isOk = some false ∧
      (system.world.ledgers "global").value.ordered.map Invocation.operator = ["batch_matmul"] := by
  intro start calls
  have fit : Fit calls (fun _ => none) start := {
    plays := fun index => Batch.replay_plays (role calls (fun _ => none) index) _
    outside := fun _ => rfl
    orderly := ⟨fun _ _ => rfl, fun _ => rfl, fun _ _ _ => rfl, fun _ => rfl⟩
    free := rfl }
  have begun : Reached calls start (initial calls start) := .refl
  have waiting := begun.run [0, 1, 0, 1, 0, 0]
  have unanswered : ((List.foldl (advance calls) (initial calls start) [0, 1, 0, 1, 0, 0]).answers
      1).isNone = true := by decide +kernel
  have limited : (calls 1).wait = .awaited 7 (some 500) := rfl
  have expired := waiting.step (.expire 1 (Option.isNone_iff_eq_none.mp unanswered) limited)
  have reached := expired.run (List.replicate 60 [0, 1]).flatten
  refine ⟨_, reached, Reached.serialized fit reached, ?_, ?_, ?_⟩
  · decide +kernel
  · decide +kernel
  · decide +kernel

end System

end TuningTasks
