import TuningTasks.Proofs.Execution

/-!
Runs amid other threads, which may do anything before each action of a run and after the last one. A
run without them is one of these (`Code.RunsAmid.of_exec`), each runs through a history that all the
threads make together (`Code.RunsAmid.follows`), and a value comes out of a routine as it is built.
-/
namespace TuningTasks

variable {σ α β : Type}

namespace Code

/-- The code may end so on its thread while other threads act in between. -/
inductive RunsAmid {σ : Type} :
    {α : Type} → Code σ α → Thread → World σ → α → Thread → World σ → Prop
  | ret {α : Type} {value : α} {t : Thread} {world last : World σ} {others : List (Moment σ)}
      (meanwhile : Follows world others last) : RunsAmid (.ret value) t world value t last
  | act {α β : Type} {action : Action σ β} {next : β → Code σ α} {t thread : Thread}
      {world between last : World σ} {value : α} {others : List (Moment σ)}
      (meanwhile : Follows world others between) (ready : action.ready between = true)
      (later : RunsAmid (next (action.perform t between).1) (action.perform t between).2.1
        (action.perform t between).2.2 value thread last) :
      RunsAmid (.act action next) t world value thread last
  | fork {α β : Type} {own inner : Thread} {body : Code σ β} {next : β → Code σ α}
      {t thread : Thread} {world between last : World σ} {answer : β} {value : α}
      (inside : RunsAmid body { own with caller := t.caller } world answer inner between)
      (later : RunsAmid (next answer) t between value thread last) :
      RunsAmid (.fork own body next) t world value thread last

namespace RunsAmid

theorem of_exec {code : Code σ α} {t thread : Thread} {world last : World σ} {value : α}
    (ended : code.exec t world = some (value, thread, last)) :
    code.RunsAmid t world value thread last := by
  induction code generalizing t thread world last with
  | ret answer =>
      cases ended
      exact .ret (.nil world)
  | act action next ih =>
      simp only [exec] at ended
      split at ended
      · exact .act (.nil world) ‹_› (ih _ ended)
      · cases ended
  | fork own body next inner ih =>
      simp only [exec] at ended
      split at ended
      · exact .fork (inner ‹_›) (ih _ ended)
      · cases ended

theorem of_bind {code : Code σ α} {f : α → Code σ β} {t thread : Thread} {world last : World σ}
    {value : β} (runs : (code.bind f).RunsAmid t world value thread last) :
    ∃ answer middle between, code.RunsAmid t world answer middle between ∧
      (f answer).RunsAmid middle between value thread last := by
  induction code generalizing t world with
  | ret answer => exact ⟨answer, t, world, .ret (.nil world), runs⟩
  | act action next ih =>
      cases runs with
      | act meanwhile ready later =>
          obtain ⟨answer, middle, between, first, rest⟩ := ih _ later
          exact ⟨answer, middle, between, .act meanwhile ready first, rest⟩
  | fork own body next _ ih =>
      cases runs with
      | fork inside later =>
          obtain ⟨answer, middle, between, first, rest⟩ := ih _ later
          exact ⟨answer, middle, between, .fork inside first, rest⟩

theorem follows {code : Code σ α} {t thread : Thread} {world last : World σ} {value : α}
    (runs : code.RunsAmid t world value thread last) : ∃ history, Follows world history last := by
  induction runs with
  | ret meanwhile => exact ⟨_, meanwhile⟩
  | @act _ _ action _ t _ _ between _ _ _ meanwhile _ _ ih =>
      obtain ⟨history, later⟩ := ih
      exact ⟨_, meanwhile.append (.cons ⟨action, t, between⟩ later)⟩
  | fork _ _ inner ih =>
      obtain ⟨inside, first⟩ := inner
      obtain ⟨history, later⟩ := ih
      exact ⟨inside ++ history, first.append later⟩

/-- The answer of an action is what it answers in some world, which other threads may change then. -/
theorem of_perform {action : Action σ α} {t thread : Thread} {world last : World σ} {answer : α}
    (runs : (Code.perform action).RunsAmid t world answer thread last) :
    ∃ between before after, Follows world before between ∧ answer = (action.perform t between).1 ∧
      Follows (action.perform t between).2.2 after last := by
  cases runs with
  | @act _ _ _ _ _ _ _ between _ _ before meanwhile _ later =>
      cases later with
      | @ret _ _ _ _ _ after following => exact ⟨between, before, after, meanwhile, rfl, following⟩

end RunsAmid

end Code

open Code

namespace Routine

variable {t thread : Thread} {world last : World σ}

theorem amid_bind_ok {routine : Routine σ α} {rest : α → Routine σ β} {value : β}
    (runs : (routine >>= rest).run.RunsAmid t world (.ok value) thread last) :
    ∃ first middle between, routine.run.RunsAmid t world (.ok first) middle between ∧
      (rest first).run.RunsAmid middle between (.ok value) thread last := by
  have split : (routine >>= rest).run = routine.run.bind (ExceptT.bindCont rest) := rfl
  rw [split] at runs
  obtain ⟨ended, middle, between, begins, later⟩ := runs.of_bind
  cases ended with
  | error exit => nomatch later
  | ok first => exact ⟨first, middle, between, begins, later⟩

theorem amid_pure {value answer : α}
    (runs : (pure value : Routine σ α).run.RunsAmid t world (.ok answer) thread last) :
    answer = value := by
  cases runs
  rfl

theorem amid_fail {failure : Failure} {value : α} :
    ¬ (fail failure : Routine σ α).run.RunsAmid t world (.ok value) thread last := nofun

theorem amid_failing {action : Action σ (Except Failure α)} {value : α}
    (runs : (failing action).run.RunsAmid t world (.ok value) thread last) :
    ∃ between before after, Follows world before between ∧ (action.perform t between).1 = .ok value ∧
      Follows (action.perform t between).2.2 after last := by
  have split : (failing action).run =
      (Code.perform action).bind fun answer => .ret (answer.mapError .failure) := rfl
  rw [split] at runs
  obtain ⟨answer, middle, done, acts, ends⟩ := runs.of_bind
  obtain ⟨between, before, after, meanwhile, told, following⟩ := acts.of_perform
  cases answer with
  | error failure => nomatch ends
  | ok found =>
      cases ends with
      | ret further => exact ⟨between, before, _, meanwhile, told.symm, following.append further⟩

theorem amid_lift {code : Code σ α} {value : α}
    (runs : (ExceptT.lift code : Routine σ α).run.RunsAmid t world (.ok value) thread last) :
    ∃ middle between after, code.RunsAmid t world value middle between ∧ Follows between after last := by
  have split : (ExceptT.lift code : Routine σ α).run = code.bind fun answer => .ret (.ok answer) := rfl
  rw [split] at runs
  obtain ⟨answer, middle, between, inside, ends⟩ := runs.of_bind
  cases ends with
  | ret further => exact ⟨_, _, _, inside, further⟩

theorem amid_exclusively {body : Routine σ α} {value : α}
    (runs : (exclusively body).run.RunsAmid t world (.ok value) thread last) :
    ∃ t world thread last, body.run.RunsAmid t world (.ok value) thread last := by
  obtain ⟨_, _, _, -, runs⟩ := amid_bind_ok runs
  obtain ⟨ended, _, _, inside, runs⟩ := amid_bind_ok runs
  obtain ⟨_, _, _, inside, -⟩ := amid_lift inside
  obtain ⟨_, _, _, -, runs⟩ := amid_bind_ok runs
  cases runs
  exact ⟨_, _, _, _, inside⟩

end Routine

end TuningTasks
