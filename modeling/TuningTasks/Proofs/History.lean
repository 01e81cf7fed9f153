import TuningTasks.Process.Routine

/-!
Histories of runs. The history of a run lists the actions it takes, in order and on whatever thread,
each with the thread and the world that it found. A run leads through its history without a gap, so
what every action of a history keeps, the run keeps.
-/
namespace TuningTasks

/-- An action with the thread and the world it finds. -/
structure Moment (σ : Type) where
  {β : Type}
  action : Action σ β
  thread : Thread
  world : World σ

namespace Moment

variable {σ : Type}

def after (moment : Moment σ) : World σ :=
  (moment.action.perform moment.thread moment.world).2.2

end Moment

variable {σ α β : Type}

def Action.asked? : Action σ β → Option (Hook σ × Invocation)
  | .consult hook invocation => some (hook, invocation)
  | _ => none

def dispatched (history : List (Moment σ)) : List Invocation :=
  history.filterMap fun moment => moment.action.asked?.map Prod.snd

theorem dispatched_append (left right : List (Moment σ)) :
    dispatched (left ++ right) = dispatched left ++ dispatched right :=
  List.filterMap_append

/-- The history leads from the first world to the last. -/
inductive Follows : World σ → List (Moment σ) → World σ → Prop
  | nil (world : World σ) : Follows world [] world
  | cons (moment : Moment σ) {rest : List (Moment σ)} {last : World σ} :
      Follows moment.after rest last → Follows moment.world (moment :: rest) last

namespace Follows

theorem append {first middle last : World σ} {left right : List (Moment σ)}
    (before : Follows first left middle) (later : Follows middle right last) :
    Follows first (left ++ right) last := by
  induction before with
  | nil => exact later
  | cons moment _ ih => exact .cons moment (ih later)

theorem keeps {kept : World σ → Prop} {first last : World σ} {history : List (Moment σ)}
    (follows : Follows first history last)
    (each : ∀ moment ∈ history, kept moment.world → kept moment.after)
    (holds : kept first) : kept last := by
  induction follows with
  | nil => exact holds
  | cons moment _ ih =>
      have next := each moment List.mem_cons_self holds
      exact ih (fun other member => each other (List.mem_cons_of_mem moment member)) next

end Follows

namespace Code

/-- The actions taken when the code is run while no other thread moves. -/
def history : {α : Type} → Code σ α → Thread → World σ → List (Moment σ)
  | _, ret _, _, _ => []
  | _, act action next, t, world =>
      if action.ready world then
        let (answer, thread, after) := action.perform t world
        ⟨action, t, world⟩ :: (next answer).history thread after
      else []
  | _, fork thread body next, t, world =>
      body.history { thread with caller := t.caller } world ++
        match body.exec { thread with caller := t.caller } world with
        | some (answer, _, after) => (next answer).history t after
        | none => []

theorem follows_history {code : Code σ α} {t thread : Thread} {world last : World σ} {answer : α}
    (ended : code.exec t world = some (answer, thread, last)) :
    Follows world (code.history t world) last := by
  induction code generalizing t world thread last with
  | ret value =>
      simp only [exec, Option.some.injEq, Prod.mk.injEq] at ended
      obtain ⟨-, -, rfl⟩ := ended
      exact .nil world
  | act action next ih =>
      simp only [exec] at ended
      split at ended
      · rename_i ready
        simp only [history, ready, ↓reduceIte]
        exact .cons ⟨action, t, world⟩ (ih _ ended)
      · cases ended
  | fork thread' body next inner ih =>
      simp only [exec] at ended
      split at ended
      · rename_i value final after joined
        simp only [history, joined]
        exact (inner joined).append (ih value ended)
      · cases ended

theorem follows_moment {code : Code σ α} {t : Thread} {world : World σ} :
    ∀ moment ∈ code.history t world, ∃ before, Follows world before moment.world := by
  induction code generalizing t world with
  | ret value => exact fun _ none => nomatch none
  | act action next ih =>
      intro moment member
      simp only [history] at member
      split at member
      · rcases List.mem_cons.mp member with rfl | member
        · exact ⟨[], .nil world⟩
        · obtain ⟨before, follows⟩ := ih _ moment member
          exact ⟨_, .cons ⟨action, t, world⟩ follows⟩
      · cases member
  | fork thread body next inner ih =>
      intro moment member
      simp only [history] at member
      rcases List.mem_append.mp member with member | member
      · exact inner moment member
      · split at member
        · rename_i joined
          obtain ⟨before, follows⟩ := ih _ moment member
          exact ⟨_, (follows_history joined).append follows⟩
        · cases member

theorem history_bind (code : Code σ α) (f : α → Code σ β) (t : Thread) (world : World σ) :
    (code.bind f).history t world =
      code.history t world ++ (code.exec t world).elim [] fun ended =>
        (f ended.1).history ended.2.1 ended.2.2 := by
  induction code generalizing t world with
  | ret value => simp [bind, history, exec]
  | act action next ih =>
      simp only [bind, history, exec]
      split
      · simpa using ih _ f _ _
      · simp
  | fork thread body next _ ih =>
      simp only [bind, history, exec]
      cases body.exec { thread with caller := t.caller } world with
      | none => simp
      | some ended => simp [ih]

end Code

end TuningTasks
