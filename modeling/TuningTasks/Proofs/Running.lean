import TuningTasks.Proofs.Execution

/-!
Code in the middle of a run, one action at a time. Other threads may change the world between two
steps; if none does, the steps lead to where `exec` leads (`Step.finish`).
-/
namespace TuningTasks

variable {σ α β : Type}

/-- Code that is running, or that waits for the end of what runs on a thread of its own. -/
inductive Running (σ : Type) : Type → Type 1
  | on {α : Type} (thread : Thread) (code : Code σ α) : Running σ α
  | joining {α β : Type} (thread : Thread) (body : Running σ β) (next : β → Code σ α) : Running σ α

namespace Running

inductive Step :
    {α : Type} → Running σ α → World σ → Option (Moment σ) → Running σ α → World σ → Prop
  | act {α β : Type} {action : Action σ β} {next : β → Code σ α} {t : Thread} {world : World σ}
      (ready : action.ready world = true) :
      Step (on t (.act action next)) world (some ⟨action, t, world⟩)
        (on (action.perform t world).2.1 (next (action.perform t world).1))
        (action.perform t world).2.2
  | fork {α β : Type} {thread : Thread} {body : Code σ β} {next : β → Code σ α} {t : Thread}
      {world : World σ} :
      Step (on t (.fork thread body next)) world none
        (joining t (on { thread with caller := t.caller } body) next) world
  | inside {α β : Type} {body body' : Running σ β} {next : β → Code σ α} {t : Thread}
      {world world' : World σ} {moment : Option (Moment σ)}
      (step : Step body world moment body' world') :
      Step (joining t body next) world moment (joining t body' next) world'
  | join {α β : Type} {thread : Thread} {value : β} {next : β → Code σ α} {t : Thread}
      {world : World σ} :
      Step (joining t (on thread (.ret value)) next) world none (on t (next value)) world

def advance : {α : Type} → Running σ α → World σ →
    Option (Option (Moment σ) × Running σ α × World σ)
  | _, on _ (.ret _), _ => none
  | _, on t (.act action next), world =>
      if action.ready world then
        let performed := action.perform t world
        some (some ⟨action, t, world⟩, on performed.2.1 (next performed.1), performed.2.2)
      else none
  | _, on t (.fork thread body next), world =>
      some (none, joining t (on { thread with caller := t.caller } body) next, world)
  | _, joining t (on _ (.ret value)) next, world => some (none, on t (next value), world)
  | _, joining t body next, world =>
      (body.advance world).map fun (moment, body, after) => (moment, joining t body next, after)

theorem step_of_advance {running next : Running σ α} {world after : World σ}
    {moment : Option (Moment σ)} (advanced : running.advance world = some (moment, next, after)) :
    running.Step world moment next after := by
  fun_induction advance running world generalizing moment after with
  | case1 | case3 => cases advanced
  | case2 =>
      cases advanced
      exact .act ‹_›
  | case4 =>
      cases advanced
      exact .fork
  | case5 =>
      cases advanced
      exact .join
  | case6 _ _ t body rest world unended ih =>
      -- A body that has not ended is the one that moves.
      obtain ⟨⟨moment, body', after⟩, inner, same⟩ := Option.map_eq_some_iff.mp advanced
      cases same
      exact .inside (ih inner)

/-- How the rest of the run ends while no other thread moves. -/
def finish : {α : Type} → Running σ α → World σ → Option (α × Thread × World σ)
  | _, on thread code, world => code.exec thread world
  | _, joining thread body next, world =>
      (body.finish world).bind fun ended => (next ended.1).exec thread ended.2.2

theorem Step.finish {running later : Running σ α} {world after : World σ}
    {moment : Option (Moment σ)} (step : Step running world moment later after) :
    running.finish world = later.finish after := by
  induction step with
  | act ready => simp only [Running.finish, Code.exec, ready, ↓reduceIte]
  | @fork _ _ thread body next t world =>
      simp only [Running.finish, Code.exec]
      cases body.exec { thread with caller := t.caller } world with
      | none => rfl
      | some ended => rfl
  | inside _ ih => simp only [Running.finish, ih]
  | join => rfl

def Ended (running : Running σ α) : Prop := ∃ thread value, running = on thread (.ret value)

end Running

namespace Action

theorem perform_caller (action : Action σ β) (t : Thread) (world : World σ) :
    (action.perform t world).2.1.caller = t.caller := by
  cases action <;> rfl

theorem perform_inPass (action : Action σ β) (t : Thread) (world : World σ) :
    (action.perform t world).2.1.inPass = t.inPass := by
  cases action <;> rfl

end Action

end TuningTasks
