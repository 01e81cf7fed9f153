import TuningTasks.Proofs.Execution

/-!
Code whose calls to others are left open. An outline asks for answers that it does not have; given
replies to its requests it is code again (`answered`), and a run of that code then makes calls, which
`askings` lists in order. Nothing of the others is run but through the requests of an outline.
-/
namespace TuningTasks

universe w
variable {σ α β : Type} {ρ : Type w} {Reply : ρ → Type}

/-- Code with requests left open; `Reply` gives the type of the answer to each. -/
inductive Outline (σ : Type) {ρ : Type w} (Reply : ρ → Type) : Type → Type (max 1 w)
  | ret {α : Type} (value : α) : Outline σ Reply α
  | act {α β : Type} (action : Action σ β) (next : β → Outline σ Reply α) : Outline σ Reply α
  | fork {α β : Type} (thread : Thread) (body : Outline σ Reply β)
      (next : β → Outline σ Reply α) : Outline σ Reply α
  | ask {α : Type} (request : ρ) (next : Except Exit (Reply request) → Outline σ Reply α) :
      Outline σ Reply α

/-- A request with the thread and the world that it finds, and what comes of it if it ever ends. -/
structure Asking (σ : Type) {ρ : Type w} (Reply : ρ → Type) where
  request : ρ
  thread : Thread
  world : World σ
  ended : Option (Except Exit (Reply request) × Thread × World σ)

def Asking.outcome (asking : Asking σ Reply) : Option (Except Exit Unit) :=
  asking.ended.map fun ended => ended.1.map fun _ => ()

def Asking.after (asking : Asking σ Reply) : Option (World σ) :=
  asking.ended.map fun ended => ended.2.2

namespace Outline

def bind : Outline σ Reply α → (α → Outline σ Reply β) → Outline σ Reply β
  | ret value, f => f value
  | act action next, f => act action fun answer => (next answer).bind f
  | fork thread body next, f => fork thread body fun answer => (next answer).bind f
  | ask request next, f => ask request fun answer => (next answer).bind f

instance : Monad (Outline σ Reply) where
  pure := ret
  bind := bind

def own : {α : Type} → Code σ α → Outline σ Reply α
  | _, .ret value => ret value
  | _, .act action next => act action fun answer => own (next answer)
  | _, .fork thread body next => fork thread (own body) fun answer => own (next answer)

variable (reply : (request : ρ) → Routine σ (Reply request))

def answered : {α : Type} → Outline σ Reply α → Code σ α
  | _, ret value => .ret value
  | _, act action next => .act action fun answer => (next answer).answered
  | _, fork thread body next => .fork thread body.answered fun answer => (next answer).answered
  | _, ask request next => (reply request).run.bind fun answer => (next answer).answered

/-- The requests made in a run, in order; a request that never ends is the last. -/
def askings : {α : Type} → Outline σ Reply α → Thread → World σ → List (Asking σ Reply)
  | _, ret _, _, _ => []
  | _, act action next, t, world =>
      if action.ready world then
        let (answer, thread, after) := action.perform t world
        (next answer).askings thread after
      else []
  | _, fork thread body next, t, world =>
      body.askings { thread with caller := t.caller } world ++
        match (body.answered reply).exec { thread with caller := t.caller } world with
        | some (answer, _, after) => (next answer).askings t after
        | none => []
  | _, ask request next, t, world =>
      ⟨request, t, world, (reply request).run.exec t world⟩ ::
        match (reply request).run.exec t world with
        | some (answer, thread, after) => (next answer).askings thread after
        | none => []

theorem answered_bind (outline : Outline σ Reply α) (f : α → Outline σ Reply β) :
    (outline.bind f).answered reply =
      (outline.answered reply).bind fun value => (f value).answered reply := by
  induction outline with
  | ret value => rfl
  | act action next ih => simp [bind, answered, Code.bind, ih]
  | fork thread body next _ ih => simp [bind, answered, Code.bind, ih]
  | ask request next ih => simp [bind, answered, Code.bind_assoc, ih]

theorem answered_own (code : Code σ α) : (own code).answered reply = code := by
  induction code with
  | ret value => rfl
  | act action next ih => simp [own, answered, ih]
  | fork thread body next inner ih => simp [own, answered, inner, ih]

theorem askings_bind (outline : Outline σ Reply α) (f : α → Outline σ Reply β) (t : Thread)
    (world : World σ) :
    (outline.bind f).askings reply t world =
      outline.askings reply t world ++
        ((outline.answered reply).exec t world).elim [] fun ended =>
          (f ended.1).askings reply ended.2.1 ended.2.2 := by
  induction outline generalizing t world with
  | ret value => simp [bind, askings, answered, Code.exec]
  | act action next ih =>
      simp only [bind, askings, answered, Code.exec]
      split
      · simpa using ih _ f _ _
      · simp
  | fork thread body next _ ih =>
      simp only [bind, askings, answered, Code.exec]
      cases (body.answered reply).exec { thread with caller := t.caller } world with
      | none => simp
      | some ended => simp [ih]
  | ask request next ih =>
      simp only [bind, askings, answered, Code.exec_bind]
      cases (reply request).run.exec t world with
      | none => simp
      | some ended => simp [ih]

/-- What a request finds is what its reply starts from. -/
theorem askings_ended (outline : Outline σ Reply α) (t : Thread) (world : World σ) :
    ∀ asking ∈ outline.askings reply t world,
      asking.ended = (reply asking.request).run.exec asking.thread asking.world := by
  induction outline generalizing t world with
  | ret value => exact fun _ none => nomatch none
  | act action next ih =>
      rw [askings]
      split
      · exact ih _ _ _
      · exact fun _ none => nomatch none
  | fork thread body next inner ih =>
      intro asking member
      rw [askings] at member
      rcases List.mem_append.mp member with member | member
      · exact inner _ _ asking member
      · split at member
        · exact ih _ _ _ asking member
        · cases member
  | ask request next ih =>
      intro asking member
      rw [askings] at member
      rcases List.mem_cons.mp member with rfl | member
      · rfl
      · split at member
        · exact ih _ _ _ asking member
        · cases member

theorem askings_fork_ret (thread : Thread) (body : Outline σ Reply α) (f : α → β) (t : Thread)
    (world : World σ) :
    (fork thread body fun answer => ret (f answer)).askings reply t world =
      body.askings reply { thread with caller := t.caller } world := by
  simp only [askings]
  split
  · exact List.append_nil _
  · exact List.append_nil _

theorem exec_fork_ret (thread : Thread) (body : Outline σ Reply α) (f : α → β) (t : Thread)
    (world : World σ) :
    ((fork thread body fun answer => ret (f answer)).answered reply).exec t world =
      ((body.answered reply).exec { thread with caller := t.caller } world).map fun ended =>
        (f ended.1, t, ended.2.2) := by
  simp only [answered, Code.exec]
  cases (body.answered reply).exec { thread with caller := t.caller } world with
  | none => rfl
  | some ended => rfl

theorem askings_own (code : Code σ α) (t : Thread) (world : World σ) :
    (own code : Outline σ Reply α).askings reply t world = [] := by
  induction code generalizing t world with
  | ret value => rfl
  | act action next ih =>
      simp only [own, askings, ih]
      split <;> rfl
  | fork thread body next inner ih =>
      simp only [own, askings, inner, List.nil_append]
      split
      · exact ih _ _ _
      · rfl

end Outline

abbrev Draft (σ : Type) {ρ : Type w} (Reply : ρ → Type) := ExceptT Exit (Outline σ Reply)

namespace Draft

def ask (request : ρ) : Draft σ Reply (Reply request) := ExceptT.mk (.ask request .ret)

def own (routine : Routine σ α) : Draft σ Reply α := ExceptT.mk (.own routine.run)

def lift (outline : Outline σ Reply α) : Draft σ Reply α := ExceptT.lift outline

def catchFailure (draft : Draft σ Reply α) : Draft σ Reply (Except Failure α) :=
  ExceptT.mk do
    match ← draft.run with
    | .ok value => return .ok (.ok value)
    | .error (.failure failure) => return .ok (.error failure)
    | .error (.panic panic) => return .error (.panic panic)

/-- Takes something for the length of the body and gives it back on every way out. -/
def around (begin : Routine σ β) (finish : β → Routine σ Unit) (body : Draft σ Reply α) :
    Draft σ Reply α := do
  let found ← own begin
  let ended ← lift body.run
  own (finish found)
  ExceptT.mk (pure ended)

variable (reply : (request : ρ) → Routine σ (Reply request))

def routine (draft : Draft σ Reply α) : Routine σ α := ExceptT.mk (draft.run.answered reply)

def askings (draft : Draft σ Reply α) (t : Thread) (world : World σ) : List (Asking σ Reply) :=
  draft.run.askings reply t world

theorem routine_bind (draft : Draft σ Reply α) (f : α → Draft σ Reply β) :
    (draft >>= f).routine reply = draft.routine reply >>= fun value => (f value).routine reply := by
  change ExceptT.mk ((draft.run.bind (ExceptT.bindCont f)).answered reply) = _
  rw [Outline.answered_bind]
  change _ = ExceptT.mk ((draft.run.answered reply).bind
    (ExceptT.bindCont fun value => (f value).routine reply))
  congr 2
  funext ended
  cases ended with
  | ok value => rfl
  | error exit => rfl

theorem routine_ask (request : ρ) :
    (ask request : Draft σ Reply (Reply request)).routine reply = reply request :=
  Code.bind_ret (reply request).run

theorem routine_own (body : Routine σ α) : (own body : Draft σ Reply α).routine reply = body :=
  Outline.answered_own reply body.run

theorem routine_lift (outline : Outline σ Reply α) :
    (lift outline).routine reply = ExceptT.lift (outline.answered reply) :=
  Outline.answered_bind reply outline _

theorem routine_catchFailure (draft : Draft σ Reply α) :
    (catchFailure draft).routine reply = Routine.catchFailure (draft.routine reply) := by
  change ExceptT.mk ((draft.run.bind _).answered reply) = _
  rw [Outline.answered_bind]
  change _ = ExceptT.mk ((draft.run.answered reply).bind _)
  congr 2
  funext ended
  rcases ended with (failure | panic) | value
  all_goals rfl

theorem routine_around (begin : Routine σ β) (finish : β → Routine σ Unit) (body : Draft σ Reply α) :
    (around begin finish body).routine reply = (do
      let found ← begin
      let ended ← ExceptT.lift (body.routine reply).run
      finish found
      ExceptT.mk (pure ended)) := by
  simp only [around, routine_bind, routine_own, routine_lift]
  rfl

def onwardAskings (rest : α → Draft σ Reply β) :
    Except Exit α × Thread × World σ → List (Asking σ Reply)
  | (.ok value, t, world) => (rest value).askings reply t world
  | (.error _, _, _) => []

theorem askings_bind (draft : Draft σ Reply α) (rest : α → Draft σ Reply β) (t : Thread)
    (world : World σ) :
    (draft >>= rest).askings reply t world =
      draft.askings reply t world ++
        ((draft.routine reply).run.exec t world).elim [] (onwardAskings reply rest) := by
  change (draft.run.bind (ExceptT.bindCont rest)).askings reply t world = _
  rw [Outline.askings_bind]
  congr 2
  funext ⟨ended, thread, last⟩
  cases ended <;> rfl

theorem askings_ask (request : ρ) (t : Thread) (world : World σ) :
    (ask request : Draft σ Reply (Reply request)).askings reply t world =
      [⟨request, t, world, (reply request).run.exec t world⟩] := by
  change (Outline.ask request .ret).askings reply t world = _
  rw [Outline.askings]
  cases (reply request).run.exec t world with
  | none => rfl
  | some ended => rfl

theorem askings_own (body : Routine σ α) (t : Thread) (world : World σ) :
    (own body : Draft σ Reply α).askings reply t world = [] :=
  Outline.askings_own reply body.run t world

theorem askings_bind_own (draft : Draft σ Reply α) (rest : α → Routine σ β) (t : Thread)
    (world : World σ) :
    (draft >>= fun value => own (rest value)).askings reply t world =
      draft.askings reply t world := by
  rw [askings_bind]
  rcases (draft.routine reply).run.exec t world with _ | ⟨exit | value, thread, last⟩
  · exact List.append_nil _
  · exact List.append_nil _
  · simp only [Option.elim_some, onwardAskings, askings_own, List.append_nil]

theorem askings_lift (outline : Outline σ Reply α) (t : Thread) (world : World σ) :
    (lift outline).askings reply t world = outline.askings reply t world := by
  change (outline.bind _).askings reply t world = _
  rw [Outline.askings_bind]
  cases (outline.answered reply).exec t world with
  | none => simp
  | some ended => exact List.append_nil _

theorem askings_catchFailure (draft : Draft σ Reply α) (t : Thread) (world : World σ) :
    (catchFailure draft).askings reply t world = draft.askings reply t world := by
  change (draft.run.bind _).askings reply t world = _
  rw [Outline.askings_bind]
  rcases (draft.run.answered reply).exec t world with _ | ⟨(failure | panic) | value, thread, last⟩
  · simp [askings]
  all_goals exact List.append_nil _

theorem askings_around (begin : Routine σ β) (finish : β → Routine σ Unit) (body : Draft σ Reply α)
    (t : Thread) (world : World σ) :
    (around begin finish body).askings reply t world =
      (begin.run.exec t world).elim [] fun
        | (.ok _, thread, after) => body.askings reply thread after
        | (.error _, _, _) => [] := by
  rw [around, askings_bind, askings_own, routine_own, List.nil_append]
  rcases begin.run.exec t world with _ | ⟨exit | found, thread, after⟩
  · rfl
  · rfl
  · simp only [Option.elim_some, onwardAskings]
    rw [askings_bind, askings_lift]
    rcases ((lift body.run).routine reply).run.exec thread after with
      _ | ⟨exit | ended, thread', last⟩
    · exact List.append_nil _
    · exact List.append_nil _
    · simp only [Option.elim_some, onwardAskings]
      rw [askings_bind, askings_own, List.nil_append, routine_own]
      rcases (finish found).run.exec thread' last with _ | ⟨exit | done, thread'', last'⟩
      all_goals exact List.append_nil _

def Asks (kind : ρ → Bool) (draft : Draft σ Reply α) : Prop :=
  ∀ t world, ∀ asking ∈ draft.askings reply t world, kind asking.request = true

section Asks

variable {reply} {kind : ρ → Bool}

theorem asks_pure (value : α) : (pure value : Draft σ Reply α).Asks reply kind :=
  fun _ _ _ none => nomatch none

theorem asks_own (body : Routine σ α) : (own body : Draft σ Reply α).Asks reply kind := by
  intro t world asking member
  rw [askings_own] at member
  cases member

theorem asks_ask {request : ρ} (here : kind request = true) :
    (ask request : Draft σ Reply (Reply request)).Asks reply kind := by
  intro t world asking member
  rw [askings_ask] at member
  rw [List.mem_singleton.mp member]
  exact here

theorem Asks.onward {rest : α → Draft σ Reply β} (later : ∀ value, (rest value).Asks reply kind)
    (ended : Option (Except Exit α × Thread × World σ)) :
    ∀ asking ∈ ended.elim [] (onwardAskings reply rest), kind asking.request = true := by
  rcases ended with _ | ⟨exit | value, thread, last⟩
  · exact fun _ none => nomatch none
  · exact fun _ none => nomatch none
  · exact later value thread last

theorem Asks.bind {draft : Draft σ Reply α} {rest : α → Draft σ Reply β} (first : draft.Asks reply kind)
    (later : ∀ value, (rest value).Asks reply kind) : (draft >>= rest).Asks reply kind := by
  intro t world asking member
  rw [askings_bind] at member
  rcases List.mem_append.mp member with before | after
  · exact first t world asking before
  · exact Asks.onward later _ asking after

theorem asks_lift {outline : Outline σ Reply α}
    (asks : ∀ t world, ∀ asking ∈ outline.askings reply t world, kind asking.request = true) :
    (lift outline).Asks reply kind := by
  intro t world
  rw [askings_lift]
  exact asks t world

theorem Asks.catchFailure {draft : Draft σ Reply α} (asks : draft.Asks reply kind) :
    draft.catchFailure.Asks reply kind := by
  intro t world
  rw [askings_catchFailure]
  exact asks t world

end Asks

end Draft

end TuningTasks
