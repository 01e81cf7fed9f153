import TuningTasks.Proofs.Requests

/-!
What a run leaves alone between its requests. Where an outline's own actions keep some view of the
world, each request finds the view as the answer before it left it, and only the replies can have
changed it in the end.
-/
namespace TuningTasks

universe u v w
variable {σ α β ν : Type} {ρ : Type w} {Reply : ρ → Type} {view : World σ → ν}

/-- From one request to the next, and to the end if there is one, the view does not change. -/
inductive Linked (view : World σ → ν) : ν → List (Asking σ Reply) → Option ν → Prop
  | ended (found : ν) : Linked view found [] (some found)
  | waiting (found : ν) : Linked view found [] none
  | unanswered {found : ν} {asking : Asking σ Reply} (finds : view asking.world = found)
      (never : asking.after = none) : Linked view found [asking] none
  | answered {found : ν} {asking : Asking σ Reply} {after : World σ} {rest : List (Asking σ Reply)}
      {last : Option ν} (finds : view asking.world = found) (answered : asking.after = some after)
      (later : Linked view (view after) rest last) : Linked view found (asking :: rest) last

namespace Linked

variable {found middle : ν} {left right : List (Asking σ Reply)} {last : Option ν}

theorem append (before : Linked view found left (some middle))
    (later : Linked view middle right last) : Linked view found (left ++ right) last := by
  generalize reached : some middle = ended at before
  induction before with
  | ended => cases reached; exact later
  | waiting => cases reached
  | unanswered => cases reached
  | answered finds answered _ ih => exact .answered finds answered (ih reached)

theorem constant (linked : Linked view found left last)
    (kept : ∀ asking ∈ left, view asking.world = found → ∀ after, asking.after = some after →
      view after = found) : ∀ asking ∈ left, view asking.world = found := by
  induction linked with
  | ended | waiting => exact fun _ none => nomatch none
  | unanswered finds =>
      intro asking member
      rw [List.mem_singleton.mp member]
      exact finds
  | @answered found first after rest _ finds answered _ ih =>
      have next : view after = found := kept first List.mem_cons_self finds after answered
      subst next
      intro asking member
      rcases List.mem_cons.mp member with rfl | member
      · exact finds
      · exact ih (fun other inside => kept other (List.mem_cons_of_mem _ inside)) asking member

/-- Requests whose answers leave the view alone can be passed over. -/
theorem filter (linked : Linked view found left last) (keep : Asking σ Reply → Bool)
    (others : ∀ asking ∈ left, keep asking = false → ∀ after, asking.after = some after →
      view after = view asking.world) : Linked view found (left.filter keep) last := by
  induction linked with
  | ended found => exact .ended found
  | waiting found => exact .waiting found
  | @unanswered found asking finds never =>
      cases kept : keep asking with
      | true =>
          rw [List.filter_cons_of_pos kept]
          exact .unanswered finds never
      | false =>
          rw [List.filter_cons_of_neg (Bool.eq_false_iff.mp kept)]
          exact .waiting found
  | @answered found asking after rest last finds answered _ ih =>
      have later := ih fun other member => others other (List.mem_cons_of_mem _ member)
      cases kept : keep asking with
      | true =>
          rw [List.filter_cons_of_pos kept]
          exact .answered finds answered later
      | false =>
          rw [List.filter_cons_of_neg (Bool.eq_false_iff.mp kept)]
          have same := others asking List.mem_cons_self kept after answered
          rwa [same, finds] at later

section Parts

variable {asking : Asking σ Reply}

theorem finds (linked : Linked view found (asking :: right) last) : view asking.world = found := by
  cases linked with
  | unanswered finds | answered finds => exact finds

theorem next {after : World σ} (linked : Linked view found (asking :: right) last)
    (answered : asking.after = some after) : Linked view (view after) right last := by
  cases linked with
  | unanswered _ never =>
      rw [never] at answered
      cases answered
  | answered _ found later =>
      rw [found] at answered
      cases answered
      exact later

theorem drop (linked : Linked view found (left ++ asking :: right) last) :
    Linked view (view asking.world) (asking :: right) last := by
  induction left generalizing found with
  | nil =>
      rw [linked.finds]
      exact linked
  | cons first rest ih =>
      generalize more : rest ++ asking :: right = others at ih
      rw [List.cons_append, more] at linked
      cases linked with
      | unanswered => simp at more
      | answered _ _ later => exact ih later

end Parts

theorem answers {ended : ν} (linked : Linked view found left (some ended)) :
    ∀ asking ∈ left, asking.after ≠ none := by
  generalize reached : some ended = last at linked
  induction linked with
  | ended => exact fun _ none => nomatch none
  | waiting | unanswered => cases reached
  | answered _ answered _ ih =>
      intro asking member
      rcases List.mem_cons.mp member with rfl | member
      · simp [answered]
      · exact ih reached asking member

theorem complete {ended : ν} (linked : Linked view found left (some ended)) :
    ∀ asking ∈ left, asking.outcome ≠ none := by
  intro asking member never
  exact linked.answers asking member (Option.map_eq_none_iff.mpr (Option.map_eq_none_iff.mp never))

end Linked

/-- No run of the code changes what the view shows. -/
def Code.Leaves (view : World σ → ν) (code : Code σ α) : Prop :=
  ∀ t world ended, code.exec t world = some ended → view ended.2.2 = view world

def Action.Leaves (view : World σ → ν) (action : Action σ α) : Prop :=
  ∀ t world, view (action.perform t world).2.2 = view world

/-- However the requests are answered, what is done besides does not change what the view shows. -/
def Outline.Leaves (reply : (request : ρ) → Routine σ (Reply request)) (view : World σ → ν)
    (outline : Outline σ Reply α) : Prop :=
  ∀ t world, Linked view (view world) (outline.askings reply t world)
    (((outline.answered reply).exec t world).map fun ended => view ended.2.2)

namespace Code

theorem leaves_ret (value : α) : (ret value : Code σ α).Leaves view := by
  intro t world ended ran
  cases ran
  rfl

theorem Leaves.bind {code : Code σ α} {f : α → Code σ β} (first : code.Leaves view)
    (later : ∀ value, (f value).Leaves view) : (code.bind f).Leaves view := by
  intro t world ended ran
  rw [exec_bind, Option.bind_eq_some_iff] at ran
  obtain ⟨⟨value, middle, between⟩, ran, rest⟩ := ran
  exact (later value middle between ended rest).trans (first t world _ ran)

theorem leaves_perform {action : Action σ α} (leaves : action.Leaves view) :
    (perform action).Leaves view := by
  intro t world ended ran
  simp only [perform, exec] at ran
  split at ran
  · cases ran
    exact leaves t world
  · cases ran

end Code

namespace Outline

variable {reply : (request : ρ) → Routine σ (Reply request)}

theorem leaves_ret (value : α) : (ret value : Outline σ Reply α).Leaves reply view :=
  fun _ _ => .ended _

theorem leaves_own {code : Code σ α} (leaves : code.Leaves view) :
    (own code : Outline σ Reply α).Leaves reply view := by
  intro t world
  rw [askings_own, answered_own]
  cases ran : code.exec t world with
  | none => exact .waiting _
  | some ended =>
      rw [Option.map_some, leaves t world ended ran]
      exact .ended _

theorem leaves_ask (request : ρ) :
    (ask request ret : Outline σ Reply (Except Exit (Reply request))).Leaves reply view := by
  intro t world
  have whole : (ask request ret).answered reply = (reply request).run := Code.bind_ret _
  change Linked view _ ((Draft.ask request).askings reply t world) _
  rw [Draft.askings_ask, whole]
  cases ran : (reply request).run.exec t world with
  | none => exact .unanswered rfl rfl
  | some ended => exact .answered rfl rfl (.ended _)

theorem Leaves.bind {outline : Outline σ Reply α} {f : α → Outline σ Reply β}
    (first : outline.Leaves reply view) (later : ∀ value, (f value).Leaves reply view) :
    (outline.bind f).Leaves reply view := by
  intro t world
  have before := first t world
  rw [askings_bind, answered_bind, Code.exec_bind]
  cases ran : (outline.answered reply).exec t world with
  | none =>
      rw [ran] at before
      simpa using before
  | some ended =>
      rw [ran] at before
      exact before.append (later ended.1 ended.2.1 ended.2.2)

theorem leaves_act {action : Action σ β} {next : β → Outline σ Reply α} (leaves : action.Leaves view)
    (later : ∀ answer, (next answer).Leaves reply view) :
    (act action next).Leaves reply view := by
  have begun : (own (Code.perform action) : Outline σ Reply β).Leaves reply view :=
    leaves_own (Code.leaves_perform leaves)
  exact begun.bind later

theorem leaves_fork_ret {thread : Thread} {body : Outline σ Reply α} {f : α → β}
    (leaves : body.Leaves reply view) :
    (fork thread body fun answer => ret (f answer)).Leaves reply view := by
  intro t world
  rw [askings_fork_ret, exec_fork_ret, Option.map_map]
  exact leaves _ world

end Outline

/-! ### Drafts that leave a view alone -/

def Routine.Leaves (view : World σ → ν) (routine : Routine σ α) : Prop := routine.run.Leaves view

namespace Routine

theorem leaves_pure (value : α) : (pure value : Routine σ α).Leaves view := Code.leaves_ret _

theorem leaves_fail (failure : Failure) : (fail failure : Routine σ α).Leaves view := Code.leaves_ret _

theorem Leaves.bind {routine : Routine σ α} {rest : α → Routine σ β} (first : routine.Leaves view)
    (later : ∀ value, (rest value).Leaves view) : (routine >>= rest).Leaves view := by
  apply Code.Leaves.bind first
  intro ended
  cases ended with
  | ok value => exact later value
  | error exit => exact Code.leaves_ret _

theorem leaves_perform {action : Action σ α} (leaves : action.Leaves view) :
    (perform action).Leaves view :=
  (Code.leaves_perform leaves).bind fun _ => Code.leaves_ret _

theorem leaves_attempt {action : Action σ (Except Exit α)} (leaves : action.Leaves view) :
    (attempt action).Leaves view :=
  Code.leaves_perform leaves

theorem leaves_failing {action : Action σ (Except Failure α)} (leaves : action.Leaves view) :
    (failing action).Leaves view :=
  (Code.leaves_perform leaves).bind fun _ => Code.leaves_ret _

theorem leaves_panicking {code : Code σ (Except Panic α)} (leaves : code.Leaves view) :
    (panicking code).Leaves view :=
  leaves.bind fun _ => Code.leaves_ret _

end Routine

namespace Draft

variable {reply : (request : ρ) → Routine σ (Reply request)}

def Leaves (reply : (request : ρ) → Routine σ (Reply request)) (view : World σ → ν)
    (draft : Draft σ Reply α) : Prop := draft.run.Leaves reply view

theorem leaves_pure (value : α) : (pure value : Draft σ Reply α).Leaves reply view :=
  Outline.leaves_ret _

theorem leaves_own {routine : Routine σ α} (leaves : routine.Leaves view) :
    (own routine : Draft σ Reply α).Leaves reply view :=
  Outline.leaves_own leaves

theorem leaves_ask (request : ρ) :
    (ask request : Draft σ Reply (Reply request)).Leaves reply view :=
  Outline.leaves_ask request

theorem Leaves.bind {draft : Draft σ Reply α} {rest : α → Draft σ Reply β}
    (first : draft.Leaves reply view) (later : ∀ value, (rest value).Leaves reply view) :
    (draft >>= rest).Leaves reply view := by
  apply Outline.Leaves.bind first
  intro ended
  cases ended with
  | ok value => exact later value
  | error exit => exact Outline.leaves_ret _

theorem leaves_lift {outline : Outline σ Reply α} (leaves : outline.Leaves reply view) :
    (lift outline).Leaves reply view :=
  leaves.bind fun _ => Outline.leaves_ret _

theorem Leaves.catchFailure {draft : Draft σ Reply α} (leaves : draft.Leaves reply view) :
    draft.catchFailure.Leaves reply view := by
  apply Outline.Leaves.bind leaves
  intro ended
  rcases ended with (failure | panic) | value
  all_goals exact Outline.leaves_ret _

theorem leaves_around {begin : Routine σ β} {finish : β → Routine σ Unit} {body : Draft σ Reply α}
    (begins : begin.Leaves view) (finishes : ∀ found, (finish found).Leaves view)
    (leaves : body.Leaves reply view) : (around begin finish body).Leaves reply view := by
  refine (leaves_own begins).bind fun found => (leaves_lift leaves).bind fun ended => ?_
  exact (leaves_own (finishes found)).bind fun _ => Outline.leaves_ret _

end Draft

/-! ### What an extraction leaves alone -/

structure Passive (view : World σ → ν) : Prop where
  emit : ∀ event, (Action.emit event : Action σ _).Leaves view
  mute : (Action.mute : Action σ _).Leaves view
  unmute : ∀ found, (Action.unmute found : Action σ _).Leaves view
  spawn : ∀ size, (Action.spawn size : Action σ _).Leaves view

theorem passive_hook : Passive (World.hook : World σ → _) where
  emit event t world := by
    simp only [Action.perform, World.emit_snd]
    rfl
  mute _ _ := rfl
  unmute _ _ _ := rfl
  spawn _ _ _ := rfl

variable {Program : Type u} {Params : Type v}

namespace Extraction

open Draft

variable (extractor : Extractor σ Program Params)

theorem leaves_quietly (passive : Passive view) (mute : Bool) {body : Extraction σ Program Params α}
    (leaves : body.Leaves extractor.reply view) : (quietly mute body).Leaves extractor.reply view := by
  cases mute with
  | false => exact leaves
  | true =>
      exact leaves_around (Routine.leaves_perform passive.mute)
        (fun found => Routine.leaves_perform (passive.unmute found)) leaves

theorem leaves_announcing (passive : Passive view) (pair : TargetPair) :
    (Pipeline.announcing pair).Leaves view := by
  rw [Pipeline.announcing]
  split
  · exact Routine.leaves_panicking (Code.leaves_perform (passive.emit _))
  · exact Routine.leaves_pure ()

theorem leaves_pass (passive : Passive view) (pair : TargetPair) (program : Program)
    (params : Params) :
    (pass pair program params : Extraction σ Program Params Unit).Leaves extractor.reply view := by
  refine (leaves_ask _).bind fun _ => (leaves_own (leaves_announcing passive pair)).bind fun _ => ?_
  refine (leaves_ask _).catchFailure.bind fun lowered => (leaves_ask _).bind fun _ => leaves_own ?_
  cases lowered with
  | ok done => exact Routine.leaves_pure ()
  | error failure => exact Routine.leaves_fail _

theorem leaves_isolated (passive : Passive view) (settings : Settings) (index : Nat)
    {body : Extraction σ Program Params Unit} (leaves : body.Leaves extractor.reply view) :
    (isolated settings index body).Leaves extractor.reply view := by
  apply Outline.leaves_act (passive.spawn _)
  intro answer
  cases answer with
  | error reason => exact Outline.leaves_ret _
  | ok done => exact Outline.leaves_fork_ret (leaves_quietly extractor passive _ leaves)

theorem leaves_forgetting (forgets : Bool) :
    (forgetting forgets : Extraction σ Program Params Unit).Leaves extractor.reply view := by
  cases forgets with
  | false => exact leaves_pure ()
  | true => exact leaves_ask _

theorem leaves_passes (passive : Passive view) (forgets : Bool) (settings : Settings)
    (pair : TargetPair) (index : Nat) (work : List (Program × Params)) :
    (passes forgets settings pair index work : Extraction σ Program Params Unit).Leaves
      extractor.reply view := by
  induction work generalizing index with
  | nil => exact leaves_pure ()
  | cons item rest ih =>
      obtain ⟨program, params⟩ := item
      have inside := leaves_isolated extractor passive settings index
        (leaves_pass extractor passive pair program params)
      refine (leaves_ask _).bind fun _ => (leaves_lift inside).bind fun traced => ?_
      refine ((leaves_ask _).bind fun _ => leaves_forgetting extractor forgets).bind fun _ => ?_
      cases traced with
      | ok done => exact ih (index + 1)
      | error failure => exact leaves_own (Routine.leaves_fail _)

end Extraction

end TuningTasks
