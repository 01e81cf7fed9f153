import TuningTasks.Proofs.Scopes

/-!
Code that drops its own scopes only. Such code may hold scopes of its own for a while, and drops none
but these (`Code.Owns`), whatever the log's sink does; so along its history a scope is dropped only while
one is alive (`Code.Owns.dropsOwn`). Tidy code is such code (`Code.Tidy.dropsOwn`).
-/
namespace TuningTasks

variable {σ α β : Type} {waits : Bool}

def Action.scoping : Action σ β → Bool
  | .install _ | .uninstall => true
  | _ => false

def Action.drops : Action σ β → Bool
  | .uninstall => true
  | _ => false

theorem Action.perform_hook {action : Action σ β} (other : action.scoping = false) (t : Thread)
    (world : World σ) : (action.perform t world).2.2.hook = world.hook := by
  cases action with
  | install | uninstall => cases other
  | emit event =>
      simp only [perform, World.emit_snd]
      rfl
  | consult hook invocation =>
      obtain ⟨_, _, _, same⟩ := world.consult_frame t hook invocation
      simp only [perform, same]
  | resetLedger name filter =>
      obtain ⟨_, same⟩ := world.resetLedger_frame name filter
      simp only [perform, same]
  | record name invocation =>
      obtain ⟨_, _, same⟩ := world.record_frame t name invocation
      simp only [perform, same]
  | warnOnce cache message =>
      obtain ⟨_, _, same⟩ := world.warnOnce_frame t cache message
      simp only [perform, same]
  | thread | mute | unmute | installedHook | isTracing | readLedger | updateCache | lockSession
  | unlockSession | spawn | client => rfl

theorem Action.Plain.scoping {action : Action σ β} (plain : action.Plain) : action.scoping = false := by
  cases action <;> first | rfl | exact plain.elim

def DropsOwn : List (Hook σ) → List (Moment σ) → Prop
  | _, [] => True
  | alive, moment :: rest =>
      (moment.action.drops = true → alive ≠ []) ∧ DropsOwn (moment.scopes alive) rest

theorem scopesAfter_cons (alive : List (Hook σ)) (moment : Moment σ) (rest : List (Moment σ)) :
    scopesAfter alive (moment :: rest) = scopesAfter (moment.scopes alive) rest := rfl

theorem dropsOwn_append {alive : List (Hook σ)} {left right : List (Moment σ)} :
    DropsOwn alive (left ++ right) ↔ DropsOwn alive left ∧ DropsOwn (scopesAfter alive left) right := by
  induction left generalizing alive with
  | nil => simp [DropsOwn, scopesAfter]
  | cons moment rest ih => simp only [List.cons_append, DropsOwn, ih, scopesAfter_cons, and_assoc]

namespace Code

/-- Code that holds some scopes of its own before and after, and drops none but these. -/
inductive Owns {σ : Type} : {α : Type} → Nat → Code σ α → Nat → Prop
  | ret {α : Type} {held : Nat} (value : α) : Owns held (.ret value) held
  | act {α β : Type} {held left : Nat} {action : Action σ β} {next : β → Code σ α}
      (other : action.scoping = false) (rest : ∀ answer, Owns held (next answer) left) :
      Owns held (.act action next) left
  | install {α : Type} {held left : Nat} (hook : Hook σ) {next : Except Exit Unit → Code σ α}
      (entered : Owns (held + 1) (next (.ok ())) left)
      (refused : ∀ exit, Owns held (next (.error exit)) left) :
      Owns held (.act (.install hook) next) left
  | uninstall {α : Type} {held left : Nat} {next : Except Panic Unit → Code σ α}
      (rest : ∀ answer, Owns held (next answer) left) : Owns (held + 1) (.act .uninstall next) left
  | fork {α β : Type} {held left : Nat} (thread : Thread) {body : Code σ β} {next : β → Code σ α}
      (inside : Owns 0 body 0) (rest : ∀ answer, Owns held (next answer) left) :
      Owns held (.fork thread body next) left

namespace Owns

theorem bind {held middle left : Nat} {code : Code σ α} {f : α → Code σ β}
    (owns : code.Owns held middle) (rest : ∀ value, (f value).Owns middle left) :
    (code.bind f).Owns held left := by
  induction owns with
  | ret value => exact rest value
  | act other _ ih => exact .act other fun answer => ih answer rest
  | install hook _ _ entered refused =>
      exact .install hook (entered rest) fun exit => refused exit rest
  | uninstall _ ih => exact .uninstall fun answer => ih answer rest
  | fork thread inside _ _ ih => exact .fork thread inside fun answer => ih answer rest

/-- One more scope may be held all along. -/
theorem frame {held left : Nat} {code : Code σ α} (owns : code.Owns held left) :
    code.Owns (held + 1) (left + 1) := by
  induction owns with
  | ret value => exact .ret value
  | act other _ ih => exact .act other ih
  | install hook _ _ entered refused => exact .install hook entered refused
  | uninstall _ ih => exact .uninstall ih
  | fork thread inside _ _ ih => exact .fork thread inside ih

/-- Only what is on top of the scopes of others is dropped, and they are there in the end. -/
theorem dropsOwn {held left : Nat} {code : Code σ α} (owns : code.Owns held left)
    (own base : List (Hook σ)) (count : own.length = held) (t : Thread) (world : World σ) :
    DropsOwn (own ++ base) (code.history t world) ∧ ∀ ended, code.exec t world = some ended →
      ∃ later, later.length = left ∧
        scopesAfter (own ++ base) (code.history t world) = later ++ base := by
  induction owns generalizing own base t world with
  | ret value => exact ⟨trivial, fun _ _ => ⟨own, count, rfl⟩⟩
  | @act _ _ _ _ action next other _ ih =>
      have same : action.scopes t world (own ++ base) = own ++ base := by
        cases action <;> first | rfl | cases other
      have keeps : action.drops = false := by
        cases action <;> first | rfl | cases other
      simp only [history, exec]
      split
      · obtain ⟨inside, after⟩ := ih (action.perform t world).1 own base count
          (action.perform t world).2.1 (action.perform t world).2.2
        simp only [DropsOwn, scopesAfter_cons, Moment.scopes, same, keeps]
        exact ⟨⟨fun drops => absurd drops Bool.false_ne_true, inside⟩, after⟩
      · exact ⟨trivial, fun _ ended => absurd ended.symm (Option.some_ne_none _)⟩
  | @install _ _ _ hook next _ _ entered refused =>
      simp only [history, exec, Action.ready, ↓reduceIte, DropsOwn, scopesAfter_cons, Moment.scopes]
      rcases answered : world.install t hook with ⟨exit | done, after⟩
      · have same : (Action.install hook).scopes t world (own ++ base) = own ++ base := by
          simp only [Action.scopes, answered]
        obtain ⟨inside, later⟩ := refused exit own base count t after
        simp only [Action.perform, answered, same]
        exact ⟨⟨fun drops => absurd drops Bool.false_ne_true, inside⟩, later⟩
      · have more : (Action.install hook).scopes t world (own ++ base) = hook :: own ++ base := by
          simp only [Action.scopes, answered, List.cons_append]
        obtain ⟨inside, later⟩ := entered (hook :: own) base (congrArg (· + 1) count) t after
        simp only [Action.perform, answered, more]
        exact ⟨⟨fun drops => absurd drops Bool.false_ne_true, inside⟩, later⟩
  | @uninstall _ _ _ next _ ih =>
      cases own with
      | nil => cases count
      | cons top others =>
          obtain ⟨inside, later⟩ := ih (world.uninstall t).1 others base (Nat.succ.inj count) t
            (world.uninstall t).2
          exact ⟨⟨fun _ => List.cons_ne_nil _ _, inside⟩, later⟩
  | @fork _ _ _ _ thread body next _ _ inner ih =>
      -- To a forked thread every scope, its parent's own ones too, is that of another.
      obtain ⟨inside, after⟩ := inner [] (own ++ base) rfl
        { thread with caller := t.caller } world
      simp only [history, exec]
      cases ran : body.exec { thread with caller := t.caller } world with
      | none => exact ⟨by simpa using inside, fun _ ended => absurd ended.symm (Option.some_ne_none _)⟩
      | some ended =>
          obtain ⟨later, nothing, back⟩ := after ended ran
          rw [List.eq_nil_of_length_eq_zero nothing] at back
          obtain ⟨further, last⟩ := ih ended.1 own base count t ended.2.2
          simp only [dropsOwn_append, scopesAfter_append]
          rw [List.nil_append] at inside back
          rw [back]
          exact ⟨⟨inside, further⟩, last⟩

end Owns

end Code

namespace Routine

variable {held left : Nat}

open Code

theorem owns_bind {routine : Routine σ α} {rest : α → Routine σ β} (first : routine.run.Owns 0 0)
    (later : ∀ value, (rest value).run.Owns 0 0) : (routine >>= rest).run.Owns 0 0 := by
  apply Owns.bind first
  intro ended
  cases ended with
  | ok value => exact later value
  | error exit => exact .ret _

theorem owns_perform {action : Action σ α} (other : action.scoping = false) :
    (perform action).run.Owns 0 0 :=
  Owns.bind (.act other fun _ => .ret _) fun _ => .ret _

theorem owns_dispatch (invocation : Invocation) :
    (dispatch invocation : Routine σ Decision).run.Owns 0 0 := by
  have reading : (failing .installedHook : Routine σ (Option (Hook σ))).run.Owns 0 0 :=
    .act rfl fun _ => .ret _
  refine owns_bind reading fun slot => ?_
  cases slot with
  | none => exact .ret _
  | some hook => exact .act rfl fun _ => .ret _

theorem owns_between {before : Action σ α} {after : α → Action σ Unit} {body : Routine σ β}
    (begins : before.scoping = false) (ends : ∀ found, (after found).scoping = false)
    (inside : body.run.Owns 0 0) :
    (do
      let found ← perform before
      let ended ← ExceptT.lift body.run
      perform (after found)
      ExceptT.mk (pure ended) : Routine σ β).run.Owns 0 0 := by
  refine owns_bind (owns_perform begins) fun found => ?_
  refine owns_bind (inside.bind fun _ => .ret _) fun ended => ?_
  exact owns_bind (owns_perform (ends found)) fun _ => .ret _

theorem owns_intercepting (hook : Hook σ) {body : Routine σ α} (inside : body.run.Owns 0 0) :
    (intercepting hook body).run.Owns 0 0 := by
  let leaving (ended : Except Exit α) : Routine σ α := do
    panicking (.perform .uninstall)
    ExceptT.mk (pure ended)
  have leaves : ∀ ended, (leaving ended).run.Owns 1 0 := by
    intro ended
    refine .uninstall fun answer => ?_
    cases answer <;> exact .ret _
  have scope : (ExceptT.lift body.run >>= leaving).run = body.run.bind fun ended => (leaving ended).run :=
    Code.bind_assoc _ _ _
  have entered : (ExceptT.lift body.run >>= leaving).run.Owns 1 0 := scope ▸ inside.frame.bind leaves
  exact .install hook entered fun exit => .ret _

end Routine

theorem Code.Tidy.owns {code : Code σ α} (tidy : code.Tidy waits) : code.Owns 0 0 := by
  induction tidy with
  | ret value => exact .ret value
  | act plain _ ih => exact .act plain.scoping ih
  | fork thread _ _ inner ih => exact .fork thread inner ih
  | dispatch invocation _ ih => exact (Routine.owns_dispatch invocation).bind ih
  | scope hook _ _ inner ih => exact (Routine.owns_intercepting hook inner).bind ih
  | quiet _ _ inner ih => exact (Routine.owns_between rfl (fun _ => rfl) inner).bind ih
  | session _ _ _ inner ih => exact (Routine.owns_between rfl (fun _ => rfl) inner).bind ih

theorem Code.Tidy.dropsOwn {code : Code σ α} (tidy : code.Tidy waits) (alive : List (Hook σ)) (t : Thread)
    (world : World σ) :
    DropsOwn alive (code.history t world) ∧ ∀ ended, code.exec t world = some ended →
      scopesAfter alive (code.history t world) = alive := by
  obtain ⟨drops, back⟩ := tidy.owns.dropsOwn [] alive rfl t world
  refine ⟨drops, fun ended ran => ?_⟩
  obtain ⟨later, nothing, same⟩ := back ended ran
  rw [List.eq_nil_of_length_eq_zero nothing] at same
  exact same

end TuningTasks
