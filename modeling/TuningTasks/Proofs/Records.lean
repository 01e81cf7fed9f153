import TuningTasks.Proofs.Execution

/-!
What a ledger holds: the first occurrences of the accepted invocations that it was given since it was
emptied. Nothing but its hook, resets and direct records reach a ledger, so along any history that has
no reset and no direct record of it the ledger keeps to the invocations dispatched.
-/
namespace TuningTasks

variable {σ β : Type}

def admits (filter : Option Filter) (call : Invocation) : Bool :=
  filter.all fun filter => filter.accepts call.operator

/-- The admitted invocations without repetitions, in the order of their first occurrences. -/
def firstAdmitted (filter : Option Filter) (calls : List Invocation) : List Invocation :=
  (calls.filter (admits filter)).eraseDups

section FirstAdmitted

variable {filter : Option Filter} {calls : List Invocation} {call : Invocation}

theorem mem_firstAdmitted : call ∈ firstAdmitted filter calls ↔ call ∈ calls ∧ admits filter call := by
  simp only [firstAdmitted, List.mem_eraseDups, List.mem_filter]

theorem firstAdmitted_refused (refused : admits filter call = false) :
    firstAdmitted filter (calls ++ [call]) = firstAdmitted filter calls := by
  simp [firstAdmitted, List.filter_append, refused]

theorem firstAdmitted_known (known : call ∈ firstAdmitted filter calls) :
    firstAdmitted filter (calls ++ [call]) = firstAdmitted filter calls := by
  obtain ⟨member, admitted⟩ := mem_firstAdmitted.mp known
  simp [firstAdmitted, List.filter_append, List.eraseDups_append, List.removeAll, admitted, member]

theorem firstAdmitted_new (admitted : admits filter call = true)
    (new : call ∉ firstAdmitted filter calls) :
    firstAdmitted filter (calls ++ [call]) = firstAdmitted filter calls ++ [call] := by
  have unknown : call ∉ calls := fun member => new (mem_firstAdmitted.mpr ⟨member, admitted⟩)
  simp [firstAdmitted, List.filter_append, List.eraseDups_append, List.removeAll, admitted, unknown,
    List.eraseDups_cons]

end FirstAdmitted

namespace Ledger

def after (filter : Option Filter) (calls : List Invocation) : Ledger where
  filter := filter
  seen := (firstAdmitted filter calls).reverse
  ordered := firstAdmitted filter calls

theorem after_nil (filter : Option Filter) : after filter [] = reset filter := rfl

theorem outcome_after (filter : Option Filter) (calls : List Invocation) (call : Invocation) :
    (after filter calls).outcome call =
      if admits filter call = false then .filtered
      else if call ∈ firstAdmitted filter calls then .duplicate
      else .recorded := by
  have accepts : (after filter calls).accepts call.operator = admits filter call := rfl
  simp only [outcome, accepts]
  simp [after]

theorem submit_after (filter : Option Filter) (calls : List Invocation) (call : Invocation) :
    (after filter calls).submit call = after filter (calls ++ [call]) := by
  rw [submit, outcome_after]
  cases admitted : admits filter call with
  | false => simp [after, firstAdmitted_refused admitted]
  | true =>
      by_cases known : call ∈ firstAdmitted filter calls
      · simp [known, after, firstAdmitted_known known]
      · simp [known, after, add, firstAdmitted_new admitted known]

end Ledger

/-- Neither empties the ledger nor records in it past its hook. -/
def Action.spares (name : String) : Action σ β → Bool
  | .resetLedger other _ | .record other _ => other ≠ name
  | _ => true

namespace World

theorem setLedger_other (world : World σ) {name other : String} (differ : other ≠ name)
    (ledger : Guarded Ledger) : (world.setLedger name ledger).ledgers other = world.ledgers other := by
  simp [setLedger, differ]

theorem record_other {world : World σ} {name other : String} (differ : other ≠ name)
    (thread : Thread) (invocation : Invocation) :
    (world.record thread name invocation).2.ledgers other = world.ledgers other := by
  have emitted := world.emit_snd thread (.recorded invocation)
  simp only [record]
  split
  · rfl
  · split
    · rcases logged : world.emit thread (.recorded invocation) with ⟨_ | _, after⟩
      all_goals
        rw [logged] at emitted
        subst emitted
        exact setLedger_other _ differ _
    · rfl

theorem resetLedger_other {world : World σ} {name other : String} (differ : other ≠ name)
    (filter : Option Filter) :
    (world.resetLedger name filter).2.ledgers other = world.ledgers other := by
  simp only [resetLedger]
  split
  · rfl
  · exact setLedger_other _ differ _

theorem consult_after {world : World σ} (silent : world.Silent) {name : String}
    {filter : Option Filter} {calls : List Invocation}
    (holds : world.ledgers name = { value := .after filter calls }) (thread : Thread)
    (call : Invocation) :
    (world.consult thread (.ledger name) call).2.ledgers name =
      { value := .after filter (calls ++ [call]) } := by
  have sound : (world.ledgers name).poisoned = false := by rw [holds]
  obtain ⟨log, recorded⟩ := record_sound silent sound thread call
  simp only [consult, recorded, holds, Ledger.submit_after]
  simp [setLedger]

end World

theorem Action.spares_frame {action : Action σ β} {name : String} (spared : action.spares name = true)
    (unasked : action.asked? = none) (t : Thread) (world : World σ) :
    (action.perform t world).2.2.ledgers name = world.ledgers name := by
  cases action with
  | consult hook invocation => cases unasked
  | emit event => simp only [perform, World.emit_snd]; rfl
  | install hook =>
      obtain ⟨_, _, same⟩ := world.install_frame t hook
      simp only [perform, same]
  | uninstall =>
      obtain ⟨_, _, same⟩ := world.uninstall_frame t
      simp only [perform, same]
  | warnOnce cache message =>
      obtain ⟨_, _, same⟩ := world.warnOnce_frame t cache message
      simp only [perform, same]
  | resetLedger other filter =>
      have differ : other ≠ name := by simpa [spares] using spared
      exact World.resetLedger_other differ.symm filter
  | record other invocation =>
      have differ : other ≠ name := by simpa [spares] using spared
      exact World.record_other differ.symm t invocation
  | thread | mute | unmute | installedHook | isTracing | readLedger | updateCache | lockSession
  | unlockSession | spawn | client => rfl

theorem Moment.ledger_after {moment : Moment σ} (silent : moment.world.Silent) {name : String}
    (spared : moment.action.spares name = true)
    (asked : ∀ hook call, moment.action.asked? = some (hook, call) → hook = .ledger name)
    {filter : Option Filter} {calls : List Invocation}
    (holds : moment.world.ledgers name = { value := .after filter calls }) :
    moment.after.ledgers name = { value := .after filter (calls ++ dispatched [moment]) } := by
  obtain ⟨action, thread, world⟩ := moment
  -- Only a moment that asks the hook dispatches, and the hook is the ledger.
  cases unasked : action.asked? with
  | none =>
      have nothing : dispatched [(⟨action, thread, world⟩ : Moment σ)] = [] := by
        simp [dispatched, unasked]
      rw [nothing, List.append_nil]
      exact (action.spares_frame spared unasked thread world).trans holds
  | some pair =>
      cases action with
      | consult hook call =>
          obtain rfl := asked hook call rfl
          exact World.consult_after silent holds thread call
      | _ => cases unasked

/-- Along a history that asks no other hook, a ledger takes exactly what is dispatched. -/
theorem Follows.ledger_after {first last : World σ} {history : List (Moment σ)}
    (follows : Follows first history last) (silent : first.Silent) {name : String}
    (spared : ∀ moment ∈ history, moment.action.spares name = true)
    (asked : ∀ moment ∈ history, ∀ hook call, moment.action.asked? = some (hook, call) →
      hook = .ledger name)
    {filter : Option Filter} {calls : List Invocation}
    (holds : first.ledgers name = { value := .after filter calls }) :
    last.ledgers name = { value := .after filter (calls ++ dispatched history) } := by
  -- Each moment adds what it dispatches to the calls so far.
  induction follows generalizing calls with
  | nil => simpa [dispatched] using holds
  | @cons moment rest _ _ ih =>
      have quiet : moment.after.Silent := moment.action.perform_silent silent moment.thread
      have next := Moment.ledger_after silent (spared moment List.mem_cons_self)
        (asked moment List.mem_cons_self) holds
      have later := ih quiet (fun other member => spared other (List.mem_cons_of_mem moment member))
        (fun other member => asked other (List.mem_cons_of_mem moment member)) next
      rw [List.append_assoc, ← dispatched_append] at later
      exact later

end TuningTasks
