import Mathlib.Data.List.Induction
import TuningTasks.Proofs.Session

/-!
The law of a ledger. Whatever the threads of a process do, and in whatever order they take the lock, a
ledger holds the first occurrences of what it accepted since it was last emptied, each recorded once,
and answers by that alone. A panic under the lock poisons the ledger for good, and ends its law.
-/
namespace TuningTasks

variable {σ α β : Type}

/-! ### What is done to a ledger -/

namespace Action

def reset? (name : String) : Action σ β → Option (Option Filter)
  | .resetLedger other filter => if other = name then some filter else none
  | _ => none

/-- The invocation that the action submits to the ledger, by itself or through its hook. -/
def submitted? (name : String) : Action σ β → Option Invocation
  | .record other call | .consult (.ledger other) call => if other = name then some call else none
  | _ => none

end Action

def Moment.recorded? (name : String) (moment : Moment σ) : Option Invocation :=
  (moment.action.submitted? name).filter fun call =>
    (moment.world.record moment.thread name call).1 matches .ok .recorded

/-- A ledger's filter and the history since it was last emptied, or made. -/
structure Epoch (σ : Type) where
  filter : Option Filter := none
  since : List (Moment σ) := []

namespace Epoch

variable (name : String)

def next (epoch : Epoch σ) (moment : Moment σ) : Epoch σ :=
  match moment.action.reset? name with
  | some filter => { filter }
  | none => { epoch with since := epoch.since ++ [moment] }

def ofHistory (history : List (Moment σ)) : Epoch σ := history.foldl (next name) {}

def submitted (epoch : Epoch σ) : List Invocation :=
  epoch.since.filterMap fun moment => moment.action.submitted? name

def recorded (epoch : Epoch σ) : List Invocation := epoch.since.filterMap (Moment.recorded? name)

def outcome (epoch : Epoch σ) (call : Invocation) : RecordOutcome :=
  if admits epoch.filter call = false then .filtered
  else if call ∈ epoch.submitted name then .duplicate
  else .recorded

end Epoch

theorem firstAdmitted_concat (filter : Option Filter) (calls : List Invocation) (call : Invocation) :
    firstAdmitted filter (calls ++ [call]) = firstAdmitted filter calls ++
      (if (Ledger.after filter calls).outcome call = .recorded then some call else none).toList := by
  rw [Ledger.outcome_after]
  cases admitted : admits filter call with
  | false => simp [firstAdmitted_refused admitted]
  | true =>
      by_cases known : call ∈ firstAdmitted filter calls
      · simp [known, firstAdmitted_known known]
      · simp [known, firstAdmitted_new admitted known]

namespace World

theorem record_broken {world : World σ} {name : String}
    (broken : (world.ledgers name).poisoned = true) (thread : Thread) (call : Invocation) :
    world.record thread name call = (.error (.failure .ledgerPoisoned), world) := by
  simp only [record, broken, ↓reduceIte]

theorem record_taken {world : World σ} {name : String} {ledger : Ledger}
    (holds : world.ledgers name = { value := ledger }) {thread : Thread} {call : Invocation}
    (sound : ((world.record thread name call).2.ledgers name).poisoned = false) :
    (world.record thread name call).1 = .ok (ledger.outcome call) ∧
      (world.record thread name call).2.ledgers name = { value := ledger.submit call } := by
  simp only [record, holds, Bool.false_eq_true, ↓reduceIte] at sound ⊢
  cases outcome : ledger.outcome call with
  | recorded =>
      rcases emitted : world.emit thread (.recorded call) with ⟨panic | done, after⟩
      · simp [outcome, emitted, setLedger] at sound
      · simp [Ledger.submit, outcome, setLedger]
  | duplicate | filtered => simp [Ledger.submit, outcome, holds]

/-- A sound ledger answers by its rule, or its log panics on what is to be recorded. -/
theorem record_answer {world : World σ} {name : String} {ledger : Ledger}
    (holds : world.ledgers name = { value := ledger }) (thread : Thread) (call : Invocation) :
    (world.record thread name call).1 = .ok (ledger.outcome call) ∨
      ledger.outcome call = .recorded ∧
        ∃ panic, (world.record thread name call).1 = .error (.panic panic) := by
  simp only [record, holds, Bool.false_eq_true, ↓reduceIte]
  cases outcome : ledger.outcome call with
  | recorded =>
      rcases world.emit thread (.recorded call) with ⟨panic | done, after⟩
      · exact Or.inr ⟨rfl, panic, rfl⟩
      · exact Or.inl rfl
  | duplicate | filtered => exact Or.inl rfl

end World

/-! ### One moment -/

theorem Action.apart_frame {action : Action σ β} {name : String} (kept : action.reset? name = none)
    (silent : action.submitted? name = none) (t : Thread) (world : World σ) :
    (action.perform t world).2.2.ledgers name = world.ledgers name := by
  cases action with
  | consult hook call =>
      cases hook with
      | custom answer => rfl
      | ledger other =>
          have differ : other ≠ name := fun same => by simp [submitted?, same] at silent
          exact World.record_other differ.symm t call
  | resetLedger other filter =>
      have differ : other ≠ name := fun same => by simp [reset?, same] at kept
      exact World.resetLedger_other differ.symm filter
  | record other call =>
      have differ : other ≠ name := fun same => by simp [submitted?, same] at silent
      exact World.record_other differ.symm t call
  | thread | mute | unmute | emit | installedHook | isTracing | install | uninstall | readLedger
  | warnOnce | updateCache | lockSession | unlockSession | spawn | client =>
      exact Action.spares_frame rfl rfl t world

namespace Moment

variable {moment : Moment σ} {name : String}

theorem after_reset {filter : Option Filter} (resets : moment.action.reset? name = some filter) :
    moment.after = (moment.world.resetLedger name filter).2 := by
  obtain ⟨action, thread, world⟩ := moment
  cases action with
  | resetLedger other found =>
      obtain ⟨rfl, rfl⟩ : other = name ∧ found = filter := by simpa [Action.reset?] using resets
      rfl
  | _ => cases resets

theorem after_submitted {call : Invocation} (submits : moment.action.submitted? name = some call) :
    moment.after = (moment.world.record moment.thread name call).2 := by
  obtain ⟨action, thread, world⟩ := moment
  cases action with
  | record other found =>
      obtain ⟨rfl, rfl⟩ : other = name ∧ found = call := by simpa [Action.submitted?] using submits
      rfl
  | consult hook found =>
      cases hook with
      | custom answer => cases submits
      | ledger other =>
          obtain ⟨rfl, rfl⟩ : other = name ∧ found = call := by simpa [Action.submitted?] using submits
          rfl
  | _ => cases submits

theorem after_poisoned (broken : (moment.world.ledgers name).poisoned = true) :
    (moment.after.ledgers name).poisoned = true := by
  cases resets : moment.action.reset? name with
  | some filter =>
      rw [after_reset resets, World.resetLedger, if_pos broken]
      exact broken
  | none =>
      cases submits : moment.action.submitted? name with
      | some call =>
          rw [after_submitted submits, World.record_broken broken]
          exact broken
      | none =>
          rw [after, Action.apart_frame resets submits]
          exact broken

end Moment

/-! ### A whole history -/

namespace Epoch

variable {name : String} {epoch : Epoch σ}

/-- The ledger is what the epoch makes of it, and has answered so. -/
structure Holds (name : String) (epoch : Epoch σ) (world : World σ) : Prop where
  cell : world.ledgers name = { value := .after epoch.filter (epoch.submitted name) }
  recorded : epoch.recorded name = firstAdmitted epoch.filter (epoch.submitted name)

theorem outcome_after (call : Invocation) :
    (Ledger.after epoch.filter (epoch.submitted name)).outcome call = epoch.outcome name call := by
  rw [Ledger.outcome_after, outcome]
  cases admitted : admits epoch.filter call with
  | false => rfl
  | true => simp only [mem_firstAdmitted, admitted, and_true]

section Next

variable {moment : Moment σ}

theorem next_reset {filter : Option Filter} (resets : moment.action.reset? name = some filter) :
    epoch.next name moment = { filter } := by
  rw [next, resets]

universe u v in
theorem filterMap_concat {α : Type u} {β : Type v} (f : α → Option β) (before : List α) (item : α) :
    (before ++ [item]).filterMap f = before.filterMap f ++ (f item).toList := by
  rw [List.filterMap_append, List.filterMap_cons]
  cases f item <;> rfl

theorem next_kept (kept : moment.action.reset? name = none) :
    epoch.next name moment = { epoch with since := epoch.since ++ [moment] } := by
  rw [next, kept]

variable (epoch) in
theorem submitted_next (kept : moment.action.reset? name = none) :
    (epoch.next name moment).submitted name =
      epoch.submitted name ++ (moment.action.submitted? name).toList := by
  rw [next_kept kept]
  exact filterMap_concat (fun moment : Moment σ => moment.action.submitted? name) epoch.since moment

variable (epoch) in
theorem recorded_next (kept : moment.action.reset? name = none) :
    (epoch.next name moment).recorded name =
      epoch.recorded name ++ (moment.recorded? name).toList := by
  rw [next_kept kept]
  exact filterMap_concat (Moment.recorded? name) epoch.since moment

theorem Holds.next (holds : epoch.Holds name moment.world)
    (sound : (moment.after.ledgers name).poisoned = false) :
    (epoch.next name moment).Holds name moment.after := by
  -- The moment empties the ledger, leaves it alone, or submits to it; a panic would have poisoned it.
  cases kept : moment.action.reset? name with
  | some filter =>
      have whole : (moment.world.ledgers name).poisoned = false := by rw [holds.cell]
      rw [next_reset kept, Moment.after_reset kept, World.resetLedger_sound whole]
      exact ⟨if_pos rfl, rfl⟩
  | none =>
      have filter : (epoch.next name moment).filter = epoch.filter := by rw [next_kept kept]
      have submitted := submitted_next epoch kept
      have recorded := recorded_next epoch kept
      cases submits : moment.action.submitted? name with
      | none =>
          have silent : moment.recorded? name = none := by
            rw [Moment.recorded?, submits]
            rfl
          rw [submits, Option.toList_none, List.append_nil] at submitted
          rw [silent, Option.toList_none, List.append_nil] at recorded
          constructor
          · rw [filter, submitted]
            exact (Action.apart_frame kept submits _ _).trans holds.cell
          · rw [filter, submitted, recorded, holds.recorded]
      | some call =>
          rw [Moment.after_submitted submits] at sound ⊢
          obtain ⟨answer, taken⟩ := World.record_taken holds.cell sound
          have told : moment.recorded? name =
              if (Ledger.after epoch.filter (epoch.submitted name)).outcome call = .recorded then some call
              else none := by
            rw [Moment.recorded?, submits, Option.filter_some, answer]
            cases (Ledger.after epoch.filter (epoch.submitted name)).outcome call <;> rfl
          rw [submits, Option.toList_some] at submitted
          constructor
          · rw [filter, submitted, ← Ledger.submit_after]
            exact taken
          · rw [filter, submitted, recorded, holds.recorded, told, firstAdmitted_concat]

end Next

/-- What one moment keeps, a history keeps that does not poison the ledger. -/
theorem Holds.history {first last : World σ} {history : List (Moment σ)}
    (follows : Follows first history last) (holds : epoch.Holds name first)
    (sound : (last.ledgers name).poisoned = false) :
    (history.foldl (Epoch.next name) epoch).Holds name last := by
  -- Poison stays, so a ledger that is sound in the end was sound after every moment.
  induction follows generalizing epoch with
  | nil => exact holds
  | @cons moment rest last later ih =>
      have whole : (moment.after.ledgers name).poisoned = false := by
        rw [← Bool.not_eq_true]
        intro broken
        have stays : (last.ledgers name).poisoned = true :=
          @Follows.keeps _ (fun world => (world.ledgers name).poisoned = true) _ _ _ later
            (fun _ _ => Moment.after_poisoned) broken
        rw [sound] at stays
        cases stays
      exact ih (holds.next whole) sound

end Epoch

/-! ### The law -/

namespace Routine

theorem exec_reading {world : World σ} {name : String} {ledger : Ledger}
    (holds : world.ledgers name = { value := ledger }) (shown : Ledger → α) (t : Thread) :
    (do return shown (← failing (.readLedger name)) : Routine σ α).run.exec t world =
      some (.ok (shown ledger), t, world) := by
  have sound : (world.ledgers name).poisoned = false := by rw [holds]
  rw [exec_bind, exec_failing _ rfl]
  simp only [Action.perform, World.readLedger_sound sound, holds, mapError_ok, Option.bind_some, onward]
  rfl

end Routine

theorem firstAdmitted_nodup (filter : Option Filter) (calls : List Invocation) :
    (firstAdmitted filter calls).Nodup := by
  induction calls using List.reverseRecOn with
  | nil => exact .nil
  | append_singleton calls call ih =>
      cases admitted : admits filter call with
      | false => rwa [firstAdmitted_refused admitted]
      | true =>
          by_cases known : call ∈ firstAdmitted filter calls
          · rwa [firstAdmitted_known known]
          · rw [firstAdmitted_new admitted known]
            refine List.nodup_append.mpr ⟨ih, by simp, fun other member last single => ?_⟩
            rw [List.mem_singleton.mp single]
            rintro rfl
            exact known member

/-- What a ledger holds after the history, and how it answers then, whatever the thread that asks. -/
structure LedgerLaw (name : String) (history : List (Moment σ)) (last : World σ) : Prop where
  distinct : (last.ledgers name).value.ordered.Nodup
  members : ∀ call, call ∈ (last.ledgers name).value.ordered ↔ call ∈ (last.ledgers name).value.seen
  ordered : (last.ledgers name).value.ordered =
    firstAdmitted (Epoch.ofHistory name history).filter ((Epoch.ofHistory name history).submitted name)
  recorded : (Epoch.ofHistory name history).recorded name = (last.ledgers name).value.ordered
  /-- Only a panic of the log can come in the way, and only of what is to be recorded. -/
  answers : ∀ t call,
    (last.record t name call).1 = .ok ((Epoch.ofHistory name history).outcome name call) ∨
      (Epoch.ofHistory name history).outcome name call = .recorded ∧
        ∃ panic, (last.record t name call).1 = .error (.panic panic)
  drain : ∀ t, (Routine.drain name).run.exec t last =
    some (.ok (last.ledgers name).value.ordered, t, last)
  size : ∀ t, (Routine.size name).run.exec t last =
    some (.ok (last.ledgers name).value.ordered.length, t, last)
  isEmpty : ∀ t, (Routine.isEmpty name).run.exec t last =
    some (.ok (last.ledgers name).value.ordered.isEmpty, t, last)
  accepts : ∀ t operator, (Routine.accepts name operator).run.exec t last =
    some (.ok ((Epoch.ofHistory name history).filter.all (·.accepts operator)), t, last)

theorem Epoch.Holds.law {name : String} {history : List (Moment σ)} {last : World σ}
    (holds : (Epoch.ofHistory name history).Holds name last) : LedgerLaw name history last := by
  obtain ⟨cell, recorded⟩ := holds
  have whole : last.ledgers name = { value := (last.ledgers name).value } := by rw [cell]
  have size : ∀ t, (Routine.size name).run.exec t last =
      some (.ok (last.ledgers name).value.ordered.length, t, last) :=
    Routine.exec_reading whole fun ledger => ledger.ordered.length
  refine ⟨?_, ?_, ?_, ?_, ?_, ?_, ?_, ?_, ?_⟩
  · rw [cell]
    exact firstAdmitted_nodup _ _
  · simp [cell, Ledger.after]
  · rw [cell]
    rfl
  · rw [cell]
    exact recorded
  · intro t call
    rw [← Epoch.outcome_after]
    exact World.record_answer cell t call
  · exact Routine.exec_reading whole Ledger.ordered
  · exact size
  · intro t
    rw [Routine.isEmpty, Routine.exec_bind, size, Option.bind_some, Routine.onward]
    cases (last.ledgers name).value.ordered <;> rfl
  · exact fun t operator => Routine.exec_reading cell (fun ledger => ledger.accepts operator) t

theorem Invocation.same_iff (left right : Invocation) :
    left = right ↔ left.operator = right.operator ∧
      Argument.allSame left.signature.arguments right.signature.arguments = true := by
  obtain ⟨operator, ⟨arguments⟩⟩ := left
  obtain ⟨operator', ⟨arguments'⟩⟩ := right
  simp only [Argument.allSame_iff, mk.injEq, Signature.mk.injEq]

/-- Inside any number of tuples, floating point arguments are told apart by their bits. -/
theorem Argument.same_nested (depth : Nat) (bits bits' : UInt64) :
    same ((float bits).nested depth) ((float bits').nested depth) = true ↔ bits = bits' := by
  induction depth with
  | zero => simp [nested, same]
  | succ depth ih => simp [nested, same, allSame, ih]

/-- Along any history from a new ledger on, by whatever threads, the law holds as long as no panic has
poisoned the ledger. -/
theorem Follows.ledger_law {first last : World σ} {history : List (Moment σ)}
    (follows : Follows first history last) {name : String}
    (fresh : first.ledgers name = { value := {} }) (sound : (last.ledgers name).poisoned = false) :
    LedgerLaw name history last ∧
      (∀ left right : Invocation, left = right ↔ left.operator = right.operator ∧
        Argument.allSame left.signature.arguments right.signature.arguments = true) ∧
      ∀ depth bits bits', Argument.same ((Argument.float bits).nested depth)
        ((Argument.float bits').nested depth) = true ↔ bits = bits' := by
  have start : (Epoch.mk none []).Holds name first := ⟨fresh, rfl⟩
  exact ⟨(start.history follows sound).law, Invocation.same_iff, Argument.same_nested⟩

theorem Follows.ledger_law_replay :
    let call : Invocation := ⟨"dense", ⟨[(Argument.float 0).nested 2]⟩⟩
    let code : Code Unit (Except Exit RecordOutcome) := do
      let _ ← Code.perform (.record "ledger" call)
      let _ ← Code.onThread {} (Code.perform (.record "ledger" call))
      let _ ← Code.perform (.resetLedger "ledger" none)
      Code.perform (.record "ledger" call)
    ∃ last, LedgerLaw "ledger" (code.history {} (.initial ())) last ∧
      (last.ledgers "ledger").value.ordered = [call] := by
  intro call code
  exact ⟨_, (Follows.ledger_law (Code.follows_history rfl) rfl rfl).1, rfl⟩

end TuningTasks
