import Mathlib.Data.List.Basic
import TuningTasks.Proofs.Calls

/-!
Which fault decides the answer of a batch. The first program whose pass fails ends the batch with the
failure that its fault stands for: the programs before it have been lowered, none after it is, and no
task is built.
-/
namespace TuningTasks

universe u v
variable {σ : Type} {Program : Type u} {Params : Type v}

def Request.program? : Request Program Params → Option Program
  | .lower program .. => some program
  | _ => none

def loweredPrograms (calls : List (Asking σ (@Request.Reply Program Params))) : List Program :=
  calls.filterMap fun asking => asking.request.program?

theorem loweredPrograms_cons (asking : Asking σ (@Request.Reply Program Params))
    (rest : List (Asking σ (@Request.Reply Program Params))) :
    loweredPrograms (asking :: rest) = asking.request.program?.toList ++ loweredPrograms rest := by
  rw [loweredPrograms, List.filterMap_cons]
  cases asking.request.program? <;> rfl

theorem loweredPrograms_append (left right : List (Asking σ (@Request.Reply Program Params))) :
    loweredPrograms (left ++ right) = loweredPrograms left ++ loweredPrograms right :=
  List.filterMap_append

section Lowered

variable {settings : Settings} {forgets : Bool} {caller thread : Thread} {pair : TargetPair}
  {index : Nat} {program : Program} {params : Params}
  {calls : List (Asking σ (@Request.Reply Program Params))}

theorem InOrder.lowers_none {requests : List (Request Program Params)}
    {ended : Option (Except Panic Unit)} (order : InOrder thread requests calls ended)
    (other : ∀ request ∈ requests, request.program? = none) : loweredPrograms calls = [] := by
  rw [loweredPrograms, List.filterMap_eq_nil_iff]
  intro asking member
  obtain ⟨request, known, asks⟩ := order.from asking member
  rw [asks.request]
  exact other request known

theorem InOrder.lowers_clear {ended : Option (Except Panic Unit)}
    (order : InOrder thread [.clearFunctions] calls ended) : loweredPrograms calls = [] :=
  order.lowers_none (by simp [Request.program?])

theorem InOrder.lowers_reset {ended : Option (Except Panic Unit)}
    (order : InOrder thread (resetRequests forgets) calls ended) : loweredPrograms calls = [] := by
  apply order.lowers_none
  cases forgets <;> simp [resetRequests, Request.program?]

theorem InOrder.lowers_one {config : PassConfig} {ended : Option (Except Panic Unit)}
    (order : InOrder thread [.lower program pair params config, .clearFunctions] calls ended) :
    loweredPrograms calls = [program] := by
  cases order with
  | halts asks _ => simp [loweredPrograms, asks.request, Request.program?]
  | answered asks _ later =>
      rw [loweredPrograms_cons, asks.request, later.lowers_clear]
      rfl

theorem PassCalls.lowers {ended : Option (Except Exit Unit)}
    (pass : PassCalls pair thread program params calls ended) :
    loweredPrograms calls = [program] ∨
      loweredPrograms calls = [] ∧ ended ≠ some (.ok ()) := by
  cases pass with
  | @halted _ stop halts =>
      refine Or.inr ⟨halts.lowers_clear, ?_⟩
      cases stop <;> simp
  | announcement cleared => exact Or.inr ⟨cleared.lowers_clear, by simp⟩
  | lowering cleared _ _ later =>
      rw [← List.singleton_append, loweredPrograms_append, cleared.lowers_clear, List.nil_append]
      cases later with
      | halted halts => exact Or.inl halts.lowers_one
      | complete answered => exact Or.inl answered.lowers_one

theorem Begun.lowers {ended : Option (Except Fault Unit)}
    (begun : Begun settings caller pair index program params calls ended) :
    loweredPrograms calls = [program] ∨
      loweredPrograms calls = [] ∧ ended ≠ some (.ok ()) := by
  obtain ⟨opens, -, -, isolated⟩ := begun
  rw [loweredPrograms_cons, opens.request]
  cases isolated with
  | unspawned => exact Or.inr ⟨rfl, by simp⟩
  | @spawned _ ended _ _ pass =>
      rcases pass.lowers with one | ⟨none, unpassed⟩
      · exact Or.inl one
      · refine Or.inr ⟨none, ?_⟩
        rcases ended with _ | ⟨exit⟩ | ⟨⟨⟩⟩ <;> simp_all [Except.mapError]

theorem Turns.lowers {work : List (Program × Params)}
    (turns : Turns settings forgets caller pair index work calls (some (.ok ()))) :
    loweredPrograms calls = work.map Prod.fst := by
  generalize passed : (some (.ok ()) : Option (Except Exit Unit)) = ended at turns
  induction turns with
  | done => rfl
  | @opening _ _ _ _ _ stop => cases stop <;> cases passed
  | stuck | failed => cases passed
  | @halted _ _ _ _ _ _ _ stop => cases stop <;> cases passed
  | @next _ program _ _ _ _ _ _ begun order _ ih =>
      have one : loweredPrograms _ = [program] := begun.lowers.resolve_right fun failed => failed.2 rfl
      rw [loweredPrograms_append, loweredPrograms_append, one, order.lowers_reset, ih passed]
      rfl

end Lowered

/-! ### The first fault -/

section Halts

variable {settings : Settings} {caller thread : Thread} {pair : TargetPair} {index : Nat}
  {program : Program} {params : Params} {calls : List (Asking σ (@Request.Reply Program Params))}

theorem InOrder.halting {requests : List (Request Program Params)} {stop : Option Panic}
    (order : InOrder thread requests calls (stop.map .error)) :
    ∃ asking ∈ calls, asking.thread.Same thread ∧ asking.Halts stop := by
  generalize halted : (stop.map .error : Option (Except Panic Unit)) = ended at order
  induction order with
  | nil => cases stop <;> cases halted
  | @halts _ _ asking found asks halts =>
      have same : stop = found := by
        cases stop <;> cases found <;> cases halted <;> rfl
      exact ⟨asking, List.mem_singleton.mpr rfl, asks.thread, same ▸ halts⟩
  | answered _ _ _ ih =>
      obtain ⟨asking, member, found⟩ := ih halted
      exact ⟨asking, List.mem_cons_of_mem _ member, found⟩

theorem InOrder.unanswered {requests : List (Request Program Params)}
    (order : InOrder thread requests calls none) : ∃ asking ∈ calls, asking.outcome = none := by
  have halting : ∃ asking ∈ calls, asking.thread.Same thread ∧ asking.Halts none := order.halting
  obtain ⟨asking, member, -, ⟨unanswered⟩⟩ := halting
  exact ⟨asking, member, unanswered⟩

theorem LowerCalls.unanswered (lowering : LowerCalls pair thread program params calls none) :
    ∃ asking ∈ calls, asking.outcome = none := by
  generalize stuck : (none : Option (Except Exit Unit)) = ended at lowering
  cases lowering with
  | @halted _ stop halts =>
      obtain rfl := Option.map_eq_none_iff.mp stuck.symm
      exact halts.unanswered
  | complete => cases stuck

theorem PassCalls.unanswered (pass : PassCalls pair thread program params calls none) :
    ∃ asking ∈ calls, asking.outcome = none := by
  generalize stuck : (none : Option (Except Exit Unit)) = ended at pass
  cases pass with
  | @halted _ stop halts =>
      obtain rfl := Option.map_eq_none_iff.mp stuck.symm
      exact halts.unanswered
  | announcement => cases stuck
  | lowering _ _ _ later =>
      subst stuck
      obtain ⟨asking, member, never⟩ := later.unanswered
      exact ⟨asking, List.mem_cons_of_mem _ member, never⟩

theorem Begun.unanswered (begun : Begun settings caller pair index program params calls none) :
    ∃ asking ∈ calls, asking.outcome = none := by
  generalize stuck : (none : Option (Except Fault Unit)) = ended at begun
  obtain ⟨-, -, -, isolated⟩ := begun
  cases isolated with
  | unspawned => cases stuck
  | spawned _ _ pass =>
      obtain rfl := Option.map_eq_none_iff.mp stuck.symm
      obtain ⟨asking, member, never⟩ := pass.unanswered
      exact ⟨asking, List.mem_cons_of_mem _ member, never⟩

end Halts

section FirstFault

variable (settings : Settings) (forgets : Bool) (caller : Thread) (pair : TargetPair)

/-- The program at the index is the first of the work whose pass fails; `first` is the index of the
first program. -/
inductive FailsFirst (first : Nat) (work : List (Program × Params))
    (calls : List (Asking σ (@Request.Reply Program Params))) : Nat → Fault → Prop
  | intro {index : Nat} {before rest : List (Program × Params)} {program : Program} {params : Params}
      {early pass resets : List (Asking σ (@Request.Reply Program Params))} {fault : Fault}
      (position : index = first + before.length)
      (programs : work = before ++ (program, params) :: rest)
      (parts : calls = early ++ (pass ++ resets))
      (earlier : Turns settings forgets caller pair first before early (some (.ok ())))
      (fails : Begun settings caller pair index program params pass (some (.error fault)))
      (reset : InOrder caller (resetRequests forgets) resets (some (.ok ()))) :
      FailsFirst first work calls index fault

variable {settings forgets caller pair} {first : Nat} {work : List (Program × Params)}
  {calls : List (Asking σ (@Request.Reply Program Params))}

theorem FailsFirst.later {program : Program} {params : Params}
    {pass resets : List (Asking σ (@Request.Reply Program Params))}
    (begun : Begun settings caller pair first program params pass (some (.ok ())))
    (reset : InOrder caller (resetRequests forgets) resets (some (.ok ()))) {index : Nat}
    {fault : Fault}
    (fails : FailsFirst settings forgets caller pair (first + 1) work calls index fault) :
    FailsFirst settings forgets caller pair first ((program, params) :: work)
      (pass ++ (resets ++ calls)) index fault := by
  obtain ⟨position, rfl, rfl, earlier, fails, last⟩ := fails
  refine .intro ?_ rfl ?_ (.next begun reset earlier) fails last
  · rw [position, List.length_cons]
    omega
  · simp only [List.append_assoc]

/-- The programs up to the first fault are lowered, that one perhaps, and no other. -/
theorem FailsFirst.lowers {index : Nat} {fault : Fault}
    (fails : FailsFirst settings forgets caller pair 0 work calls index fault) :
    loweredPrograms calls = (work.take index).map Prod.fst ∨
      loweredPrograms calls = (work.take (index + 1)).map Prod.fst := by
  obtain ⟨position, rfl, rfl, earlier, fails, reset⟩ := fails
  rw [Nat.zero_add] at position
  rw [loweredPrograms_append, loweredPrograms_append, earlier.lowers, reset.lowers_reset, position]
  rcases fails.lowers with one | ⟨none, -⟩
  · exact Or.inr (by simp [one, List.take_length_add_append])
  · exact Or.inl (by simp [none])

variable {ended : Option (Except Exit Unit)}

/-- When every call is answered and none panics on the driving thread, the work comes through or ends
with the failure of the first fault. -/
theorem Turns.first_fault (turns : Turns settings forgets caller pair first work calls ended)
    (outside : caller.inPass = false) (answered : ∀ asking ∈ calls, asking.outcome ≠ none)
    (calm : ∀ asking ∈ calls, asking.thread.inPass = false → ∀ panic,
      asking.outcome ≠ some (.error (.panic panic))) :
    ended = some (.ok ()) ∨ ∃ index fault,
      FailsFirst settings forgets caller pair first work calls index fault ∧
      ended = some (.error (.failure (fault.failure index))) := by
  -- A call that halts is either unanswered or a panic, and a driving one may be neither.
  have driving : ∀ asking ∈ calls, asking.thread.Same caller → ∀ stop, ¬ asking.Halts stop := by
    intro asking member same stop halts
    cases halts with
    | never unanswered => exact answered asking member unanswered
    | panicked panicked => exact calm asking member (same.inPass.trans outside) _ panicked
  induction turns with
  | done => exact Or.inl rfl
  | opening opens halts => exact absurd halts (driving _ List.mem_cons_self opens.thread _)
  | stuck begun =>
      obtain ⟨asking, member, unanswered⟩ := begun.unanswered
      exact absurd unanswered (answered asking member)
  | halted _ order =>
      obtain ⟨asking, member, same, halts⟩ := order.halting
      exact absurd halts (driving asking (List.mem_append_right _ member) same _)
  | @failed index _ _ _ _ _ fault begun reset =>
      exact Or.inr ⟨index, fault, .intro rfl rfl (List.nil_append _).symm (.done _) begun reset, rfl⟩
  | @next _ _ _ _ calls resets later _ begun reset _ ih =>
      have inside : ∀ asking ∈ later, asking ∈ calls ++ (resets ++ later) := fun _ member =>
        List.mem_append_right _ (List.mem_append_right _ member)
      rcases ih (fun asking member => answered asking (inside asking member))
          (fun asking member => calm asking (inside asking member))
          (fun asking member => driving asking (inside asking member)) with
        passed | ⟨index, fault, fails, ended⟩
      · exact Or.inl passed
      · exact Or.inr ⟨index, fault, fails.later begun reset, ended⟩

end FirstFault

namespace Batch

end Batch

end TuningTasks
