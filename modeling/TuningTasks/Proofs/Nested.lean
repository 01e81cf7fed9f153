import TuningTasks.Proofs.Faults
import TuningTasks.Proofs.Refusal

/-!
Extractions that are started on the thread of a pass. They are refused before they touch anything, so
code that ignores their answers runs as if it had not started them, and so does the batch of that pass.
-/
namespace TuningTasks

universe u v w
variable {σ α β : Type} {Program : Type u} {Params : Type v}

/-! ### The refusal -/

namespace Batch

def nestedFailure (batch : Batch.{u} σ) : Failure :=
  if batch.programs.length = batch.params.length then .insidePass
  else .unpaired batch.programs.length batch.params.length

theorem nestedFailure_kind (batch : Batch.{u} σ) :
    batch.nestedFailure.kind =
      if batch.programs.length = batch.params.length then .alreadyTracing else .invalidInput := by
  rw [nestedFailure]
  split
  · rfl
  · rfl

theorem exec_report_nested (batch : Batch.{u} σ) {t : Thread} (inside : t.inPass = true)
    (world : World σ) :
    batch.report.run.exec t world = some (.error (.failure batch.nestedFailure), t, world) := by
  rw [nestedFailure]
  split
  · rename_i paired
    exact batch.extractor.exec_report_inside _ _ _ _ _ paired inside world
  · rename_i differ
    exact batch.extractor.exec_report_unpaired _ _ _ _ _ differ t world

theorem askings_nested (batch : Batch.{u} σ) {t : Thread} (inside : t.inPass = true)
    (world : World σ) : batch.askings t world = [] := by
  rw [askings, draft, Extraction.report]
  split
  · exact Draft.askings_own _ _ _ _
  · rw [Draft.askings_bind, Draft.askings_own, Draft.routine_own, Routine.exec_perform _ rfl]
    simp only [Action.perform, Option.elim_some, Draft.onwardAskings, inside, ↓reduceIte,
      List.nil_append]
    exact Draft.askings_own _ _ _ _

end Batch

/-! ### Code without its nested extractions -/

def Action.Honest (inside : Bool) : Action σ β → β → Prop
  | .thread, answer => answer.inPass = inside
  | _, _ => True

theorem Action.perform_honest (action : Action σ β) (t : Thread) (world : World σ) :
    action.Honest t.inPass (action.perform t world).1 := by
  cases action <;> trivial

/-- The second code is the first without extractions that are started on the thread of a pass and whose
answers are ignored. `inside` tells whether the code itself runs on such a thread. -/
inductive Code.Trimmed {σ : Type} : Bool → {α : Type} → Code σ α → Code σ α → Prop
  | ret {inside : Bool} {α : Type} (value : α) : Trimmed inside (.ret value) (.ret value)
  | act {inside : Bool} {α β : Type} (action : Action σ β) {next rest : β → Code σ α}
      (later : ∀ answer, action.Honest inside answer → Trimmed inside (next answer) (rest answer)) :
      Trimmed inside (.act action next) (.act action rest)
  | fork {inside : Bool} {α β : Type} (thread : Thread) {body plain : Code σ β}
      {next rest : β → Code σ α} (within : Trimmed thread.inPass body plain)
      (later : ∀ answer, Trimmed inside (next answer) (rest answer)) :
      Trimmed inside (.fork thread body next) (.fork thread plain rest)
  | nested {α : Type} (batch : Batch.{u} σ) {next : Except Exit Report → Code σ α}
      {code plain : Code σ α}
      (ignored : ∀ answer : Except Failure Report, next (answer.mapError .failure) = code)
      (later : Trimmed true code plain) : Trimmed true (batch.report.run.bind next) plain

namespace Code.Trimmed

variable {inside : Bool}

theorem refl (code : Code σ α) : Trimmed.{u} inside code code := by
  induction code generalizing inside with
  | ret value => exact .ret value
  | act action next ih => exact .act action fun answer _ => ih answer
  | fork thread body next inner ih => exact .fork thread inner fun answer => ih answer

/-- On a thread that is in a pass, or not, as the code expects, nothing tells the two apart. -/
theorem exec {code plain : Code σ α} (trimmed : Trimmed.{u} inside code plain) {t : Thread}
    (here : t.inPass = inside) (world : World σ) : code.exec t world = plain.exec t world := by
  induction trimmed generalizing t world with
  | ret value => rfl
  | act action _ ih =>
      have after : (action.perform t world).2.1.inPass = t.inPass := action.perform_inPass t world
      simp only [Code.exec]
      split
      · exact ih _ (here ▸ action.perform_honest t world) (after.trans here) _
      · rfl
  | fork thread _ _ inner ih =>
      have same := inner (t := { thread with caller := t.caller }) rfl world
      simp only [Code.exec, same]
      split
      · exact ih _ here _
      · rfl
  | nested batch ignored _ ih =>
      -- The refusal changes nothing, and whatever the answer is, the code goes on as it would without.
      have refused := ignored (.error batch.nestedFailure)
      rw [exec_bind, batch.exec_report_nested here, Option.bind_some, ← ih here, ← refused]
      rfl

end Code.Trimmed

/-- A nested extraction whose failure is caught and dropped. -/
theorem Routine.trimmed_ignored (batch : Batch.{u} σ) {rest plain : Routine σ α}
    (trimmed : Code.Trimmed.{u} true rest.run plain.run) :
    Code.Trimmed.{u} true (do discard (catchFailure batch.report); rest : Routine σ α).run
      plain.run := by
  have sequence : (do discard (catchFailure batch.report); rest : Routine σ α).run =
      batch.report.run.bind fun ended =>
        (discard (ExceptT.mk (pure (caught ended))) >>= fun _ => rest : Routine σ α).run := by
    change (((batch.report.run.bind _).bind _).bind _) = _
    rw [Code.bind_assoc, Code.bind_assoc]
    congr 1
    funext ended
    rcases ended with (failure | panic) | report
    all_goals rfl
  have ignored : ∀ answer : Except Failure Report, (discard (ExceptT.mk (pure
      (caught (answer.mapError Exit.failure)))) >>= fun _ => rest : Routine σ α).run = rest.run := by
    intro answer
    cases answer with
    | ok report => rfl
    | error failure => rfl
  rw [sequence]
  exact .nested batch ignored trimmed

structure Pipeline.Trimmed (pipeline plain : Pipeline σ Program Params) : Prop where
  lower : ∀ program pair params config, Code.Trimmed.{w} true
    (pipeline.lower program pair params config).run (plain.lower program pair params config).run
  clearFunctions : ∀ inside, Code.Trimmed.{w} inside pipeline.clearFunctions plain.clearFunctions
  clearFallback : pipeline.clearFallback = plain.clearFallback

/-! ### Runs that the answers decide -/

/-- Replies that agree wherever a run asks for them are asked for the same, and the run goes on the same. -/
theorem Outline.answered_congr {ρ : Type w} {Reply : ρ → Type} (outline : Outline σ Reply α)
    (reply other : (request : ρ) → Routine σ (Reply request))
    {t : Thread} {world : World σ}
    (agree : ∀ asking ∈ outline.askings reply t world,
      (reply asking.request).run.exec asking.thread asking.world =
        (other asking.request).run.exec asking.thread asking.world) :
    outline.askings reply t world = outline.askings other t world ∧
      (outline.answered reply).exec t world = (outline.answered other).exec t world := by
  induction outline generalizing t world with
  | ret value => exact ⟨rfl, rfl⟩
  | act action next ih =>
      simp only [askings, answered, Code.exec] at agree ⊢
      split
      · rename_i ready
        rw [if_pos ready] at agree
        exact ih _ agree
      · exact ⟨rfl, rfl⟩
  | fork thread body next inner ih =>
      simp only [askings, answered, Code.exec, List.forall_mem_append] at agree ⊢
      obtain ⟨within, later⟩ := agree
      obtain ⟨sameAskings, sameExec⟩ := inner within
      rw [← sameAskings, ← sameExec]
      rcases joined : (body.answered reply).exec { thread with caller := t.caller } world with
        _ | ⟨answer, final, last⟩
      · exact ⟨rfl, rfl⟩
      · rw [joined] at later
        obtain ⟨restAskings, restExec⟩ := ih _ later
        exact ⟨congrArg _ restAskings, restExec⟩
  | ask request next ih =>
      simp only [askings, answered, Code.exec_bind, List.forall_mem_cons] at agree ⊢
      obtain ⟨first, later⟩ := agree
      rw [← first]
      rcases ended : (reply request).run.exec t world with _ | ⟨answer, thread, last⟩
      · exact ⟨rfl, rfl⟩
      · rw [ended] at later
        obtain ⟨restAskings, restExec⟩ := ih _ later
        exact ⟨congrArg _ restAskings, restExec⟩

namespace Batch

variable {batch : Batch.{u} σ} {t : Thread} {world : World σ}

theorem lowers_inPass : ∀ asking ∈ batch.askings t world, ∀ program pair params config,
    asking.request = .lower program pair params config → asking.thread.inPass = true := by
  intro asking member program pair params config lowers
  have called : asking ∈ batch.calls t world :=
    List.mem_filter.mpr ⟨member, by rw [lowers]; rfl⟩
  by_cases tracing : ∃ pair caller resolved, batch.Traces t world pair caller resolved
  · obtain ⟨pair, caller, resolved, traces⟩ := tracing
    cases traces.turns.placed asking called with
    | driving _ request => rcases request with clears | clears <;> simp [clears] at lowers
    | passing index thread _ => exact thread.inPass
  · have never : ∀ pair caller resolved, ¬ batch.Traces t world pair caller resolved :=
      fun pair caller resolved traces => tracing ⟨pair, caller, resolved, traces⟩
    rw [calls_untraced never] at called
    cases called

variable {plain : Pipeline σ batch.Program batch.Params}

theorem reply_trimmed (trimmed : batch.extractor.pipeline.Trimmed.{u, u, w} plain) :
    ∀ asking ∈ batch.askings t world,
      (batch.extractor.reply asking.request).run.exec asking.thread asking.world =
        ((batch.withPipeline plain).extractor.reply asking.request).run.exec asking.thread
          asking.world := by
  intro asking member
  have passes := lowers_inPass asking member
  cases asked : asking.request with
  | resolve target host => rfl
  | construct request => rfl
  | clearFunctions =>
      have same := (trimmed.clearFunctions asking.thread.inPass).exec rfl asking.world
      change (Routine.panicking _).run.exec _ _ = (Routine.panicking _).run.exec _ _
      rw [Routine.exec_panicking, Routine.exec_panicking, same]
      rfl
  | lower program pair params config =>
      exact (trimmed.lower program pair params config).exec (passes _ _ _ _ asked) asking.world
  | clearFallback =>
      change (Pipeline.forgetting _).run.exec _ _ = (Pipeline.forgetting _).run.exec _ _
      simp only [Pipeline.forgetting, trimmed.clearFallback]
      rfl

theorem report_trimmed (trimmed : batch.extractor.pipeline.Trimmed.{u, u, w} plain) (t : Thread)
    (world : World σ) :
    batch.askings t world = (batch.withPipeline plain).askings t world ∧
      batch.report.run.exec t world = (batch.withPipeline plain).report.run.exec t world := by
  have same : (batch.withPipeline plain).draft = batch.draft := by
    rw [draft, draft, trimmed.clearFallback]
    rfl
  rw [← routine_draft, ← routine_draft, askings, askings, same]
  exact Outline.answered_congr batch.draft _ (batch.withPipeline plain).extractor.reply
    (reply_trimmed trimmed)

end Batch

/-! ### A pass that returns the refusal -/

section Failed

variable {settings : Settings} {forgets : Bool} {caller thread : Thread} {pair : TargetPair}
  {index : Nat} {program : Program} {params : Params}
  {calls : List (Asking σ (@Request.Reply Program Params))} {failure : Failure}

theorem unlowered (none : loweredPrograms calls = []) :
    ∀ asking ∈ calls, asking.request.program? = .none :=
  List.filterMap_eq_nil_iff.mp none

/-- What a lowering fails with is what its pass fails with, unless the clear after it halts. -/
theorem PassCalls.lowering_failed {ended : Option (Except Exit Unit)}
    (pass : PassCalls pair thread program params calls ended) :
    ∀ asking ∈ calls, ∀ lowered, asking.request.program? = some lowered →
      asking.outcome = some (.error (.failure failure)) →
      lowered = program ∧ (ended = some (.error (.failure failure)) ∨
        ∃ stop : Option Panic, (∃ other ∈ calls, other.Halts stop) ∧
          ended = stop.map fun panic => .error (.panic panic)) := by
  intro asking member lowered lowers failed
  have one : loweredPrograms calls = [program] := by
    rcases pass.lowers with one | ⟨none, -⟩
    · exact one
    · rw [unlowered none asking member] at lowers
      cases lowers
  have known : lowered ∈ loweredPrograms calls := List.mem_filterMap.mpr ⟨asking, member, lowers⟩
  rw [one] at known
  refine ⟨List.mem_singleton.mp known, ?_⟩
  -- A clear lowers nothing, so what failed is the call between the two of them.
  cases pass with
  | @halted _ stop halts =>
      obtain ⟨other, among, -, halted⟩ := halts.halting
      exact Or.inr ⟨stop, ⟨other, among, halted⟩, rfl⟩
  | announcement cleared =>
      rw [cleared.lowers_clear] at one
      cases one
  | lowering cleared _ _ later =>
      rcases List.mem_cons.mp member with rfl | late
      · rw [unlowered cleared.lowers_clear asking List.mem_cons_self] at lowers
        cases lowers
      · cases later with
        | @halted _ stop halts =>
            obtain ⟨other, among, -, halted⟩ := halts.halting
            exact Or.inr ⟨stop, ⟨other, List.mem_cons_of_mem _ among, halted⟩, rfl⟩
        | complete answered outcome =>
            generalize (some (.ok ()) : Option (Except Panic Unit)) = passed at answered
            cases answered with
            | halts =>
                rw [List.mem_singleton.mp late] at failed
                exact Or.inl (outcome.symm.trans failed)
            | answered asks _ closing =>
                rcases List.mem_cons.mp late with rfl | last
                · exact Or.inl (outcome.symm.trans failed)
                · rw [unlowered closing.lowers_clear asking last] at lowers
                  cases lowers

theorem Begun.lowering_failed {ended : Option (Except Fault Unit)}
    (begun : Begun settings caller pair index program params calls ended) :
    ∀ asking ∈ calls, ∀ lowered, asking.request.program? = some lowered →
      asking.outcome = some (.error (.failure failure)) →
      lowered = program ∧ (ended = some (.error (.inside (.failure failure))) ∨
        ∃ stop : Option Panic, (∃ other ∈ calls, other.Halts stop) ∧
          ended = stop.map fun panic => .error (.inside (.panic panic))) := by
  obtain ⟨opens, -, -, isolated⟩ := begun
  intro asking member lowered lowers failed
  rcases List.mem_cons.mp member with rfl | member
  · rw [opens.request] at lowers
    cases lowers
  · cases isolated with
    | unspawned => cases member
    | spawned _ _ pass =>
        obtain ⟨same, rfl | ⟨stop, ⟨other, among, halts⟩, rfl⟩⟩ :=
          pass.lowering_failed asking member lowered lowers failed
        · exact ⟨same, Or.inl rfl⟩
        · refine ⟨same, Or.inr ⟨stop, ⟨other, List.mem_cons_of_mem _ among, halts⟩, ?_⟩⟩
          cases stop <;> rfl

/-- A lowering that fails is the fault of its batch, as long as the driving thread gets its answers. -/
theorem Turns.lowering_failed {work : List (Program × Params)} {ended : Option (Except Exit Unit)}
    (turns : Turns settings forgets caller pair index work calls ended)
    (outside : caller.inPass = false) (answered : ∀ asking ∈ calls, asking.outcome ≠ none)
    (calm : ∀ asking ∈ calls, asking.thread.inPass = false → ∀ panic,
      asking.outcome ≠ some (.error (.panic panic))) :
    ∀ asking ∈ calls, ∀ lowered, asking.request.program? = some lowered →
      asking.outcome = some (.error (.failure failure)) →
      ∃ position cause, (work.map Prod.fst)[position]? = some lowered ∧
        ended = some (.error (.failure ((Fault.inside cause).failure (index + position)))) ∧
        (cause = .failure failure ∨ ∃ panic, cause = .panic panic ∧
          ∃ other ∈ calls, other.outcome = some (.error (.panic panic))) := by
  have steady : ∀ asking ∈ calls, asking.thread.Same caller → ∀ stop, ¬ asking.Halts stop := by
    intro asking member same stop halts
    cases halts with
    | never unanswered => exact answered asking member unanswered
    | panicked panicked => exact calm asking member (same.inPass.trans outside) _ panicked
  intro asking member lowered lowers failed
  -- On the turns: a call of the first pass ends the loop there, a later one is one position further on.
  induction turns with
  | done => cases member
  | opening opens halts => exact absurd halts (steady _ List.mem_cons_self opens.thread _)
  | stuck begun =>
      obtain ⟨other, among, unanswered⟩ := begun.unanswered
      exact absurd unanswered (answered other among)
  | halted _ order =>
      obtain ⟨other, among, same, halts⟩ := order.halting
      exact absurd halts (steady other (List.mem_append_right _ among) same _)
  | failed begun reset =>
      rcases List.mem_append.mp member with member | member
      · obtain ⟨rfl, fault | ⟨stop, ⟨other, among, halts⟩, fault⟩⟩ :=
          begun.lowering_failed asking member lowered lowers failed
        · cases fault
          exact ⟨0, _, rfl, rfl, Or.inl rfl⟩
        · cases stop with
          | none => cases fault
          | some panic =>
              cases fault
              exact ⟨0, _, rfl, rfl, Or.inr ⟨panic, rfl, other, List.mem_append_left _ among,
                halts.outcome⟩⟩
      · rw [unlowered reset.lowers_reset asking member] at lowers
        cases lowers
  | @next index _ _ _ calls resets later _ begun reset _ ih =>
      have inside : ∀ asking ∈ later, asking ∈ calls ++ (resets ++ later) := fun _ member =>
        List.mem_append_right _ (List.mem_append_right _ member)
      rcases List.mem_append.mp member with member | member
      · obtain ⟨-, fault | ⟨stop, -, fault⟩⟩ := begun.lowering_failed asking member lowered lowers failed
        · cases fault
        · cases stop <;> cases fault
      rcases List.mem_append.mp member with member | member
      · rw [unlowered reset.lowers_reset asking member] at lowers
        cases lowers
      · obtain ⟨position, cause, found, ended, causes⟩ := ih
          (fun asking member => answered asking (inside asking member))
          (fun asking member => calm asking (inside asking member))
          (fun asking member => steady asking (inside asking member)) member
        refine ⟨position + 1, cause, found, ?_, ?_⟩
        · rw [ended]
          congr 4
          omega
        · rcases causes with same | ⟨panic, same, other, among, panicked⟩
          · exact Or.inl same
          · exact Or.inr ⟨panic, same, other, inside other among, panicked⟩

end Failed

namespace Batch

/-- A batch runs, and calls its pipeline, as if its passes did not start the extractions whose answers
they ignore. Each of these is refused without asking anyone, and a pass that returns such a refusal
fails its program. -/
theorem nested_unseen (batch : Batch.{u} σ) {plain : Pipeline σ batch.Program batch.Params}
    (trimmed : batch.extractor.pipeline.Trimmed.{u, u, w} plain) (t : Thread) (world : World σ) :
    (∀ (nested : Batch.{w} σ) (thread : Thread) (found : World σ), thread.inPass = true →
      nested.report.run.exec thread found =
          some (.error (.failure nested.nestedFailure), thread, found) ∧
        nested.nestedFailure.kind =
          (if nested.programs.length = nested.params.length then .alreadyTracing
            else .invalidInput) ∧
        nested.askings thread found = []) ∧
    batch.report.run.exec t world = (batch.withPipeline plain).report.run.exec t world ∧
    batch.calls t world = (batch.withPipeline plain).calls t world ∧
    (world.Heard → (∀ asking ∈ batch.calls t world, asking.outcome ≠ none) →
      (∀ asking ∈ batch.calls t world, asking.thread.inPass = false → ∀ panic,
        asking.outcome ≠ some (.error (.panic panic))) →
      ∀ nested : Batch.{w} σ, ∀ asking ∈ batch.calls t world, ∀ program,
        asking.request.program? = some program →
        asking.outcome = some (.error (.failure nested.nestedFailure)) →
        ∃ index failure, batch.programs[index]? = some program ∧
          (batch.report.run.exec t world).map Prod.fst = some (.error (.failure failure)) ∧
          failure.kind = .loweringFailure ∧ failure.program = some index ∧
          ((∀ other ∈ batch.calls t world, ∀ panic,
              other.outcome ≠ some (.error (.panic panic))) →
            failure.message = "lowering failed (" ++ nested.nestedFailure.kind.name ++ "): " ++
              nested.nestedFailure.message)) := by
  obtain ⟨askings, ran⟩ := report_trimmed trimmed t world
  refine ⟨?_, ran, congrArg (List.filter _) askings, ?_⟩
  · intro nested thread found inside
    exact ⟨nested.exec_report_nested inside found, nested.nestedFailure_kind,
      nested.askings_nested inside found⟩
  · intro heard answered calm nested asking called program lowers failed
    obtain ⟨pair, caller, resolved, traces⟩ :
        ∃ pair caller resolved, batch.Traces t world pair caller resolved := by
      by_contra untraced
      simp only [not_exists] at untraced
      rw [calls_untraced untraced] at called
      cases called
    obtain ⟨index, cause, found, ended, causes⟩ :=
      traces.turns.lowering_failed traces.outside answered calm asking called program lowers failed
    obtain ⟨⟨_, thread, last⟩, lowered, rfl⟩ := Option.map_eq_some_iff.mp ended
    rw [List.map_fst_zip (Nat.le_of_eq traces.paired)] at found
    refine ⟨index, _, found, traces.exec_error lowered heard, ?_⟩
    rw [Nat.zero_add]
    rcases causes with rfl | ⟨panic, rfl, other, among, panicked⟩
    · rw [nestedFailure]
      split
      · exact ⟨rfl, rfl, fun _ => rfl⟩
      · exact ⟨rfl, rfl, fun _ => rfl⟩
    · exact ⟨rfl, rfl, fun never => absurd panicked (never other among panic)⟩

end Batch

/-- Starts the other batch first. A program that is none returns what that answers; any other is an
invocation that is dispatched, whatever that answers. -/
def Pipeline.nesting (other : Batch.{u} σ) : Pipeline σ (Option Invocation) Unit where
  lower program _ _ _ := match program with
    | none => discard other.report
    | some invocation => do
        discard (Routine.catchFailure other.report)
        discard (.dispatch invocation)
  clearFunctions := .ret (.ok ())
  clearFallback := none

def Pipeline.unnested (other : Batch.{u} σ) : Pipeline σ (Option Invocation) Unit :=
  { Pipeline.nesting other with
    lower := fun program _ _ _ => match program with
      | none => discard other.report
      | some invocation => discard (.dispatch invocation) }

theorem Pipeline.nesting_trimmed (other : Batch.{u} σ) :
    (Pipeline.nesting other).Trimmed.{0, 0, u} (Pipeline.unnested other) where
  lower program _ _ _ := match program with
    | none => .refl _
    | some _ => Routine.trimmed_ignored other (.refl _)
  clearFunctions _ := .refl _
  clearFallback := rfl

def Batch.nesting (other : Batch.{u} σ) : Batch.{0} σ where
  extractor := { pipeline := .nesting other }
  programs := [some ⟨"dense", ⟨[]⟩⟩, none]
  params := [(), ()]
  filter := none
  target := default
  host := none

theorem Batch.nested_unseen_nesting :
    let inner : Batch.{0} Unit := .replay "global" [[⟨"dense", ⟨[]⟩⟩]] none
    let batch := nesting inner
    batch.report.run.exec {} (.initial ()) =
        (batch.withPipeline (.unnested inner)).report.run.exec {} (.initial ()) ∧
      (batch.calls {} (.initial ())).map Asking.outcome =
        [some (.ok ()), some (.ok ()), some (.ok ()), some (.ok ()), some (.ok ()), some (.ok ()),
          some (.ok ()), some (.error (.failure inner.nestedFailure)), some (.ok ()),
          some (.ok ())] ∧
      ∃ index failure, batch.programs[index]? = some none ∧
        (batch.report.run.exec {} (.initial ())).map Prod.fst = some (.error (.failure failure)) ∧
        failure.kind = .loweringFailure ∧ failure.program = some index ∧
        failure.message = "lowering failed (AlreadyTracing): " ++
          "task extraction started from inside a traced lowering pass" := by
  intro inner batch
  obtain ⟨-, ran, -, returned⟩ :=
    nested_unseen batch (Pipeline.nesting_trimmed inner) {} (.initial ())
  have outcomes : (batch.calls {} (.initial ())).map Asking.outcome =
      [some (.ok ()), some (.ok ()), some (.ok ()), some (.ok ()), some (.ok ()), some (.ok ()),
        some (.ok ()), some (.error (.failure inner.nestedFailure)), some (.ok ()),
        some (.ok ())] := by decide +kernel
  -- No call is left unanswered and none panics, so what the eighth returns decides.
  have calm : ∀ asking ∈ batch.calls {} (.initial ()), ∀ panic,
      asking.outcome ≠ some (.error (.panic panic)) := by
    intro asking member panic panicked
    have listed := List.mem_map_of_mem (f := Asking.outcome) member
    rw [outcomes, panicked] at listed
    simp at listed
  have answered : ∀ asking ∈ batch.calls {} (.initial ()), asking.outcome ≠ none := by
    intro asking member never
    have listed := List.mem_map_of_mem (f := Asking.outcome) member
    rw [outcomes, never] at listed
    simp at listed
  have eighth : (batch.calls {} (.initial ()))[7]?.map (fun asking => asking.request.program?) =
      some (some none) := by decide +kernel
  obtain ⟨asking, here, lowers⟩ := Option.map_eq_some_iff.mp eighth
  have failed : asking.outcome = some (.error (.failure inner.nestedFailure)) := by
    have listed := List.getElem?_map (f := Asking.outcome) (l := batch.calls {} (.initial ())) (i := 7)
    rw [outcomes, here] at listed
    exact (Option.some.inj listed).symm
  obtain ⟨index, failure, found, ended, kind, program, message⟩ :=
    returned (fun _ => rfl) answered (fun asking member _ => calm asking member) inner asking
      (List.mem_of_getElem? here) none lowers failed
  exact ⟨ran, outcomes, index, failure, found, ended, kind, program, message calm⟩

end TuningTasks
