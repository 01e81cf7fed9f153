import TuningTasks.Proofs.Session

/-!
Batches refused before their first program is started. There are four reasons. Three of them leave
every thing as the resolver left it; the fourth, an active scope, is noticed after the ledger of the
batch has been emptied, and so costs the records of a scope that shares this ledger.
-/
namespace TuningTasks

universe u
variable {σ : Type}

inductive Refusal
  | unpaired
  | insidePass
  | unresolved
  | scopeActive
deriving DecidableEq

namespace Batch

/-- The batch is refused for the reason, with the exit, where its resolver has left the world so. The
resolver is not asked for the first two reasons. -/
inductive Refused (batch : Batch.{u} σ) (t : Thread) (world : World σ) :
    Refusal → Exit → Thread → World σ → Prop
  | unpaired (differ : batch.programs.length ≠ batch.params.length) :
      Refused batch t world .unpaired
        (.failure (.unpaired batch.programs.length batch.params.length)) t world
  | insidePass (paired : batch.programs.length = batch.params.length) (inside : t.inPass = true) :
      Refused batch t world .insidePass (.failure .insidePass) t world
  | unresolved (paired : batch.programs.length = batch.params.length) (outside : t.inPass = false)
      {exit : Exit} {thread : Thread} {resolved : World σ}
      (fails : batch.resolving.run.exec t world = some (.error exit, thread, resolved)) :
      Refused batch t world .unresolved exit thread resolved
  | scopeActive (paired : batch.programs.length = batch.params.length) (outside : t.inPass = false)
      {pair : TargetPair} {thread : Thread} {resolved : World σ} {active : Hook σ}
      (resolves : batch.resolving.run.exec t world = some (.ok pair, thread, resolved))
      (free : resolved.session = none)
      (sound : (resolved.ledgers batch.extractor.ledger).poisoned = false)
      (busy : resolved.hook = { value := some active }) :
      Refused batch t world .scopeActive (.failure .scopeActive) thread resolved

def withPipeline (batch : Batch.{u} σ) (pipeline : Pipeline σ batch.Program batch.Params) :
    Batch.{u} σ :=
  { batch with extractor := { batch.extractor with pipeline } }

def refusedWorld (batch : Batch.{u} σ) (reason : Refusal) (resolved : World σ) : World σ :=
  if reason = .scopeActive then resolved.emptied batch.extractor.ledger batch.filter else resolved

variable {batch : Batch.{u} σ} {t thread : Thread} {world resolved : World σ} {reason : Refusal}
  {exit : Exit}

/-- Neither the answer nor what is left depends on the pipeline, of which nothing is called. -/
theorem Refused.exec_report (refused : batch.Refused t world reason exit thread resolved)
    (pipeline : Pipeline σ batch.Program batch.Params) :
    (batch.withPipeline pipeline).report.run.exec t world =
      some (.error exit, thread, batch.refusedWorld reason resolved) := by
  have asked : (batch.withPipeline pipeline).resolving = batch.resolving := rfl
  cases refused with
  | unpaired differ => exact Extractor.exec_report_unpaired _ _ _ _ _ _ differ t world
  | insidePass paired inside => exact Extractor.exec_report_inside _ _ _ _ _ _ paired inside world
  | unresolved paired outside fails =>
      rw [(batch.withPipeline pipeline).exec_report paired outside, asked, fails]
      rfl
  | scopeActive paired outside resolves free sound busy =>
      -- The lock is taken and the ledger emptied before the scope is refused.
      have kept : (resolved.ledgers (batch.withPipeline pipeline).extractor.ledger).poisoned = false :=
        sound
      rw [(batch.withPipeline pipeline).exec_report paired outside, asked, resolves, Option.bind_some,
        Routine.onward, Extractor.resolved, Routine.exec_bind,
        Extractor.exec_traced_active _ _ _ free kept busy]
      rfl

theorem emptied_eq_iff (name : String) (filter : Option Filter) :
    world.emptied name filter = world ↔ world.ledgers name = { value := .reset filter } := by
  constructor
  · intro same
    rw [← same]
    simp [World.emptied, World.setLedger]
  · intro same
    rw [World.emptied, ← same, World.setLedger_self]

/-- A refused batch leaves everything as it was, except where a scope is active and the ledger of the
batch still holds something or has another filter. -/
theorem Refused.unchanged_iff (refused : batch.Refused t world reason exit thread resolved)
    (pipeline : Pipeline σ batch.Program batch.Params) :
    ∃ last, (batch.withPipeline pipeline).report.run.exec t world =
        some (.error exit, thread, last) ∧
      { last with ledgers := resolved.ledgers } = resolved ∧
      (∀ other, other ≠ batch.extractor.ledger → last.ledgers other = resolved.ledgers other) ∧
      (last = resolved ↔ reason ≠ .scopeActive ∨
        resolved.ledgers batch.extractor.ledger = { value := .reset batch.filter }) := by
  refine ⟨_, refused.exec_report pipeline, ?_⟩
  rw [refusedWorld]
  -- Only the late refusal has touched anything, and it has touched one ledger.
  by_cases late : reason = .scopeActive
  · rw [if_pos late]
    refine ⟨rfl, fun other differ => World.setLedger_other resolved differ _, ?_⟩
    rw [emptied_eq_iff]
    simp [late]
  · rw [if_neg late]
    exact ⟨rfl, fun _ _ => rfl, by simp [late]⟩

theorem refused_changes_own_scope :
    let batch : Batch Unit := .replay "global" [] none
    let world : World Unit := ((World.initial ()).setLedger "global"
      { value := .after none [⟨"dense", ⟨[]⟩⟩] }).installed {} (.ledger "global")
    ∃ last, batch.report.run.exec {} world = some (.error (.failure .scopeActive), {}, last) ∧
      last.hook = world.hook ∧ last ≠ world := by
  intro batch world
  have refused : batch.Refused {} world .scopeActive (.failure .scopeActive) {} world :=
    .scopeActive rfl rfl rfl rfl rfl rfl
  obtain ⟨last, ended, rest, -, same⟩ := refused.unchanged_iff batch.extractor.pipeline
  have hook : last.hook = world.hook := by rw [← rest]
  have held : world.ledgers "global" ≠ { value := .reset none } := by
    intro empty
    have length := congrArg (fun ledger => ledger.value.ordered.length) empty
    revert length
    decide +kernel
  refine ⟨last, ended, hook, ?_⟩
  intro unchanged
  exact held ((same.mp unchanged).resolve_left (not_not_intro rfl))

/-- Within a scope of the same ledger the batch is refused, and what the scope has traced is gone. -/
theorem refused_loses_records :
    let batch : Batch Unit := .replay "global" [] none
    let script : Routine Unit (List Invocation × Bool × List Invocation) := do
      .attempt (.install (.ledger "global"))
      discard (.dispatch ⟨"dense", ⟨[]⟩⟩)
      let before ← .failing (.readLedger "global")
      let answer ← .catchFailure batch.report
      let after ← .failing (.readLedger "global")
      return (before.ordered, answer.isOk, after.ordered)
    (script.run.exec {} (.initial ())).bind (fun ended => ended.1.toOption) =
      some ([⟨"dense", ⟨[]⟩⟩], false, []) := by
  decide +kernel

end Batch

end TuningTasks
