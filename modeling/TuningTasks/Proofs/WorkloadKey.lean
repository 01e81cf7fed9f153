import TuningTasks.Proofs.Amid
import TuningTasks.Proofs.JsonForms
import TuningTasks.Proofs.LedgerLaw

/-!
Workload keys. The key of a task is a text from which its operator and its arguments can be read back,
so two tasks share a key exactly if they share both. A ledger lists no invocation twice, so the tasks
that are made of its invocations as they stand have different keys (`Batch.workloadKeys_identify`).
-/
namespace TuningTasks

universe u v
variable {σ : Type} {Program : Type u} {Params : Type v}

open Json Code Routine

theorem Json.Reads.unique {α : Type} {read : Nat → Json → Option α} {json : Json} {left right : α}
    (first : Reads read json left) (second : Reads read json right) : left = right := by
  have enough : ∀ value : α, within json.depth json.depth value = some value :=
    fun _ => if_pos Nat.le.refl
  have same := (first json.depth).symm.trans (second json.depth)
  rw [enough, enough] at same
  exact Option.some.inj same

theorem Signature.toJson_injective {left right : Signature} (same : left.toJson = right.toJson) :
    left = right :=
  (Signature.reads left).unique (same ▸ Signature.reads right)

namespace Task

theorem read_workloadKey (task : Task) :
    Json.read? task.workloadKey = some (array [Json.text task.name, task.args.toJson]) :=
  read_write _

theorem workloadKey_eq_iff (left right : Task) :
    left.workloadKey = right.workloadKey ↔ left.name = right.name ∧ left.args = right.args := by
  constructor
  · intro same
    have forms := write_injective same
    simp only [array.injEq, List.cons.injEq, Json.text, string.injEq, Option.some.injEq] at forms
    exact ⟨forms.1, Signature.toJson_injective forms.2.1⟩
  · rintro ⟨name, args⟩
    rw [workloadKey, workloadKey, name, args]

end Task

/-! ### Batches -/

theorem Factory.materialize_passthrough {settings : Settings} {target : Target}
    {calls : List Invocation} {t thread : Thread} {world last : World σ} {made : Materialized}
    (runs : (Factory.passthrough.materialize settings target calls).run.RunsAmid t world (.ok made)
      thread last) :
    made.tasks = calls.map fun call => Task.ofRequest (call.request settings target) := by
  induction calls generalizing t thread world last made with
  | nil =>
      rw [amid_pure runs]
      rfl
  | cons call rest ih =>
      rw [materialize] at runs
      obtain ⟨built, _, _, building, runs⟩ := amid_bind_ok runs
      have task : built = .ok (Task.ofRequest (call.request settings target)) := amid_pure building
      rw [task] at runs
      obtain ⟨later, _, _, following, runs⟩ := amid_bind_ok runs
      rw [amid_pure runs, ih following]
      rfl

theorem World.readLedger_ok {world : World σ} {name : String} {ledger : Ledger}
    (read : world.readLedger name = .ok ledger) : world.ledgers name = { value := ledger } := by
  simp only [readLedger] at read
  split at read
  · cases read
  · cases read
    rw [← Bool.eq_false_iff.mpr ‹_›]

theorem World.resetLedger_ok {world : World σ} {name : String} {filter : Option Filter}
    (reset : (world.resetLedger name filter).1 = .ok ()) :
    (world.resetLedger name filter).2.ledgers name = { value := .reset filter } := by
  unfold resetLedger at reset ⊢
  split at reset
  · cases reset
  · rw [if_neg ‹_›]
    exact if_pos rfl

namespace Extractor

variable {extractor : Extractor σ Program Params} {t thread : Thread} {world last : World σ}

/-- Whatever other threads do to the ledger, what is read from it in the end has no duplicates. -/
theorem traced_nodup {pair : TargetPair} {work : List (Program × Params)} {filter : Option Filter}
    {calls : List Invocation}
    (runs : (extractor.traced pair work filter).run.RunsAmid t world (.ok calls) thread last) :
    calls.Nodup := by
  rw [traced_eq] at runs
  obtain ⟨_, _, _, _, runs⟩ := amid_exclusively runs
  rw [tracing] at runs
  obtain ⟨_, _, _, emptying, runs⟩ := amid_bind_ok runs
  obtain ⟨_, _, _, passing, runs⟩ := amid_bind_ok runs
  obtain ⟨ledger, _, _, reading, runs⟩ := amid_bind_ok runs
  obtain ⟨found, _, _, -, emptied, before⟩ := amid_failing emptying
  obtain ⟨history, between⟩ := passing.follows
  obtain ⟨shown, _, _, after, answered, -⟩ := amid_failing reading
  have start : (Epoch.mk filter []).Holds extractor.ledger
      (found.resetLedger extractor.ledger filter).2 := ⟨World.resetLedger_ok emptied, rfl⟩
  have cell : shown.ledgers extractor.ledger = { value := ledger } := World.readLedger_ok answered
  have sound : (shown.ledgers extractor.ledger).poisoned = false := by rw [cell]
  have holds := start.history (before.append (between.append after)) sound
  have listed : ledger = _ := congrArg Guarded.value (cell.symm.trans holds.cell)
  rw [amid_pure runs, listed]
  exact firstAdmitted_nodup _ _

end Extractor

namespace Batch

theorem tasks_of_passthrough {batch : Batch.{u} σ} (plain : batch.extractor.factory = .passthrough)
    {t thread : Thread} {world last : World σ} {report : Report}
    (runs : batch.report.run.RunsAmid t world (.ok report) thread last) :
    ∃ calls : List Invocation, calls.Nodup ∧ ∃ target, report.tasks = calls.map fun call =>
      Task.ofRequest (call.request batch.extractor.settings target) := by
  rw [Batch.report, Extractor.report_eq] at runs
  split at runs
  · exact absurd runs amid_fail
  · obtain ⟨found, _, _, -, runs⟩ := amid_bind_ok runs
    split at runs
    · exact absurd runs amid_fail
    · obtain ⟨pair, _, _, -, runs⟩ := amid_bind_ok runs
      obtain ⟨calls, _, _, tracing, runs⟩ := amid_bind_ok runs
      obtain ⟨made, _, _, building, runs⟩ := amid_bind_ok runs
      obtain ⟨_, _, _, -, runs⟩ := amid_bind_ok runs
      rw [plain] at building
      rw [amid_pure runs]
      exact ⟨calls, Extractor.traced_nodup tracing, pair.target,
        Factory.materialize_passthrough building⟩

/-- Every task has its key, and keys tell tasks apart by operator and arguments alone, floating point
arguments by their bits; the tasks of a batch have different keys, whatever other threads did meanwhile. -/
theorem workloadKeys_identify :
    (∀ task : Task,
      Json.read? task.workloadKey = some (array [Json.text task.name, task.args.toJson])) ∧
    (∀ left right : Task,
      left.workloadKey = right.workloadKey ↔ left.name = right.name ∧ left.args = right.args) ∧
    ∀ {σ : Type} (batch : Batch.{u} σ), batch.extractor.factory = .passthrough →
      ∀ {t thread : Thread} {world last : World σ} {report : Report},
        batch.report.run.RunsAmid t world (.ok report) thread last →
          (report.tasks.map Task.workloadKey).Nodup := by
  refine ⟨Task.read_workloadKey, Task.workloadKey_eq_iff, ?_⟩
  intro σ batch plain t thread world last report runs
  obtain ⟨calls, distinct, target, tasks⟩ := tasks_of_passthrough plain runs
  rw [tasks, List.map_map]
  refine List.Pairwise.map _ (fun left right differ same => differ ?_) distinct
  obtain ⟨operator, signature⟩ := (Task.workloadKey_eq_iff _ _).mp same
  cases left
  cases right
  cases operator
  cases signature
  rfl

theorem workloadKeys_identify_replay :
    let batch : Batch.{0} Unit := .replay "global"
      [[⟨"dense", ⟨[.float 0]⟩⟩, ⟨"dense", ⟨[.float 9223372036854775808]⟩⟩],
        [⟨"dense", ⟨[.float 0]⟩⟩]] none
    ∃ report, (batch.report.run.exec {} (.initial ())).map Prod.fst = some (.ok report) ∧
      report.tasks.map Task.name = ["dense", "dense"] ∧
      (report.tasks.map Task.workloadKey).Nodup := by
  intro batch
  have succeeds : (batch.report.run.exec {} (.initial ())).any (fun ended =>
      ended.1.toOption.any fun report => report.tasks.map Task.name = ["dense", "dense"]) = true := by
    decide +kernel
  obtain ⟨⟨outcome, thread, last⟩, ran, told⟩ := (Option.any_eq_true _ _).mp succeeds
  cases outcome with
  | error exit => cases told
  | ok report =>
      have names := of_decide_eq_true told
      exact ⟨report, congrArg (Option.map Prod.fst) ran, names,
        workloadKeys_identify.2.2 batch rfl (RunsAmid.of_exec ran)⟩

end Batch

end TuningTasks
