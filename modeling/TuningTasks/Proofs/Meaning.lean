import TuningTasks.Proofs.Session

/-!
What a batch means. Where nothing is traced and nothing stands in the way, its answer is what becomes of
the first occurrences of the admitted invocations that its programs dispatch, whatever the ledger held
before (`Batch.report_meaning`).
-/
namespace TuningTasks

universe u v
variable {σ : Type} {Program : Type u} {Params : Type v}

def Materialized.report (made : Materialized) (programs invocations : Nat) : Report where
  tasks := made.tasks
  skipped := made.skipped
  programs := programs
  invocations := invocations

theorem Factory.materialize_count {factory : Factory σ} {settings : Settings} {target : Target}
    {calls : List Invocation} {t thread : Thread} {world last : World σ} {made : Materialized}
    (ended : (factory.materialize settings target calls).run.exec t world =
      some (.ok made, thread, last)) :
    calls.length = made.tasks.length + made.skipped.length := by
  induction calls generalizing t world made with
  | nil =>
      cases ended
      rfl
  | cons call rest ih =>
      rw [materialize] at ended
      obtain ⟨built, middle, between, -, ended⟩ := Routine.bind_ok ended
      cases built with
      | ok task =>
          obtain ⟨later, _, _, ran, ended⟩ := Routine.bind_ok ended
          cases ended
          have count := ih ran
          simp only [List.length_cons]
          omega
      | error failure =>
          simp only at ended
          split at ended
          · obtain ⟨_, _, _, -, ended⟩ := Routine.bind_ok ended
            obtain ⟨later, _, _, ran, ended⟩ := Routine.bind_ok ended
            cases ended
            have count := ih ran
            simp only [List.length_cons]
            omega
          · cases ended

/-- But for one more event, a conclusion ends as the building of its tasks does. -/
theorem Extractor.exec_concluded (extractor : Extractor σ Program Params) (programs : Nat)
    (pair : TargetPair) (calls : List Invocation) (t : Thread) {world : World σ}
    (silent : world.Silent) :
    ((extractor.concluded programs pair calls).run.exec t world).map Prod.fst =
      ((extractor.factory.materialize extractor.settings pair.target calls).run.exec t world).map
        fun ended => ended.1.map fun made => made.report programs calls.length := by
  rw [concluded, Routine.exec_bind]
  cases ran : (extractor.factory.materialize extractor.settings pair.target calls).run.exec t world with
  | none => rfl
  | some ended =>
      obtain ⟨outcome, thread, last⟩ := ended
      cases outcome with
      | error exit => rfl
      | ok made =>
          have quiet : last.Silent := Code.exec_silent ran silent
          simp only [Option.bind_some, Routine.onward]
          rw [Routine.exec_bind, Routine.exec_emit quiet]
          rfl

namespace Batch

/-- The batch is called outside every pass while nothing is traced and no lock is held or poisoned. -/
structure Clear (batch : Batch.{u} σ) (t : Thread) (world : World σ) : Prop where
  paired : batch.programs.length = batch.params.length
  outside : t.inPass = false
  silent : world.Silent
  idle : world.hook = { value := none }
  free : world.session = none
  sound : (world.ledgers batch.extractor.ledger).poisoned = false

variable (batch : Batch.{u} σ)

def lowered (pair : TargetPair) (t : Thread) (resolved : World σ) :
    Option (Except Exit Unit × Thread × World σ) :=
  (batch.passes pair).run.exec (t.hushed batch.extractor.settings.suppressLogs)
    (batch.extractor.opened batch.filter t resolved)

def lowering (pair : TargetPair) (t : Thread) (resolved : World σ) : List (Moment σ) :=
  (batch.passes pair).run.history (t.hushed batch.extractor.settings.suppressLogs)
    (batch.extractor.opened batch.filter t resolved)

/-- The admitted invocations that the programs dispatch, each once. -/
def found (pair : TargetPair) (t : Thread) (resolved : World σ) : List Invocation :=
  firstAdmitted batch.filter (dispatched (batch.lowering pair t resolved))

variable {batch} {t : Thread} {world resolved : World σ} {pair : TargetPair}

theorem lowered_ledger (silent : resolved.Silent) (tidy : batch.extractor.pipeline.Tidy true)
    (spared : ∀ moment ∈ batch.lowering pair t resolved,
      moment.action.spares batch.extractor.ledger = true)
    {outcome : Except Exit Unit} {thread : Thread} {last : World σ}
    (ended : batch.lowered pair t resolved = some (outcome, thread, last)) :
    last.ledgers batch.extractor.ledger =
      { value := .after batch.filter (dispatched (batch.lowering pair t resolved)) } := by
  have quiet := batch.extractor.opened_silent batch.filter t silent
  have scope := batch.extractor.begun_hook t
    ((resolved.locked t.caller).emptied batch.extractor.ledger batch.filter)
  have passes := tidy.passes batch.extractor.settings pair 0 (batch.programs.zip batch.params)
  have balanced : (batch.passes pair).run.KeepsScopes [.ledger batch.extractor.ledger]
      (t.hushed batch.extractor.settings.suppressLogs)
      (batch.extractor.opened batch.filter t resolved) :=
    passes.keepsScopes _ quiet scope Nat.le.refl
  have asked : ∀ moment ∈ batch.lowering pair t resolved, ∀ hook call,
      moment.action.asked? = some (hook, call) → hook = .ledger batch.extractor.ledger := by
    intro moment member hook call asked
    have faithful := balanced.each (List.cons_ne_nil _ _) moment member
    exact (List.singleton_inj.mp (faithful.asked hook call asked)).symm
  have follows := Code.follows_history ended
  exact follows.ledger_after quiet spared asked (batch.extractor.opened_ledger batch.filter t resolved)

/-- The answer of a batch whose programs are all lowered. `resolved` is the world that the resolver
leaves, and the tasks are built in the world that is left when the session is over. -/
theorem report_meaning (clear : batch.Clear t world) (quiet : batch.resolving.run.Tidy true)
    {thread : Thread} (resolves : batch.resolving.run.exec t world = some (.ok pair, thread, resolved))
    (tidy : batch.extractor.pipeline.Tidy true)
    (spared : ∀ moment ∈ batch.lowering pair t resolved,
      moment.action.spares batch.extractor.ledger = true)
    {inner : Thread} {last : World σ}
    (passed : batch.lowered pair t resolved = some (.ok (), inner, last)) :
    (batch.report.run.exec t world).map Prod.fst =
        ((batch.extractor.factory.materialize batch.extractor.settings pair.target
          (batch.found pair t resolved)).run.exec t (batch.extractor.closed t last)).map
          (fun ended => ended.1.map fun made =>
            made.report batch.programs.length (batch.found pair t resolved).length) ∧
      ∀ made thread' world', (batch.extractor.factory.materialize batch.extractor.settings
          pair.target (batch.found pair t resolved)).run.exec t (batch.extractor.closed t last) =
            some (.ok made, thread', world') →
        (batch.found pair t resolved).length = made.tasks.length + made.skipped.length := by
  -- What was clear when the resolver was asked is clear after its answer.
  have restored := quiet.restores clear.silent resolves
  have silent : resolved.Silent := Code.exec_silent resolves clear.silent
  have free : resolved.session = none := restored.session.trans clear.free
  have idle : resolved.hook = { value := none } := restored.hook.trans clear.idle
  have sound : (resolved.ledgers batch.extractor.ledger).poisoned = false :=
    (restored.poisoned _).trans clear.sound
  have ledger := lowered_ledger silent tidy spared passed
  have traced : (batch.extractor.traced pair (batch.programs.zip batch.params) batch.filter).run.exec t
      resolved = some (.ok (batch.found pair t resolved), t, batch.extractor.closed t last) := by
    rw [Extractor.exec_traced pair _ batch.filter free sound tidy silent idle]
    change Option.map _ (batch.lowered pair t resolved) = _
    rw [passed, Option.map_some, ledger]
    rfl
  have left : (batch.extractor.closed t last).Silent := by
    intro past event
    have same := (Code.exec_frame traced).1
    rw [same]
    exact silent past event
  constructor
  · rw [batch.exec_report clear.paired clear.outside, resolves, restored.thread, Option.bind_some,
      Routine.onward, Extractor.resolved, Routine.exec_bind, traced]
    exact batch.extractor.exec_concluded batch.programs.length pair _ t left
  · intro made thread' world' ended
    exact Factory.materialize_count ended

theorem report_meaning_replay :
    let batch : Batch Unit := .replay "global"
      [[⟨"dense", ⟨[]⟩⟩, ⟨"conv2d_nchw", ⟨[]⟩⟩], [⟨"dense", ⟨[]⟩⟩, ⟨"batch_matmul", ⟨[]⟩⟩]]
      (some (.ofList ["dense", "batch_matmul"]))
    ∃ report, (batch.report.run.exec {} (.initial ())).map Prod.fst = some (.ok report) ∧
      report.tasks.map Task.name = ["dense", "batch_matmul"] ∧ report.invocations = 2 := by
  intro batch
  have tidy : batch.extractor.Tidy true := replay_tidy _ _ _
  have clear : batch.Clear {} (.initial ()) := ⟨rfl, rfl, fun _ _ => rfl, rfl, rfl, rfl⟩
  let pair : TargetPair := ⟨default, none⟩
  have resolves : batch.resolving.run.exec {} (.initial ()) = some (.ok pair, {}, .initial ()) := rfl
  have spared : ∀ moment ∈ batch.lowering pair {} (.initial ()),
      moment.action.spares batch.extractor.ledger = true :=
    List.all_eq_true.mp (by decide +kernel)
  have lowered : (batch.lowered pair {} (.initial ())).any (fun ended => ended.1.isOk) = true := by
    decide +kernel
  obtain ⟨⟨outcome, inner, last⟩, passed, ok⟩ := (Option.any_eq_true _ _).mp lowered
  obtain rfl : outcome = .ok () := by
    cases outcome with
    | error exit => cases ok
    | ok done => rfl
  have found : batch.found pair {} (.initial ()) =
      [⟨"dense", ⟨[]⟩⟩, ⟨"batch_matmul", ⟨[]⟩⟩] := by decide +kernel
  have answer := (report_meaning clear (tidy.resolver _ _) resolves tidy.pipeline spared passed).1
  rw [found] at answer
  exact ⟨_, answer, rfl, rfl⟩

end Batch

end TuningTasks
