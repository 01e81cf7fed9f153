import TuningTasks.Proofs.BrokenLedger
import TuningTasks.Proofs.Faults

/-!
A panic while a pass records an invocation, and how far it reaches. It ends the pass and with it the
batch, whose ledger is lost for good; the slot, the session lock and every other ledger are as they would
be without it, and so are the answers of later batches on other ledgers (`Batch.panic_contained`).
-/
namespace TuningTasks

universe u v w
variable {σ α : Type} {Program : Type u} {Params : Type v}

/-! ### The pass that panics -/

theorem Outline.mem_history {ρ : Type w} {Reply : ρ → Type}
    (reply : (request : ρ) → Routine σ (Reply request)) (outline : Outline σ Reply α) (t : Thread) (world : World σ) :
    ∀ asking ∈ outline.askings reply t world, ∀ moment ∈
      (reply asking.request).run.history asking.thread asking.world,
        moment ∈ (outline.answered reply).history t world := by
  induction outline generalizing t world with
  | ret value => exact fun _ none => nomatch none
  | act action next ih =>
      intro asking member moment inside
      simp only [askings, answered, Code.history] at member ⊢
      split at member
      · rename_i ready
        rw [if_pos ready]
        exact List.mem_cons_of_mem _ (ih _ _ _ asking member moment inside)
      · cases member
  | fork thread body next inner ih =>
      intro asking member moment inside
      simp only [askings, answered, Code.history] at member ⊢
      rcases List.mem_append.mp member with member | member
      · exact List.mem_append_left _ (inner _ _ asking member moment inside)
      · refine List.mem_append_right _ ?_
        rcases ran : (body.answered reply).exec { thread with caller := t.caller } world with
          _ | ⟨answer, _, after⟩
        · simp only [ran, List.not_mem_nil] at member
        · simp only [ran] at member ⊢
          exact ih _ _ _ asking member moment inside
  | ask request next ih =>
      intro asking member moment inside
      simp only [askings, answered, Code.history_bind] at member ⊢
      rcases List.mem_cons.mp member with rfl | member
      · exact List.mem_append_left _ inside
      · refine List.mem_append_right _ ?_
        rcases ran : (reply request).run.exec t world with _ | ⟨answer, thread, after⟩
        · simp only [ran, List.not_mem_nil] at member
        · simp only [ran] at member ⊢
          exact ih _ _ _ asking member moment inside

section Panics

variable {settings : Settings} {forgets : Bool} {caller thread : Thread} {pair : TargetPair}
  {index : Nat} {program : Program} {params : Params}
  {calls : List (Asking σ (@Request.Reply Program Params))} {panic : Panic}
  {asking : Asking σ (@Request.Reply Program Params)}

theorem PassCalls.panics {ended : Option (Except Exit Unit)}
    (pass : PassCalls pair thread program params calls ended) (member : asking ∈ calls)
    (panicked : asking.outcome = some (.error (.panic panic))) : ended = some (.error (.panic panic)) := by
  have stopped {stop : Option Panic}
      (halts : (stop.map .error : Option (Except Panic Unit)) = some (.error panic)) :
      (stop.map fun panic => (.error (.panic panic) : Except Exit Unit)) = some (.error (.panic panic)) := by
    cases stop <;> cases halts
    rfl
  cases pass with
  | halted halts => exact stopped (halts.panics asking member panicked)
  | announcement cleared => cases cleared.panics asking member panicked
  | lowering cleared _ _ later =>
      rcases List.mem_cons.mp member with rfl | member
      · cases cleared.panics asking List.mem_cons_self panicked
      · cases later with
        | halted halts => exact stopped (halts.panics asking member panicked)
        | complete answered => cases answered.panics asking member panicked

theorem Begun.panics {ended : Option (Except Fault Unit)}
    (begun : Begun settings caller pair index program params calls ended) (member : asking ∈ calls)
    (panicked : asking.outcome = some (.error (.panic panic))) :
    ended = some (.error (.inside (.panic panic))) ∧
      asking.thread.Same (settings.threadFor caller index) := by
  obtain ⟨opens, answered, -, isolated⟩ := begun
  rcases List.mem_cons.mp member with rfl | member
  · exact absurd panicked (answered.calm panic)
  · cases isolated with
    | unspawned => cases member
    | spawned _ _ pass =>
        rw [pass.panics member panicked]
        refine ⟨rfl, ?_⟩
        rcases pass.from asking member with asks | asks
        · exact asks.thread
        · exact asks.thread

theorem Turns.unpanicked {work : List (Program × Params)}
    (turns : Turns settings forgets caller pair index work calls (some (.ok ()))) :
    ∀ asking ∈ calls, asking.outcome ≠ some (.error (.panic panic)) := by
  generalize passed : (some (.ok ()) : Option (Except Exit Unit)) = ended at turns
  induction turns with
  | done => exact fun _ none => nomatch none
  | @opening _ _ _ _ _ stop => cases stop <;> cases passed
  | stuck | failed => cases passed
  | @halted _ _ _ _ _ _ _ stop => cases stop <;> cases passed
  | next begun order _ ih =>
      intro asking member panicked
      rcases List.mem_append.mp member with member | member
      · cases (begun.panics member panicked).1
      · rcases List.mem_append.mp member with member | member
        · cases order.panics asking member panicked
        · exact ih passed asking member panicked

/-- The first fault is the panic that came of a pass. -/
theorem FailsFirst.panicked {first : Nat} {work : List (Program × Params)} {fault : Fault}
    (fails : FailsFirst settings forgets caller pair first work calls index fault)
    (member : asking ∈ calls) (panicked : asking.outcome = some (.error (.panic panic))) :
    fault = .inside (.panic panic) ∧ asking.thread.Same (settings.threadFor caller index) := by
  obtain ⟨-, -, rfl, earlier, fails, reset⟩ := fails
  rcases List.mem_append.mp member with member | member
  · exact absurd panicked (earlier.unpanicked asking member)
  · rcases List.mem_append.mp member with member | member
    · obtain ⟨ended, thread⟩ := fails.panics member panicked
      cases ended
      exact ⟨rfl, thread⟩
    · cases reset.panics asking member panicked

end Panics

/-! ### The batch that panics -/

theorem Action.perform_broken (action : Action σ α) (t : Thread) {world : World σ}
    (broken : world.hook.poisoned = true) : (action.perform t world).2.2.hook.poisoned = true := by
  cases action with
  | install hook => simp only [perform, World.install_poisoned broken, broken]
  | uninstall =>
      simp only [perform, World.uninstall_eq]
      cases world.panicOn t .scopeExited with
      | none => exact broken
      | some panic => rfl
  | _ => exact (congrArg Guarded.poisoned (Action.perform_hook rfl t world)).trans broken

theorem Extractor.opened_grown (extractor : Extractor σ Program Params) (filter : Option Filter)
    (t : Thread) (world : World σ) :
    world.log.length ≤ (extractor.opened filter t world).log.length := by
  rw [opened, begun, World.hushed_log, World.installed, World.logged_log, List.length_append]
  exact Nat.le_add_right _ _

namespace Batch

variable {batch : Batch.{u} σ} {t caller : Thread} {world resolved : World σ} {pair : TargetPair}

theorem Traces.exec_failed (traces : batch.Traces t world pair caller resolved) {exit : Exit}
    {inner : Thread} {left : World σ}
    (lowered : batch.lowered pair caller resolved = some (.error exit, inner, left))
    (quiet : left.Quiet) :
    ∃ thread, batch.report.run.exec t world =
      some (.error exit, thread, batch.extractor.closed thread left) := by
  let thread := inner.unhushed batch.extractor.settings.suppressLogs caller.muted
  have unhushed : (left.unhushed batch.extractor.settings.suppressLogs).Quiet := by
    cases batch.extractor.settings.suppressLogs with
    | false => exact quiet
    | true => exact quiet
  have taken := unhushed.taken thread .scopeExited
  have ended : batch.tracedEnd pair caller resolved =
      some (.error exit, thread, batch.extractor.closed thread left) := by
    rw [traces.tracedEnd_eq, lowered]
    simp only [Option.map_some, Option.bind_some, Routine.leaving, World.uninstall_eq, thread, taken,
      Routine.onward]
    rfl
  refine ⟨thread, ?_⟩
  rw [exec_report batch traces.paired traces.outside, traces.resolves, Option.bind_some,
    Routine.onward, Extractor.resolved, Routine.exec_bind]
  change Option.bind (batch.tracedEnd pair caller resolved) _ = _
  rw [ended]
  rfl

/-- The call came to a panic of the sink on an invocation that it made the ledger record. -/
structure Broken (batch : Batch.{u} σ) (asking : Asking σ (@Request.Reply batch.Program batch.Params))
    (moment : Moment σ) (call : Invocation) (panic : Panic) : Prop where
  within : moment ∈ (batch.extractor.reply asking.request).run.history asking.thread asking.world
  breaks : moment.Breaks batch.extractor.ledger call panic
  unwinds : asking.outcome = some (.error (.panic panic))

theorem Broken.reported {asking : Asking σ (@Request.Reply batch.Program batch.Params)}
    {moment : Moment σ} {call : Invocation} {panic : Panic} (broken : batch.Broken asking moment call panic)
    (asked : asking ∈ batch.calls t world) : moment ∈ batch.report.run.history t world := by
  rw [← batch.routine_draft]
  exact Outline.mem_history _ _ t world asking (List.mem_filter.mp asked).1 moment broken.within

/-- How a batch that has lost its ledger to a panic leaves the process. -/
structure Contained (batch : Batch.{u} σ) (t : Thread) (world last : World σ) : Prop where
  idle : last.hook = { value := none }
  free : last.session = none
  broken : (last.ledgers batch.extractor.ledger).poisoned = true
  others : ∀ ledger, ledger ≠ batch.extractor.ledger →
    (last.ledgers ledger).poisoned = (world.ledgers ledger).poisoned
  /-- Whatever the threads of the process do from then on, the ledger refuses everything. -/
  refuses : ∀ history later, Follows last history later → later.Refuses batch.extractor.ledger
  turnsAway : ∀ history later, Follows last history later → ∀ next : Batch.{u} σ,
    next.extractor.ledger = batch.extractor.ledger → ∀ t', next.TurnedAway t' later
  /-- Had the sink never panicked, an independent batch on another ledger would answer the same. -/
  unaffected : batch.extractor.Tidy true →
    (∀ number number' size, world.refusal number' size = world.refusal number size) →
      ∀ outcome thread last', batch.report.run.exec t world.silenced = some (outcome, thread, last') →
        ∀ earlier : List (Batch.{u} σ), (∀ between ∈ earlier, between.extractor.Tidy false) →
          ∀ later : Batch.{u} σ, later.extractor.ledger ≠ batch.extractor.ledger →
            later.extractor.Independent → ∀ t',
              (((inTurn earlier).bind fun _ => later.report.run).exec t' last).map Prod.fst =
                (((inTurn earlier).bind fun _ => later.report.run).exec t' last').map Prod.fst

section Broken

variable {asking : Asking σ (@Request.Reply batch.Program batch.Params)} {moment : Moment σ}
  {call : Invocation} {panic : Panic} (traces : batch.Traces t world pair caller resolved)

include traces

theorem Traces.unpoisoned : world.hook.poisoned = false := by
  rw [← Bool.not_eq_true]
  intro broken
  let kept (world : World σ) := world.hook.poisoned = true
  have each : ∀ moment ∈ batch.resolving.run.history t world, kept moment.world → kept moment.after :=
    fun moment _ => moment.action.perform_broken moment.thread
  have still : resolved.hook.poisoned = true := (Code.follows_history traces.resolves).keeps each broken
  rw [traces.idle] at still
  cases still

theorem Traces.lowers_into (asked : asking ∈ batch.calls t world)
    (broken : batch.Broken asking moment call panic) : moment ∈ batch.lowering pair caller resolved := by
  rw [traces.calls_eq] at asked
  have inside := Outline.mem_history _ _ _ _ asking asked moment broken.within
  change moment ∈ ((batch.passesDraft pair).routine batch.extractor.reply).run.history _ _ at inside
  rw [passesDraft, Extraction.routine_passes] at inside
  exact inside

/-- A batch whose resolver gives back what it takes has started idle. The log does not panic before the
scope stands, so the resolver runs as it does with a log that never panics. -/
theorem Traces.started_idle (asked : asking ∈ batch.calls t world)
    (broken : batch.Broken asking moment call panic)
    (once : PanicsOnce (batch.report.run.history t world) moment)
    (tidy : batch.resolving.run.Tidy true) :
    world.hook = { value := none } ∧ world.session = none := by
  obtain ⟨before, reaches⟩ := Code.follows_moment moment (traces.lowers_into asked broken)
  have early : resolved.log.length ≤ moment.world.log.length :=
    Nat.le_trans (batch.extractor.opened_grown _ _ _) reaches.grown
  have within : ∀ other ∈ batch.resolving.run.history t world,
      other ∈ batch.report.run.history t world := by
    intro other member
    rw [history_report traces.paired traces.outside]
    exact List.mem_cons_of_mem _ (List.mem_append_left _ member)
  have ran := Code.exec_silenced (once.taken (Code.follows_history traces.resolves) within early)
  rw [traces.resolves] at ran
  have restored := tidy.restores world.silenced_silent ran
  exact ⟨restored.hook.symm.trans traces.idle, restored.session.symm.trans traces.free⟩

theorem Broken.contained (asked : asking ∈ batch.calls t world)
    (broken : batch.Broken asking moment call panic)
    (once : PanicsOnce (batch.report.run.history t world) moment) {exit : Exit} {thread : Thread}
    {left : World σ} (ended : batch.report.run.exec t world =
      some (.error exit, thread, batch.extractor.closed thread left)) :
    batch.Contained t world (batch.extractor.closed thread left) := by
  have follows := Code.follows_history ended
  obtain ⟨quiet, slot, lost, others⟩ := follows.broken (broken.reported asked) broken.breaks once
  have idle : (batch.extractor.closed thread left).hook = { value := none } := by
    have value : (batch.extractor.closed thread left).hook.value = none := rfl
    have poisoned := slot.trans traces.unpoisoned
    cases hook : (batch.extractor.closed thread left).hook
    rw [hook] at value poisoned
    cases value
    cases poisoned
    rfl
  refine ⟨idle, rfl, lost, others, ?_, ?_, ?_⟩
  · exact fun history later follows => World.refuses (follows.stays_broken lost)
  · intro history later follows next same t'
    exact turnedAway (same ▸ follows.stays_broken lost)
  · intro tidy granted outcome thread' last' ran earlier tidies later elsewhere independent t'
    -- Beside the broken batch stands one whose sink never panics: a later batch finds the same after both.
    have restored := (tidy_report tidy).restores world.silenced_silent ran
    obtain ⟨hook, session⟩ := traces.started_idle asked broken once (tidy.resolver _ _)
    have silent' : last'.Silent := Code.exec_silent ran world.silenced_silent
    have even : (batch.extractor.closed thread left).silenced.Even last' := by
      refine ⟨World.silenced_silent _, silent', fun number number' size => ?_⟩
      have kept := (Code.exec_frame ended).2
      rw [(Code.exec_frame ran).2]
      exact (granted number number' size).trans (congrFun (congrFun kept.symm number) size)
    have level : (batch.extractor.closed thread left).silenced.Level batch.extractor.ledger last' := by
      refine ⟨?_, ?_, fun ledger other => ?_⟩
      · exact (restored.hook.trans hook).trans idle.symm
      · exact restored.session.trans session
      · exact (restored.poisoned ledger).trans (others ledger other).symm
    have same := same_answer tidies elsewhere independent t' even level rfl
    rw [quiet.exec_silenced, Option.map_map] at same
    exact same.symm

end Broken

/-- A panic of the sink on what the ledger tells it under its lock is the failure of the pass that
records, and goes no further. -/
theorem panic_contained (traces : batch.Traces t world pair caller resolved)
    {asking : Asking σ (@Request.Reply batch.Program batch.Params)} (asked : asking ∈ batch.calls t world)
    {moment : Moment σ} {call : Invocation} {panic : Panic} (broken : batch.Broken asking moment call panic)
    (once : PanicsOnce (batch.report.run.history t world) moment)
    (answered : ∀ other ∈ batch.calls t world, other.outcome ≠ none)
    (calm : ∀ other ∈ batch.calls t world, other.thread.inPass = false → ∀ panic,
      other.outcome ≠ some (.error (.panic panic))) :
    ∃ index thread last,
      asking.thread.Same (batch.extractor.settings.threadFor t index) ∧
      FailsFirst batch.extractor.settings batch.extractor.pipeline.clearFallback.isSome t pair 0
        (batch.programs.zip batch.params) (batch.calls t world) index (.inside (.panic panic)) ∧
      batch.report.run.exec t world =
        some (.error (.failure (.passPanicked index panic)), thread, last) ∧
      batch.Contained t world last := by
  have turns := traces.turns
  rcases turns.first_fault traces.outside answered calm with passed | ⟨index, fault, fails, failed⟩
  · rw [passed] at turns
    exact absurd broken.unwinds (turns.unpanicked asking asked)
  · obtain ⟨rfl, same⟩ := fails.panicked asked broken.unwinds
    obtain ⟨⟨_, inner, left⟩, lowered, rfl⟩ := Option.map_eq_some_iff.mp failed
    obtain ⟨_, _, parts⟩ := List.append_of_mem (traces.lowers_into asked broken)
    have follows : Follows _ (batch.lowering pair caller resolved) left := Code.follows_history lowered
    rw [parts] at follows
    obtain ⟨thread, ended⟩ := traces.exec_failed lowered (follows.split.2.quiet once.later)
    exact ⟨index, thread, _, same, fails, ended, broken.contained traces asked once ended⟩

def panickingOnce (call : Invocation) (client : σ) : World σ :=
  { World.initial client with
    sink := fun past event =>
      if past = [.scopeEntered] ∧ event = .recorded call then some ⟨some "log sink failed"⟩ else none }

theorem panic_contained_replay :
    let call : Invocation := ⟨"dense", ⟨[]⟩⟩
    let replay (ledger : String) : Batch.{0} Unit := .replay ledger [[call]] none
    let batch : Batch Unit := { replay "a" with
      extractor := { (replay "a").extractor with settings := { suppressLogs := false } } }
    let world := panickingOnce call ()
    ∃ thread last,
      batch.report.run.exec {} world =
        some (.error (.failure
          { kind := .loweringFailure
            message := "lowering thread panicked: log sink failed"
            program := some 0 }), thread, last) ∧
      batch.Contained {} world last ∧ (replay "a").TurnedAway {} last ∧
      ∃ report, (((inTurn [replay "a"]).bind fun _ => (replay "b").report.run).exec {} last).map Prod.fst =
        some (.ok report) ∧ report.invocations = 1 := by
  intro call replay batch world
  let panic : Panic := ⟨some "log sink failed"⟩
  have traces : batch.Traces {} world ⟨default, none⟩ {} world := ⟨rfl, rfl, rfl, rfl, rfl, rfl⟩
  have outcomes : ∀ asking ∈ batch.calls {} world, asking.outcome ≠ none ∧
      (asking.thread.inPass = false → asking.outcome = some (.ok ())) := by decide +kernel
  have found : ∃ asking ∈ batch.calls {} world,
      ∃ moment ∈ (batch.extractor.reply asking.request).run.history asking.thread asking.world,
        moment.action.submitted? "a" = some call ∧
        (moment.world.record moment.thread "a" call).1 = .error (.panic panic) ∧
        asking.outcome = some (.error (.panic panic)) ∧ moment.world.log = [.scopeEntered] := by
    decide +kernel
  obtain ⟨asking, asked, moment, within, submits, panics, unwinds, log⟩ := found
  have broken : batch.Broken asking moment call panic := ⟨within, ⟨submits, panics⟩, unwinds⟩
  have once : PanicsOnce (batch.report.run.history {} world) moment := by
    refine Code.panicsOnce (broken.reported asked) broken.breaks.untaken fun past event panics => ?_
    rw [log]
    exact (of_not_not fun other => panics (if_neg other)).1
  obtain ⟨index, thread, last, -, -, ended, contained⟩ :=
    panic_contained traces asked broken once
      (fun asking member => (outcomes asking member).1)
      (fun asking member outside panic panicked => by
        rw [(outcomes asking member).2 outside] at panicked
        cases panicked)
  have answer : (batch.report.run.exec {} world).map Prod.fst = some (.error (.failure
      { kind := .loweringFailure
        message := "lowering thread panicked: log sink failed"
        program := some 0 })) := by decide +kernel
  rw [ended, Option.map_some, Option.some.injEq] at answer
  change Except.error (Exit.failure (.passPanicked index panic)) = _ at answer
  rw [answer] at ended
  have away : (replay "a").TurnedAway {} last := contained.turnsAway [] last (.nil last) (replay "a") rfl {}
  refine ⟨thread, last, ended, contained, away, ?_⟩
  -- The answer of the other ledger is read off a run in which nothing panics.
  let later := (inTurn [replay "a"]).bind fun _ => (replay "b").report.run
  have counts : (batch.report.run.exec {} world.silenced).any (fun ended =>
      ((later.exec {} ended.2.2).map Prod.fst).any fun answer =>
        answer.toOption.any fun report => report.invocations = 1) = true := by decide +kernel
  obtain ⟨⟨_, _, last'⟩, ran, counts⟩ := (Option.any_eq_true _ _).mp counts
  have tidy : batch.extractor.Tidy true :=
    ⟨Pipeline.replay_tidy, fun _ => Routine.tidy_pure _, fun _ _ => .ret _⟩
  have tidies : ∀ between ∈ [replay "a"], between.extractor.Tidy false := by
    simpa using replay_tidy "a" [[call]] none
  have same := contained.unaffected tidy (fun _ _ _ => rfl) _ _ _ ran [replay "a"] tidies (replay "b")
    (by decide) (replay_independent "b" [[call]] none) {}
  change ((later.exec {} last').map Prod.fst).any _ = true at counts
  rw [← same, Option.any_eq_true] at counts
  obtain ⟨answer, ends, counts⟩ := counts
  cases answer with
  | error exit => cases counts
  | ok report => exact ⟨report, ends, of_decide_eq_true counts⟩

/-- A clear that panics after the pass hides that the ledger was lost. -/
theorem panic_hidden :
    let call : Invocation := ⟨"dense", ⟨[]⟩⟩
    let panic : Panic := ⟨some "log sink failed"⟩
    let later : Panic := ⟨some "cache clear crashed"⟩
    let batch : Batch.{0} Nat :=
      { extractor :=
          { pipeline := { Pipeline.replay with
              clearFunctions := do
                let cleared ← Code.perform (.client (· + 1))
                return if cleared = 2 then .error later else .ok () }
            settings := { suppressLogs := false } }
        programs := [[call]]
        params := [()]
        filter := none
        target := default
        host := none }
    let world := panickingOnce call 0
    batch.Traces {} world ⟨default, none⟩ {} world ∧
      (∃ asking ∈ batch.calls {} world, asking.thread.name = some "tunex-lower-0" ∧
        ∃ moment, batch.Broken asking moment call panic) ∧
      (batch.calls {} world).map Asking.outcome = [some (.ok ()), some (.ok ()),
        some (.error (.panic panic)), some (.error (.panic later))] ∧
      (batch.report.run.exec {} world).map Prod.fst = some (.error (.panic later)) := by
  intro call panic later batch world
  have found : ∃ asking ∈ batch.calls {} world, asking.thread.name = some "tunex-lower-0" ∧
      ∃ moment ∈ (batch.extractor.reply asking.request).run.history asking.thread asking.world,
        moment.action.submitted? batch.extractor.ledger = some call ∧
        (moment.world.record moment.thread batch.extractor.ledger call).1 = .error (.panic panic) ∧
        asking.outcome = some (.error (.panic panic)) := by
    decide +kernel
  obtain ⟨asking, asked, named, moment, within, submits, panics, unwinds⟩ := found
  refine ⟨⟨rfl, rfl, rfl, rfl, rfl, rfl⟩, ?_, ?_, ?_⟩
  · exact ⟨asking, asked, named, moment, within, ⟨submits, panics⟩, unwinds⟩
  · decide +kernel
  · decide +kernel

end Batch

end TuningTasks
