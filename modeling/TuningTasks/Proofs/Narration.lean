import TuningTasks.Proofs.Telling

/-!
The log of a batch from its first event to its last: what its resolver says, the two ends of its scope
with what is told of the traced part between them, a warning for each skip, and the report.
-/
namespace TuningTasks

universe u v
variable {σ : Type} {Program : Type u} {Params : Type v}

/-! ### After tracing -/

def Materialized.summary (target : Target) (programs invocations : Nat) :
    Except Exit Materialized → List Event
  | .ok made => [.extracted target programs invocations made.tasks.length made.skipped.length]
  | .error _ => []

namespace Extraction

open Draft

variable (extractor : Extractor σ Program Params) (programs : Nat) (pair : TargetPair)
  (calls : List Invocation)

theorem askings_concluded (t : Thread) (world : World σ) :
    (concluded extractor.settings programs pair calls : Extraction σ Program Params Report).askings
        extractor.reply t world =
      (materialize extractor.settings pair.target calls).askings extractor.reply t world := by
  rw [concluded, askings_bind]
  rcases ((materialize extractor.settings pair.target calls).routine extractor.reply).run.exec t world with
    _ | ⟨exit | made, thread, last⟩
  · exact List.append_nil _
  · exact List.append_nil _
  · rw [Option.elim_some, onwardAskings, askings_bind_pure, askings_own, List.append_nil]

/-- On a thread that is heard, the log is told of every skip, and of the report if there is one. -/
theorem concluding {extractor : Extractor σ Program Params}
    (tidy : ∀ request, (extractor.factory request).run.Tidy true) {t : Thread} {world : World σ}
    (muffled : Muffled false t world) {ended : Except Exit Report × Thread × World σ}
    (ran : (extractor.concluded programs pair calls).run.exec t world = some ended) :
    ∃ events built, Building extractor pair.target calls
        ((materialize extractor.settings pair.target calls).askings extractor.reply t world) events built ∧
      ended.1 = built.map (fun made => made.report programs calls.length) ∧
      ended.2.2.log =
        world.log ++ (events ++ Materialized.summary pair.target programs calls.length built) := by
  rw [Extractor.concluded, Routine.exec_bind, Option.bind_eq_some_iff] at ran
  obtain ⟨⟨built, thread, last⟩, ran, later⟩ := ran
  obtain ⟨events, building, log⟩ := Extraction.building tidy pair.target calls muffled ran
  refine ⟨events, built, building, ?_⟩
  cases built with
  | error exit =>
      cases later
      rw [Materialized.summary, List.append_nil]
      exact ⟨rfl, log⟩
  | ok made =>
      have here : Muffled false thread last :=
        muffled.exec (Factory.materialize_tidy tidy extractor.settings pair.target calls) ran
      rw [Routine.onward, Routine.exec_bind, Routine.exec_emit here.silent] at later
      cases later
      refine ⟨rfl, ?_⟩
      change (last.logged thread _).log = _
      rw [World.logged_log, here.hears, log, List.append_assoc]
      rfl

end Extraction

namespace Extractor

variable (extractor : Extractor σ Program Params) {t : Thread}

theorem opened_log (filter : Option Filter) (unmuted : t.muted = false) (world : World σ) :
    (extractor.opened filter t world).log = world.log ++ [.scopeEntered] := by
  rw [opened, begun, World.hushed_log, World.installed, World.logged_log, World.hears_unmuted _ unmuted]
  rfl

theorem closed_log (unmuted : t.muted = false) (last : World σ) :
    (extractor.closed t last).log = last.log ++ [.scopeExited] := by
  change (extractor.left t last).log = _
  rw [left, World.uninstalled, World.logged_log, World.hears_unmuted _ unmuted, if_pos rfl]
  exact congrArg (· ++ _) (last.unhushed_log _)

end Extractor

/-! ### The whole log -/

namespace Batch

variable (batch : Batch.{u} σ)

def resolverSaid (t : Thread) (world : World σ) : List Event :=
  (batch.resolving.run.history t world).flatMap Moment.said

def factoryAskings (t : Thread) (world : World σ) :
    List (Asking σ (@Request.Reply batch.Program batch.Params)) :=
  (batch.askings t world).filter fun asking => asking.request.toFactory

/-- What the log is told of a batch that ends so, given what it is told of the traced part. -/
inductive Narrated (t : Thread) (world : World σ) (traced : List Event) :
    Except Exit Report → List Event → Prop
  | refused {exit : Exit}
      (early : batch.programs.length ≠ batch.params.length ∨ t.inPass = true) :
      Narrated t world traced (.error exit) []
  | untraced {exit : Exit} (paired : batch.programs.length = batch.params.length)
      (outside : t.inPass = false)
      (never : ∀ pair caller resolved, ¬ batch.Traces t world pair caller resolved) :
      Narrated t world traced (.error exit) (batch.resolverSaid t world)
  | failed {pair : TargetPair} {caller inner : Thread} {resolved left : World σ} {exit : Exit}
      (traces : batch.Traces t world pair caller resolved)
      (lowered : batch.lowered pair caller resolved = some (.error exit, inner, left)) :
      Narrated t world traced (.error exit)
        (batch.resolverSaid t world ++ .scopeEntered :: (traced ++ [.scopeExited]))
  | built {pair : TargetPair} {caller inner : Thread} {resolved left : World σ} {found : List Invocation}
      {events : List Event} {ended : Except Exit Materialized}
      (traces : batch.Traces t world pair caller resolved)
      (lowered : batch.lowered pair caller resolved = some (.ok (), inner, left))
      (records : (left.ledgers batch.extractor.ledger).value.ordered = found)
      (building : Building batch.extractor pair.target found (batch.factoryAskings t world) events ended) :
      Narrated t world traced (ended.map fun made => made.report batch.programs.length found.length)
        (batch.resolverSaid t world ++ .scopeEntered :: (traced ++ .scopeExited ::
          (events ++ Materialized.summary pair.target batch.programs.length found.length ended)))

variable {batch} {t : Thread} {world : World σ}

/-- What is told of the traced part matters to a batch that has ended to trace only. -/
theorem Narrated.traced {traced other : List Event} {outcome : Except Exit Report} {events : List Event}
    (narrated : batch.Narrated t world traced outcome events)
    (same : ∀ pair caller resolved ended, batch.Traces t world pair caller resolved →
      batch.lowered pair caller resolved = some ended → traced = other) :
    batch.Narrated t world other outcome events := by
  cases narrated with
  | refused early => exact .refused early
  | untraced paired outside never => exact .untraced paired outside never
  | failed traces lowered =>
      cases same _ _ _ _ traces lowered
      exact .failed traces lowered
  | built traces lowered records building =>
      cases same _ _ _ _ traces lowered
      exact .built traces lowered records building

section Traces

variable {pair : TargetPair} {caller : Thread} {resolved : World σ}

theorem Traces.factoryAskings_eq (traces : batch.Traces t world pair caller resolved)
    {found : List Invocation} {thread : Thread} {last : World σ}
    (ended : batch.tracedEnd pair caller resolved = some (.ok found, thread, last)) :
    batch.factoryAskings t world =
      (Extraction.materialize batch.extractor.settings pair.target found).askings batch.extractor.reply
        thread last := by
  have passes : (batch.passAskings pair caller resolved).filter
      (fun asking => asking.request.toFactory) = [] := by
    rw [List.filter_eq_nil_iff]
    intro asking member factory
    have called := Extraction.asks_passes batch.extractor _ _ pair 0 _ _ _ asking member
    exact Request.toFactory_other factory called
  rw [factoryAskings, traces.askings_eq, ended, Option.elim_some, Draft.onwardAskings,
    Extraction.askings_concluded, List.filter_cons_of_neg (by simp [Request.toFactory]),
    List.filter_append, passes, List.nil_append, List.filter_eq_self]
  exact Extraction.asks_materialize batch.extractor _ _ _ _ _

theorem muffled_opened (muffled : Muffled false caller resolved) :
    Muffled batch.extractor.settings.suppressLogs (caller.hushed batch.extractor.settings.suppressLogs)
      (batch.extractor.opened batch.filter caller resolved) where
  silent := batch.extractor.opened_silent batch.filter caller muffled.silent
  muted := by
    rw [Thread.hushed, muffled.muted, Bool.or_false]
  held := by
    intro muted
    rw [Extractor.opened, Extractor.begun, muted]
    exact Nat.succ_pos _

theorem Traces.accounts (traces : batch.Traces t world pair caller resolved)
    (tidy : batch.extractor.pipeline.Tidy true) (muffled : Muffled false caller resolved) :
    (∀ asking ∈ batch.calls t world,
      Muffled batch.extractor.settings.suppressLogs asking.thread asking.world) ∧
    ∀ passed inner left, batch.lowered pair caller resolved = some (passed, inner, left) →
      left.log = (batch.extractor.opened batch.filter caller resolved).log ++
        (batch.calls t world).flatMap batch.extractor.told := by
  have accounts := Extraction.accounts_passes tidy pair 0 (batch.programs.zip batch.params)
  have opened := batch.muffled_opened muffled
  rw [traces.calls_eq]
  refine ⟨accounts.muffled _ _ opened, fun passed inner left lowered => ?_⟩
  refine accounts.log _ _ (passed, inner, left) opened ?_
  rw [Extraction.routine_passes]
  exact lowered

end Traces

theorem exec_traced_never {pair : TargetPair} {caller : Thread} {resolved : World σ}
    (paired : batch.programs.length = batch.params.length) (outside : t.inPass = false)
    (resolves : batch.resolving.run.exec t world = some (.ok pair, caller, resolved))
    (silent : resolved.Silent) (never : ¬ batch.Traces t world pair caller resolved)
    {ended : Except Exit (List Invocation) × Thread × World σ}
    (ran : batch.tracedEnd pair caller resolved = some ended) :
    ∃ exit, ended.1 = .error exit ∧ ended.2.2.log = resolved.log := by
  let locked := resolved.locked caller.caller
  -- A batch that does not trace is stopped by the lock, by its ledger or by its scope: nothing is told yet.
  rw [tracedEnd, Extractor.traced_eq] at ran
  cases free : resolved.session with
  | some holder =>
      rw [Routine.exec_exclusively_held free] at ran
      cases ran
  | none =>
      rw [Routine.exec_exclusively free] at ran
      cases sound : (locked.ledgers batch.extractor.ledger).poisoned with
      | true =>
          have refused : locked.resetLedger batch.extractor.ledger batch.filter =
              (.error .ledgerPoisoned, locked) := by
            simp only [World.resetLedger, sound, ↓reduceIte]
          rw [Extractor.tracing, Routine.exec_bind, Routine.exec_failing _ rfl] at ran
          simp only [Action.perform] at ran
          rw [refused] at ran
          cases ran
          exact ⟨_, rfl, rfl⟩
      | false =>
          have unentered : ((locked.emptied batch.extractor.ledger batch.filter).install caller
              (.ledger batch.extractor.ledger)).1 ≠ .ok () :=
            fun entered => never ⟨paired, outside, resolves, free, sound, entered⟩
          have refused : ∃ exit, (locked.emptied batch.extractor.ledger batch.filter).install caller
              (.ledger batch.extractor.ledger) =
                (.error exit, locked.emptied batch.extractor.ledger batch.filter) := by
            rcases (locked.emptied batch.extractor.ledger batch.filter).hook_cases with
              broken | ⟨active, busy⟩ | idle
            · exact ⟨_, World.install_poisoned broken _ _⟩
            · exact ⟨_, World.install_active busy _ _⟩
            · have quiet : (locked.emptied batch.extractor.ledger batch.filter).Silent := silent
              rw [World.install_idle quiet idle] at unentered
              exact absurd rfl unentered
          obtain ⟨exit, refused⟩ := refused
          rw [Extractor.exec_tracing _ _ _ sound, Extractor.inScope, Routine.exec_bind,
            Routine.exec_intercepting_refused refused] at ran
          cases ran
          exact ⟨_, rfl, rfl⟩

theorem Traces.narrated {pair : TargetPair} {caller : Thread} {resolved : World σ}
    (traces : batch.Traces t world pair caller resolved) (tidy : batch.extractor.Tidy true)
    (muffled : Muffled false caller resolved) {ended : Except Exit Report × Thread × World σ}
    (ran : batch.report.run.exec t world = some ended) :
    ∃ events, ended.2.2.log = world.log ++ events ∧
      batch.Narrated t world ((batch.calls t world).flatMap batch.extractor.told) ended.1 events := by
  have asked : resolved.log = world.log ++ batch.resolverSaid t world :=
    (Code.follows_history traces.resolves).log
  have whole : batch.tracedEnd pair caller resolved = (batch.lowered pair caller resolved).map _ :=
    Extractor.exec_traced pair (batch.programs.zip batch.params) batch.filter traces.free traces.sound
      tidy.pipeline muffled.silent traces.idle
  rw [batch.exec_report traces.paired traces.outside, traces.resolves, Option.bind_some, Routine.onward,
    Extractor.resolved, Routine.exec_bind, Option.bind_eq_some_iff] at ran
  obtain ⟨⟨outcome, thread, after⟩, traced, ran⟩ := ran
  change batch.tracedEnd pair caller resolved = _ at traced
  rw [whole, Option.map_eq_some_iff] at traced
  obtain ⟨⟨passed, inner, left⟩, lowered, same⟩ := traced
  -- The caller hears the two ends of the scope; what is told between them is told of the passes.
  have told := (traces.accounts tidy.pipeline muffled).2 passed inner left lowered
  have span : (batch.extractor.closed caller left).log = world.log ++ (batch.resolverSaid t world ++
      .scopeEntered :: ((batch.calls t world).flatMap batch.extractor.told ++ [.scopeExited])) := by
    rw [Extractor.closed_log _ muffled.muted, told, Extractor.opened_log _ _ muffled.muted, asked]
    simp
  cases passed with
  | error exit =>
      cases same
      cases ran
      exact ⟨_, span, .failed traces lowered⟩
  | ok done =>
      cases same
      have ended' : batch.tracedEnd pair caller resolved = some (.ok
          (left.ledgers batch.extractor.ledger).value.ordered, caller,
          batch.extractor.closed caller left) := by
        rw [whole, lowered]
        rfl
      have later : Muffled false caller (batch.extractor.closed caller left) :=
        .of_unmuted (Code.exec_silent ended' muffled.silent) muffled.muted
      obtain ⟨events, built, building, outcome, log⟩ :=
        Extraction.concluding batch.programs.length pair _ tidy.factory later ran
      rw [← traces.factoryAskings_eq ended'] at building
      rw [outcome]
      refine ⟨_, ?_, .built traces lowered rfl building⟩
      rw [log, span]
      simp

/-- On a thread that is not muted, whatever the settings, all that the log is told of a batch is told of
its requests, its scope, its skips and its report. -/
theorem narrated (tidy : batch.extractor.Tidy true) (silent : world.Silent) (unmuted : t.muted = false)
    {ended : Except Exit Report × Thread × World σ} (ran : batch.report.run.exec t world = some ended) :
    ∃ events, ended.2.2.log = world.log ++ events ∧
      batch.Narrated t world ((batch.calls t world).flatMap batch.extractor.told) ended.1 events := by
  have start : Muffled false t world := .of_unmuted silent unmuted
  by_cases tracing : ∃ pair caller resolved, batch.Traces t world pair caller resolved
  · obtain ⟨pair, caller, resolved, traces⟩ := tracing
    exact traces.narrated tidy (start.exec (tidy.resolver _ _) traces.resolves) ran
  have never : ∀ pair caller resolved, ¬ batch.Traces t world pair caller resolved :=
    fun pair caller resolved traces => tracing ⟨pair, caller, resolved, traces⟩
  by_cases paired : batch.programs.length = batch.params.length
  swap
  · rw [report, Extractor.exec_report_unpaired _ _ _ _ _ _ paired] at ran
    cases ran
    exact ⟨[], (List.append_nil _).symm, .refused (Or.inl paired)⟩
  cases outside : t.inPass with
  | true =>
      rw [report, Extractor.exec_report_inside _ _ _ _ _ _ paired outside] at ran
      cases ran
      exact ⟨[], (List.append_nil _).symm, .refused (Or.inr outside)⟩
  | false =>
      rw [batch.exec_report paired outside, Option.bind_eq_some_iff] at ran
      obtain ⟨⟨target, caller, resolved⟩, resolves, ran⟩ := ran
      have asked : resolved.log = world.log ++ batch.resolverSaid t world :=
        (Code.follows_history resolves).log
      cases target with
      | error exit =>
          cases ran
          exact ⟨_, asked, .untraced paired outside never⟩
      | ok pair =>
          rw [Routine.onward, Extractor.resolved, Routine.exec_bind, Option.bind_eq_some_iff] at ran
          obtain ⟨⟨outcome, thread, after⟩, traced, ran⟩ := ran
          have quiet : resolved.Silent := Code.exec_silent resolves silent
          obtain ⟨exit, failed, log⟩ := exec_traced_never paired outside resolves quiet (never _ _ _) traced
          cases failed
          cases ran
          exact ⟨_, log.trans asked, .untraced paired outside never⟩

end Batch

end TuningTasks
