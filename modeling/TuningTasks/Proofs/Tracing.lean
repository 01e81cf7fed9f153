import TuningTasks.Proofs.Meaning
import TuningTasks.Proofs.Requests
import TuningTasks.Proofs.Running

/-!
How far an extraction gets, and what it asks on the way. A batch gets as far as tracing when it is not
refused and its scope stands, whatever the log's sink does later. It then asks its pipeline what the
passes ask; one that does not get there asks the pipeline nothing.
-/
namespace TuningTasks

universe u v
variable {σ α β : Type} {Program : Type u} {Params : Type v}

theorem Code.exec_thread {code : Code σ α} {t thread : Thread} {world last : World σ} {answer : α}
    (ended : code.exec t world = some (answer, thread, last)) :
    thread = { t with muted := thread.muted } := by
  induction code generalizing t world thread last with
  | ret value =>
      cases ended
      rfl
  | act action next ih =>
      simp only [exec] at ended
      split at ended
      · have performed : (action.perform t world).2.1 =
            { t with muted := (action.perform t world).2.1.muted } := by
          cases action <;> rfl
        have later := ih _ ended
        rw [performed] at later
        exact later
      · cases ended
  | fork body thread' next _ ih =>
      simp only [exec] at ended
      split at ended
      · exact ih _ ended
      · cases ended

def Thread.unhushed (t : Thread) (mute found : Bool) : Thread :=
  { t with muted := if mute then found else t.muted }

namespace World

/-- The sink takes the event of a scope's end. -/
def Heard (world : World σ) : Prop := ∀ past, world.sink past .scopeExited = none

theorem install_ok {world : World σ} {t : Thread} {hook : Hook σ}
    (entered : (world.install t hook).1 = .ok ()) :
    world.install t hook = (.ok (), world.installed t hook) := by
  have logged := ({ world with hook := { value := some hook } } : World σ).emit_snd t .scopeEntered
  simp only [install] at entered ⊢
  split
  · simp_all
  · split
    · simp_all
    · rcases emitted : ({ world with hook := { value := some hook } } : World σ).emit t .scopeEntered with
        ⟨_ | done, after⟩
      · simp_all
      · rw [emitted] at logged
        subst logged
        rfl

theorem emit_taken {world : World σ} {event : Event} (taken : ∀ past, world.sink past event = none)
    (t : Thread) : world.emit t event = (.ok (), world.logged t event) := by
  simp only [emit, logged, taken]
  split <;> rfl

theorem uninstall_heard {world : World σ} (heard : world.Heard) (t : Thread) :
    world.uninstall t = (.ok (), world.uninstalled t) := by
  have taken : ∀ past, ({ world with hook := { world.hook with value := none } } : World σ).sink
      past .scopeExited = none := heard
  simp [uninstall, emit_taken taken, uninstalled]

theorem Heard.unhushed {world : World σ} (heard : world.Heard) (mute : Bool) :
    (world.unhushed mute).Heard := by
  cases mute with
  | false => exact heard
  | true => exact heard

theorem Heard.exec {code : Code σ α} {t thread : Thread} {world last : World σ} {answer : α}
    (heard : world.Heard) (ended : code.exec t world = some (answer, thread, last)) : last.Heard := by
  intro past
  rw [(Code.exec_frame ended).1]
  exact heard past

end World

namespace Routine

theorem exec_quietly_any (mute : Bool) (body : Routine σ α) (t : Thread) (world : World σ) :
    (quietly mute body).run.exec t world =
      (body.run.exec (t.hushed mute) (world.hushed mute)).map fun ended =>
        (ended.1, ended.2.1.unhushed mute t.muted, ended.2.2.unhushed mute) := by
  cases mute with
  | false =>
      change body.run.exec t world = (body.run.exec t world).map _
      cases body.run.exec t world with
      | none => rfl
      | some ended => rfl
  | true =>
      rw [exec_quietly]
      rfl

def caught : Except Exit α → Except Exit (Except Failure α)
  | .ok value => .ok (.ok value)
  | .error (.failure failure) => .ok (.error failure)
  | .error (.panic panic) => .error (.panic panic)

theorem exec_catchFailure (routine : Routine σ α) (t : Thread) (world : World σ) :
    (catchFailure routine).run.exec t world =
      (routine.run.exec t world).map fun ended => (caught ended.1, ended.2) := by
  change (routine.run.bind _).exec t world = _
  rw [Code.exec_bind]
  rcases routine.run.exec t world with _ | ⟨(failure | panic) | value, thread, last⟩
  all_goals rfl

theorem exec_emit_any (event : Event) (t : Thread) (world : World σ) :
    (emit event).run.exec t world =
      some ((world.emit t event).1.mapError .panic, t, (world.emit t event).2) := by
  rw [emit, exec_panicking, Code.exec_perform _ rfl]
  rfl

def leaving (ended : Except Exit α × Thread × World σ) : Except Exit α × Thread × World σ :=
  match ended.2.2.uninstall ended.2.1 with
  | (.ok (), last) => (ended.1, ended.2.1, last)
  | (.error panic, last) => (.error (.panic panic), ended.2.1, last)

theorem exec_intercepting_entered {world : World σ} {t : Thread} {hook : Hook σ}
    (entered : (world.install t hook).1 = .ok ()) (body : Routine σ α) :
    (intercepting hook body).run.exec t world =
      (body.run.exec t (world.installed t hook)).map leaving := by
  have performed : (Action.install hook).perform t world = (.ok (), t, world.installed t hook) := by
    simp only [Action.perform, World.install_ok entered]
  rw [intercepting, exec_bind, exec_attempt _ rfl, performed]
  simp only [Option.bind_some, onward]
  rw [exec_bind, exec_lift]
  cases body.run.exec t (world.installed t hook) with
  | none => rfl
  | some ended =>
      obtain ⟨outcome, thread, last⟩ := ended
      simp only [Option.map_some, Option.bind_some, onward]
      rw [exec_bind, exec_panicking, Code.exec_perform _ rfl]
      simp only [Action.perform, leaving]
      cases left : last.uninstall thread with
      | mk answer after =>
          cases answer with
          | ok done => rfl
          | error panic => rfl

end Routine

theorem Extractor.opened_sink (extractor : Extractor σ Program Params) (filter : Option Filter)
    (t : Thread) (world : World σ) : (extractor.opened filter t world).sink = world.sink := by
  rw [opened, begun, World.hushed]
  split
  · rfl
  · rfl

namespace Batch

variable (batch : Batch.{u} σ)

/-- The batch gets as far as tracing: it is not refused, its ledger is emptied and its scope stands.
`caller` and `resolved` are the thread and the world that the resolver leaves. -/
structure Traces (t : Thread) (world : World σ) (pair : TargetPair) (caller : Thread)
    (resolved : World σ) : Prop where
  paired : batch.programs.length = batch.params.length
  outside : t.inPass = false
  resolves : batch.resolving.run.exec t world = some (.ok pair, caller, resolved)
  free : resolved.session = none
  sound : (resolved.ledgers batch.extractor.ledger).poisoned = false
  entered : (((resolved.locked caller.caller).emptied batch.extractor.ledger batch.filter).install
    caller (.ledger batch.extractor.ledger)).1 = .ok ()

def draft : Extraction σ batch.Program batch.Params Report :=
  Extraction.report batch.extractor.ledger batch.extractor.settings
    batch.extractor.pipeline.clearFallback.isSome batch.programs batch.params batch.filter
    batch.target batch.host

theorem routine_draft : batch.draft.routine batch.extractor.reply = batch.report :=
  Extraction.routine_report batch.extractor _ _ _ _ _

def passesDraft (pair : TargetPair) : Extraction σ batch.Program batch.Params Unit :=
  Extraction.passes batch.extractor.pipeline.clearFallback.isSome batch.extractor.settings pair 0
    (batch.programs.zip batch.params)

def askings (t : Thread) (world : World σ) :
    List (Asking σ (@Request.Reply batch.Program batch.Params)) :=
  batch.draft.askings batch.extractor.reply t world

def calls (t : Thread) (world : World σ) :
    List (Asking σ (@Request.Reply batch.Program batch.Params)) :=
  (batch.askings t world).filter fun asking => asking.request.toPipeline

def passAskings (pair : TargetPair) (caller : Thread) (resolved : World σ) :
    List (Asking σ (@Request.Reply batch.Program batch.Params)) :=
  (batch.passesDraft pair).askings batch.extractor.reply
    (caller.hushed batch.extractor.settings.suppressLogs)
    (batch.extractor.opened batch.filter caller resolved)

end Batch

namespace Extraction

open Draft

variable (extractor : Extractor σ Program Params)

theorem asks_materialize (settings : Settings) (target : Target) (found : List Invocation) :
    (materialize settings target found : Extraction σ Program Params Materialized).Asks
      extractor.reply Request.toFactory := by
  induction found with
  | nil => exact asks_pure _
  | cons invocation rest ih =>
      rw [materialize]
      apply (asks_ask rfl).catchFailure.bind
      intro built
      cases built with
      | ok task => exact ih.bind fun _ => asks_pure _
      | error failure =>
          simp only
          split
          · exact (asks_own _).bind fun _ => ih.bind fun _ => asks_pure _
          · exact asks_own _

theorem asks_concluded (settings : Settings) (programs : Nat) (pair : TargetPair)
    (found : List Invocation) :
    (concluded settings programs pair found : Extraction σ Program Params Report).Asks
      extractor.reply Request.toFactory :=
  (asks_materialize extractor settings pair.target found).bind fun _ =>
    (asks_own _).bind fun _ => asks_pure _

theorem askings_quietly (mute : Bool) (body : Extraction σ Program Params α) (t : Thread)
    (world : World σ) :
    (quietly mute body).askings extractor.reply t world =
      body.askings extractor.reply (t.hushed mute) (world.hushed mute) := by
  cases mute with
  | false => rfl
  | true =>
      change (around _ _ body).askings extractor.reply t world = _
      rw [askings_around, Routine.exec_perform _ rfl]
      rfl

section Traced

variable (pair : TargetPair) (work : List (Program × Params)) (filter : Option Filter) {t : Thread}
  {world : World σ}

section Sound

variable (sound : (world.ledgers extractor.ledger).poisoned = false)

include sound

theorem askings_tracing :
    (tracing extractor.ledger extractor.settings extractor.pipeline.clearFallback.isSome pair work
        filter).askings extractor.reply t world =
      (around (.attempt (.install (.ledger extractor.ledger)))
          (fun _ => .panicking (.perform .uninstall))
          (quietly extractor.settings.suppressLogs
            (passes extractor.pipeline.clearFallback.isSome extractor.settings pair 0 work))).askings
        extractor.reply t (world.emptied extractor.ledger filter) := by
  have emptied := World.resetLedger_sound sound filter
  rw [tracing, askings_bind, askings_own, routine_own, Routine.exec_failing _ rfl]
  simp only [Action.perform, emptied, Routine.mapError_ok, Option.elim_some, onwardAskings,
    List.nil_append]
  exact askings_bind_own extractor.reply _ _ _ _

theorem askings_tracing_entered
    (entered : ((world.emptied extractor.ledger filter).install t (.ledger extractor.ledger)).1 =
      .ok ()) :
    (tracing extractor.ledger extractor.settings extractor.pipeline.clearFallback.isSome pair work
        filter).askings extractor.reply t world =
      (passes extractor.pipeline.clearFallback.isSome extractor.settings pair 0 work).askings
        extractor.reply (t.hushed extractor.settings.suppressLogs)
        (extractor.begun t (world.emptied extractor.ledger filter)) := by
  rw [askings_tracing extractor pair work filter sound, askings_around, Routine.exec_attempt _ rfl]
  simp only [Action.perform, World.install_ok entered, Option.elim_some]
  exact askings_quietly extractor _ _ _ _

theorem askings_tracing_refused
    (refused : ((world.emptied extractor.ledger filter).install t (.ledger extractor.ledger)).1 ≠
      .ok ()) :
    (tracing extractor.ledger extractor.settings extractor.pipeline.clearFallback.isSome pair work
        filter).askings extractor.reply t world = [] := by
  rw [askings_tracing extractor pair work filter sound, askings_around, Routine.exec_attempt _ rfl]
  rcases answered : (world.emptied extractor.ledger filter).install t (.ledger extractor.ledger) with
    ⟨exit | done, after⟩
  · simp only [Action.perform, answered, Option.elim_some]
  · rw [answered] at refused
    exact absurd rfl refused

end Sound

theorem askings_tracing_poisoned (broken : (world.ledgers extractor.ledger).poisoned = true) :
    (tracing extractor.ledger extractor.settings extractor.pipeline.clearFallback.isSome pair work
        filter).askings extractor.reply t world = [] := by
  have refused : world.resetLedger extractor.ledger filter = (.error .ledgerPoisoned, world) := by
    simp only [World.resetLedger, broken, ↓reduceIte]
  rw [tracing, askings_bind, askings_own, routine_own, Routine.exec_failing _ rfl]
  simp only [Action.perform, refused, Routine.mapError_error, Option.elim_some, onwardAskings,
    List.nil_append]

theorem askings_traced (free : world.session = none) :
    (traced extractor.ledger extractor.settings extractor.pipeline.clearFallback.isSome pair work
        filter).askings extractor.reply t world =
      (tracing extractor.ledger extractor.settings extractor.pipeline.clearFallback.isSome pair work
        filter).askings extractor.reply t (world.locked t.caller) := by
  have ready : (Action.lockSession : Action σ Unit).ready world = true := by
    simp [Action.ready, free]
  rw [traced, askings_around, Routine.exec_perform _ ready]
  rfl

theorem askings_traced_held {holder : Nat} (held : world.session = some holder) :
    (traced extractor.ledger extractor.settings extractor.pipeline.clearFallback.isSome pair work
        filter).askings extractor.reply t world = [] := by
  have blocked : (Routine.perform .lockSession : Routine σ Unit).run.exec t world = none := by
    change (if world.session.isNone then _ else _) = _
    simp [held]
  rw [traced, askings_around, blocked]
  rfl

variable (t world) in
theorem askings_untraced
    (never : world.session = none → (world.ledgers extractor.ledger).poisoned = false →
      (((world.locked t.caller).emptied extractor.ledger filter).install t
        (.ledger extractor.ledger)).1 ≠ .ok ()) :
    (traced extractor.ledger extractor.settings extractor.pipeline.clearFallback.isSome pair work
        filter).askings extractor.reply t world = [] := by
  cases free : world.session with
  | some holder => exact askings_traced_held extractor pair work filter free
  | none =>
      rw [askings_traced extractor pair work filter free]
      cases sound : (world.ledgers extractor.ledger).poisoned with
      | true => exact askings_tracing_poisoned extractor pair work filter sound
      | false => exact askings_tracing_refused extractor pair work filter sound (never free sound)

end Traced

theorem asks_pass (pair : TargetPair) (program : Program) (params : Params) :
    (pass pair program params : Extraction σ Program Params Unit).Asks extractor.reply
      Request.toPipeline := by
  refine (asks_ask rfl).bind fun _ => (asks_own _).bind fun _ => ?_
  exact (asks_ask rfl).catchFailure.bind fun _ => (asks_ask rfl).bind fun _ => asks_own _

theorem asks_isolated (settings : Settings) (index : Nat) {body : Extraction σ Program Params Unit}
    (asks : body.Asks extractor.reply Request.toPipeline) (t : Thread) (world : World σ) :
    ∀ asking ∈ (isolated settings index body).askings extractor.reply t world,
      asking.request.toPipeline = true := by
  intro asking member
  simp only [isolated, Outline.askings, Action.ready, ↓reduceIte, Action.perform] at member
  rcases spawned : world.spawn settings.stackSize with ⟨reason | done, after⟩
  all_goals simp only [spawned] at member
  · cases member
  · rw [Outline.askings_fork_ret] at member
    change _ ∈ (quietly settings.suppressLogs body).askings extractor.reply _ _ at member
    rw [askings_quietly] at member
    exact asks _ _ asking member

theorem asks_passes (forgets : Bool) (settings : Settings) (pair : TargetPair) (index : Nat)
    (work : List (Program × Params)) :
    (passes forgets settings pair index work : Extraction σ Program Params Unit).Asks extractor.reply
      Request.toPipeline := by
  induction work generalizing index with
  | nil => exact asks_pure ()
  | cons item rest ih =>
      obtain ⟨program, params⟩ := item
      have inside := asks_isolated extractor settings index (asks_pass extractor pair program params)
      have forgetting : (forgetting forgets : Extraction σ Program Params Unit).Asks extractor.reply
          Request.toPipeline := by
        cases forgets with
        | false => exact asks_pure ()
        | true => exact asks_ask rfl
      refine (asks_ask rfl).bind fun _ => (asks_lift inside).bind fun traced => ?_
      refine ((asks_ask rfl).bind fun _ => forgetting).bind fun _ => ?_
      cases traced with
      | ok done => exact ih (index + 1)
      | error failure => exact asks_own _

end Extraction

namespace Batch

variable {batch : Batch.{u} σ} {t : Thread} {world : World σ}

theorem askings_report (paired : batch.programs.length = batch.params.length)
    (outside : t.inPass = false) :
    batch.askings t world =
      ⟨.resolve batch.target batch.host, t, world, batch.resolving.run.exec t world⟩ ::
        (batch.resolving.run.exec t world).elim []
          (Draft.onwardAskings batch.extractor.reply fun pair => do
            let found ← Extraction.traced batch.extractor.ledger batch.extractor.settings
              batch.extractor.pipeline.clearFallback.isSome pair
              (batch.programs.zip batch.params) batch.filter
            Extraction.concluded batch.extractor.settings batch.programs.length pair found) := by
  rw [askings, draft, Extraction.report, if_neg (not_not_intro paired), Draft.askings_bind,
    Draft.askings_own, Draft.routine_own, Routine.exec_perform _ rfl]
  simp only [Action.perform, Option.elim_some, Draft.onwardAskings, outside, Bool.false_eq_true,
    ↓reduceIte, List.nil_append]
  rw [Draft.askings_bind, Draft.askings_ask, Draft.routine_ask]
  rfl

def tracedEnd (batch : Batch.{u} σ) (pair : TargetPair) (caller : Thread) (resolved : World σ) :
    Option (Except Exit (List Invocation) × Thread × World σ) :=
  (batch.extractor.traced pair (batch.programs.zip batch.params) batch.filter).run.exec caller resolved

/-- Besides the target, a batch that traces asks what its passes ask, and then what its conclusion
asks. -/
theorem Traces.askings_eq {pair : TargetPair} {caller : Thread} {resolved : World σ}
    (traces : batch.Traces t world pair caller resolved) :
    batch.askings t world =
      ⟨.resolve batch.target batch.host, t, world, some (.ok pair, caller, resolved)⟩ ::
        (batch.passAskings pair caller resolved ++ (batch.tracedEnd pair caller resolved).elim []
          (Draft.onwardAskings batch.extractor.reply
            (Extraction.concluded batch.extractor.settings batch.programs.length pair))) := by
  have sound : ((resolved.locked caller.caller).ledgers batch.extractor.ledger).poisoned = false :=
    traces.sound
  have passes := (Extraction.askings_traced batch.extractor pair
      (batch.programs.zip batch.params) batch.filter traces.free).trans
    (Extraction.askings_tracing_entered batch.extractor pair _ batch.filter sound traces.entered)
  rw [askings_report traces.paired traces.outside, traces.resolves]
  simp only [Option.elim_some, Draft.onwardAskings, List.cons.injEq, true_and]
  rw [Draft.askings_bind, passes, Extraction.routine_traced]
  rfl

theorem Traces.calls_eq {pair : TargetPair} {caller : Thread} {resolved : World σ}
    (traces : batch.Traces t world pair caller resolved) :
    batch.calls t world = batch.passAskings pair caller resolved := by
  have pipeline : ∀ asking ∈ batch.passAskings pair caller resolved,
      asking.request.toPipeline = true :=
    Extraction.asks_passes batch.extractor _ _ pair 0 _ _ _
  have factory := Draft.Asks.onward (Extraction.asks_concluded batch.extractor
    batch.extractor.settings batch.programs.length pair) (batch.tracedEnd pair caller resolved)
  have other := List.filter_eq_nil_iff.mpr fun asking member =>
    Request.toFactory_other (factory asking member)
  rw [calls, traces.askings_eq, List.filter_cons_of_neg (by simp [Request.toPipeline]),
    List.filter_append, List.filter_eq_self.mpr pipeline, other, List.append_nil]

theorem calls_untraced (never : ∀ pair caller resolved,
    ¬ batch.Traces t world pair caller resolved) : batch.calls t world = [] := by
  rw [calls, List.filter_eq_nil_iff]
  by_cases paired : batch.programs.length = batch.params.length
  · cases outside : t.inPass with
    | true =>
        have nothing : batch.askings t world = [] := by
          rw [askings, draft, Extraction.report, if_neg (not_not_intro paired), Draft.askings_bind,
            Draft.askings_own, Draft.routine_own, Routine.exec_perform _ rfl]
          simp only [Action.perform, Option.elim_some, Draft.onwardAskings, outside, ↓reduceIte,
            List.nil_append]
          exact Draft.askings_own _ _ _ _
        simp [nothing]
    | false =>
        rw [askings_report paired outside]
        intro asking member
        rcases List.mem_cons.mp member with rfl | later
        · exact Bool.false_ne_true
        · apply Request.toFactory_other
          rcases resolves : batch.resolving.run.exec t world with _ | ⟨exit | pair, caller, resolved⟩
          all_goals rw [resolves] at later
          · cases later
          · cases later
          · simp only [Option.elim_some, Draft.onwardAskings] at later
            have untraced := Extraction.askings_untraced batch.extractor pair
              (batch.programs.zip batch.params) batch.filter caller resolved
                fun free sound entered => never pair caller resolved
                  ⟨paired, outside, resolves, free, sound, entered⟩
            rw [Draft.askings_bind, untraced, List.nil_append] at later
            exact Draft.Asks.onward (Extraction.asks_concluded batch.extractor _ _ _) _ asking later
  · have nothing : batch.askings t world = [] := by
      rw [askings, draft, Extraction.report, if_pos paired]
      exact Draft.askings_own _ _ _ _
    simp [nothing]

theorem Traces.idle {pair : TargetPair} {caller : Thread} {resolved : World σ}
    (traces : batch.Traces t world pair caller resolved) :
    resolved.hook = { value := none } := by
  have entered := traces.entered
  let emptied := (resolved.locked caller.caller).emptied batch.extractor.ledger batch.filter
  rcases emptied.hook_cases with broken | ⟨active, busy⟩ | idle
  · rw [World.install_poisoned broken] at entered
    cases entered
  · rw [World.install_active busy] at entered
    cases entered
  · exact idle

/-- The traced part drops the scope and gives back the session lock on every way out. -/
theorem Traces.tracedEnd_eq {pair : TargetPair} {caller : Thread} {resolved : World σ}
    (traces : batch.Traces t world pair caller resolved) :
    batch.tracedEnd pair caller resolved =
      (((batch.lowered pair caller resolved).map fun ended => Routine.leaving
          (ended.1, ended.2.1.unhushed batch.extractor.settings.suppressLogs caller.muted,
            ended.2.2.unhushed batch.extractor.settings.suppressLogs)).bind
        (Routine.onward fun _ => do
          return (← Routine.failing (.readLedger batch.extractor.ledger)).ordered)).map
        fun ended => (ended.1, ended.2.1, ended.2.2.unlocked) := by
  have sound : ((resolved.locked caller.caller).ledgers batch.extractor.ledger).poisoned = false :=
    traces.sound
  rw [tracedEnd, Extractor.traced_eq, Routine.exec_exclusively traces.free,
    Extractor.exec_tracing _ _ _ sound, Extractor.inScope, Routine.exec_bind,
    Routine.exec_intercepting_entered traces.entered, Routine.exec_quietly_any, Option.map_map]
  rfl

/-- An exit of the passes is that of the traced part, unless the log refuses the end of the scope. -/
theorem Traces.tracedEnd_error {pair : TargetPair} {caller : Thread} {resolved : World σ}
    (traces : batch.Traces t world pair caller resolved) {exit : Exit} {thread : Thread}
    {last : World σ} (lowered : batch.lowered pair caller resolved = some (.error exit, thread, last)) :
    ∃ exit' thread' last', batch.tracedEnd pair caller resolved = some (.error exit', thread', last') ∧
      (world.Heard → exit' = exit) := by
  rw [traces.tracedEnd_eq, lowered]
  simp only [Option.map_some, Option.bind_some]
  rcases left : (last.unhushed batch.extractor.settings.suppressLogs).uninstall
    (thread.unhushed batch.extractor.settings.suppressLogs caller.muted) with ⟨panic | done, after⟩
  · simp only [Routine.leaving, left, Routine.onward]
    refine ⟨_, _, _, rfl, fun heard => ?_⟩
    have opened : (batch.extractor.opened batch.filter caller resolved).Heard := by
      intro past
      rw [Extractor.opened_sink]
      exact heard.exec traces.resolves past
    rw [World.uninstall_heard ((opened.exec lowered).unhushed _)] at left
    cases left
  · simp only [Routine.leaving, left, Routine.onward]
    exact ⟨_, _, _, rfl, fun _ => rfl⟩

section Exits

variable {pair : TargetPair} {caller thread : Thread} {resolved last : World σ} {exit : Exit}
  (traces : batch.Traces t world pair caller resolved)
  (lowered : batch.lowered pair caller resolved = some (.error exit, thread, last))

include traces lowered

theorem Traces.exec_error (heard : world.Heard) :
    (batch.report.run.exec t world).map Prod.fst = some (.error exit) := by
  obtain ⟨exit', thread', last', ended, same⟩ := traces.tracedEnd_error lowered
  rw [exec_report batch traces.paired traces.outside, traces.resolves, Option.bind_some,
    Routine.onward, Extractor.resolved, Routine.exec_bind]
  change Option.map _ (Option.bind (batch.tracedEnd pair caller resolved) _) = _
  rw [ended, same heard]
  rfl

end Exits

end Batch

end TuningTasks
