import TuningTasks.Proofs.GraphFilters
import TuningTasks.Proofs.LedgerLaw
import TuningTasks.Proofs.Narration
import TuningTasks.Proofs.Poison
import TuningTasks.Proofs.WorkloadKey

/-!
Filters and templates. A ledger under a filter lists nothing that the filter does not accept, and each
operator of the table has a template. So a batch whose ledger keeps a filter made from graph operators asks
its factory for nothing without one (`Batch.requests_served`).
-/
namespace TuningTasks

universe u v
variable {σ : Type} {Program : Type u} {Params : Type v}

/-! ### The table of operators -/

namespace Operator

theorem named?_of_mem : ∀ operator ∈ all, named? operator.name = some operator := by decide

theorem templates_ne_nil : ∀ operator ∈ all, operator.templates ≠ [] := by decide

theorem named?_eq_some {name : String} {operator : Operator} :
    named? name = some operator ↔ operator ∈ all ∧ operator.name = name := by
  constructor
  · intro found
    exact ⟨List.mem_of_find?_eq_some found, by simpa using List.find?_some found⟩
  · rintro ⟨member, rfl⟩
    exact named?_of_mem operator member

theorem defaultTemplate?_eq_none {name : String} :
    defaultTemplate? name = none ↔ ∀ operator ∈ all, operator.name ≠ name := by
  cases found : named? name with
  | none =>
      rw [defaultTemplate?, found]
      simpa [named?] using found
  | some operator =>
      obtain ⟨member, same⟩ := named?_eq_some.mp found
      have template := templates_ne_nil operator member
      rw [defaultTemplate?, found, Option.bind_some, List.head?_eq_none_iff]
      exact ⟨fun none => absurd none template, fun unlisted => absurd same (unlisted operator member)⟩

end Operator

/-! ### What a ledger lists under a filter -/

theorem Epoch.filter_kept {name : String} {filter : Option Filter} {history : List (Moment σ)}
    (kept : ∀ moment ∈ history, ∀ other, moment.action.reset? name = some other → other = filter)
    {epoch : Epoch σ} (same : epoch.filter = filter) :
    (history.foldl (Epoch.next name) epoch).filter = filter := by
  induction history generalizing epoch with
  | nil => exact same
  | cons moment rest ih =>
      refine ih (fun other member => kept other (List.mem_cons_of_mem moment member)) ?_
      rw [Epoch.next]
      split
      · rename_i other empties
        exact kept moment List.mem_cons_self other empties
      · exact same

/-- From a ledger that is empty under a filter and never emptied under another, all that is listed in the
end is admitted, whatever else is done to it. -/
theorem Follows.admitted {first last : World σ} {history : List (Moment σ)}
    (follows : Follows first history last) {name : String} {filter : Option Filter}
    (emptied : first.ledgers name = { value := .reset filter })
    (kept : ∀ moment ∈ history, ∀ other, moment.action.reset? name = some other → other = filter)
    (sound : (last.ledgers name).poisoned = false) :
    ∀ call ∈ (last.ledgers name).value.ordered, admits filter call = true := by
  have start : (Epoch.mk filter []).Holds name first := ⟨emptied, rfl⟩
  have holds := start.history follows sound
  intro call member
  rw [holds.cell, Epoch.filter_kept kept rfl] at member
  exact (mem_firstAdmitted.mp member).2

/-! ### What the factory is asked -/

/-- The request is for a listed operator, one that a graph operator lowers to, with its template: the one in
the settings if there is one, and the operator's first if not. -/
def TaskRequest.Served (request : TaskRequest) (settings : Settings) (graphOps : List String) : Prop :=
  ∃ operator ∈ Operator.all, operator.name = request.operator ∧
    (∃ graphOp ∈ graphOps, graphOp ∈ operator.graphOps) ∧
    ∃ first others, operator.templates = first :: others ∧
      request.template = some ((settings.template? request.operator).getD first)

namespace Invocation

variable {call : Invocation} {settings : Settings} {target : Target}

theorem served {graphOps : List String} {filter : Filter} (made : Filter.ofGraphOps graphOps = .ok filter)
    (admitted : filter.accepts call.operator = true) :
    (call.request settings target).Served settings graphOps := by
  obtain ⟨operator, listed, same, lowers⟩ := (Filter.accepts_ofGraphOps made _).mp admitted
  obtain ⟨first, others, templates⟩ := List.exists_cons_of_ne_nil (Operator.templates_ne_nil operator listed)
  have first? : Operator.defaultTemplate? call.operator = some first := by
    rw [Operator.defaultTemplate?, Operator.named?_eq_some.mpr ⟨listed, same⟩, Option.bind_some, templates]
    rfl
  refine ⟨operator, listed, same, lowers, first, others, templates, ?_⟩
  change (settings.template? call.operator).or (Operator.defaultTemplate? call.operator) =
    some ((settings.template? call.operator).getD first)
  rw [first?]
  cases settings.template? call.operator <;> rfl

theorem template_eq_none : (call.request settings target).template = none ↔
    (∀ operator ∈ Operator.all, operator.name ≠ call.operator) ∧ settings.template? call.operator = none := by
  change (settings.template? call.operator).or (Operator.defaultTemplate? call.operator) = none ↔ _
  rw [Option.or_eq_none_iff, Operator.defaultTemplate?_eq_none, and_comm]

end Invocation

def Request.concerns (settings : Settings) (target : Target) (calls : List Invocation) :
    Request Program Params → Bool
  | .construct request => calls.any fun call => request = call.request settings target
  | _ => false

theorem Request.of_concerns {settings : Settings} {target : Target} {calls : List Invocation}
    {request : Request Program Params} (concerned : request.concerns settings target calls = true) :
    ∃ call ∈ calls, request = .construct (call.request settings target) := by
  cases request with
  | construct request =>
      obtain ⟨call, member, same⟩ := List.any_eq_true.mp concerned
      exact ⟨call, member, congrArg construct (of_decide_eq_true same)⟩
  | _ => cases concerned

namespace Extraction

open Draft

theorem asks_found (extractor : Extractor σ Program Params) (target : Target) (found calls : List Invocation)
    (member : ∀ call ∈ calls, call ∈ found) :
    (materialize extractor.settings target calls : Extraction σ Program Params Materialized).Asks
      extractor.reply (Request.concerns extractor.settings target found) := by
  induction calls with
  | nil => exact asks_pure _
  | cons call rest ih =>
      have later := ih fun other inside => member other (List.mem_cons_of_mem call inside)
      have here : (Request.construct (call.request extractor.settings target) :
          Request Program Params).concerns extractor.settings target found = true :=
        List.any_eq_true.mpr ⟨call, member call List.mem_cons_self, by simp⟩
      rw [materialize]
      apply (asks_ask here).catchFailure.bind
      intro built
      cases built with
      | ok task => exact later.bind fun _ => asks_pure _
      | error failure =>
          simp only
          split
          · exact (asks_own _).bind fun _ => later.bind fun _ => asks_pure _
          · exact asks_own _

end Extraction

theorem Draft.asks_around {ρ : Type v} {Reply : ρ → Type} {reply : (request : ρ) → Routine σ (Reply request)}
    {kind : ρ → Bool} {α β : Type} (begin : Routine σ β) (finish : β → Routine σ Unit)
    {body : Draft σ Reply α} (asks : body.Asks reply kind) : (around begin finish body).Asks reply kind := by
  refine (asks_own _).bind fun _ => (asks_lift asks).bind fun _ => (asks_own _).bind fun _ => ?_
  exact fun _ _ _ none => nomatch none

theorem Extraction.asks_traced (extractor : Extractor σ Program Params) (forgets : Bool) (pair : TargetPair)
    (work : List (Program × Params)) (filter : Option Filter) :
    (traced extractor.ledger extractor.settings forgets pair work filter).Asks extractor.reply
      Request.toPipeline := by
  have passes := asks_passes extractor forgets extractor.settings pair 0 work
  refine Draft.asks_around _ _ ((Draft.asks_own _).bind fun _ => ?_)
  refine (Draft.asks_around _ _ ?_).bind fun _ => Draft.asks_own _
  rw [quietly]
  split
  · exact Draft.asks_around _ _ passes
  · exact passes

theorem World.unhushed_ledgers (world : World σ) (mute : Bool) :
    (world.unhushed mute).ledgers = world.ledgers := by
  cases mute <;> rfl

theorem Routine.leaving_ok {α : Type} {ended : Except Exit α × Thread × World σ} {value : α} {thread : Thread}
    {last : World σ} (leaves : leaving ended = (.ok value, thread, last)) :
    ended.1 = .ok value ∧ last.ledgers = ended.2.2.ledgers := by
  obtain ⟨hook, log, frame⟩ := ended.2.2.uninstall_frame ended.2.1
  rw [leaving] at leaves
  split at leaves
  · rename_i after left
    rw [left] at frame
    simp only [Prod.mk.injEq] at leaves
    obtain ⟨ends, -, rfl⟩ := leaves
    have same := congrArg World.ledgers frame
    exact ⟨ends, same⟩
  · cases leaves

namespace Batch

variable {batch : Batch.{u} σ} {t : Thread} {world : World σ} {pair : TargetPair} {caller : Thread}
  {resolved : World σ}

/-- The traced part comes to a value only if its scope stands, and then through all its passes. -/
theorem traces_of_tracedEnd (paired : batch.programs.length = batch.params.length) (outside : t.inPass = false)
    (resolves : batch.resolving.run.exec t world = some (.ok pair, caller, resolved))
    {found : List Invocation} {thread : Thread} {last : World σ}
    (ended : batch.tracedEnd pair caller resolved = some (.ok found, thread, last)) :
    batch.Traces t world pair caller resolved := by
  rw [tracedEnd, Extractor.traced_eq] at ended
  cases free : resolved.session with
  | some holder =>
      rw [Routine.exec_exclusively_held free] at ended
      cases ended
  | none =>
      rw [Routine.exec_exclusively free, Option.map_eq_some_iff] at ended
      obtain ⟨⟨outcome, inner, left⟩, ran, same⟩ := ended
      cases same
      have sound : ((resolved.locked caller.caller).ledgers batch.extractor.ledger).poisoned = false := by
        rw [← Bool.not_eq_true]
        intro broken
        have refused : (resolved.locked caller.caller).resetLedger batch.extractor.ledger batch.filter =
            (.error .ledgerPoisoned, resolved.locked caller.caller) := by
          simp only [World.resetLedger, broken, ↓reduceIte]
        rw [Extractor.tracing, Routine.exec_bind, Routine.exec_failing _ rfl] at ran
        simp only [Action.perform, refused] at ran
        cases ran
      refine ⟨paired, outside, resolves, free, sound, ?_⟩
      rw [Extractor.exec_tracing _ _ _ sound, Extractor.inScope, Routine.exec_bind] at ran
      cases entered : (((resolved.locked caller.caller).emptied batch.extractor.ledger batch.filter).install
          caller (.ledger batch.extractor.ledger)).1 with
      | ok done => rfl
      | error exit =>
          rw [Routine.exec_intercepting_unentered entered] at ran
          cases ran

theorem Traces.found_eq (traces : batch.Traces t world pair caller resolved) {found : List Invocation}
    {thread : Thread} {last : World σ}
    (ended : batch.tracedEnd pair caller resolved = some (.ok found, thread, last)) :
    ∃ inner left, batch.lowered pair caller resolved = some (.ok (), inner, left) ∧
      (left.ledgers batch.extractor.ledger).poisoned = false ∧
      found = (left.ledgers batch.extractor.ledger).value.ordered := by
  rw [traces.tracedEnd_eq, Option.map_eq_some_iff] at ended
  obtain ⟨⟨outcome, reader, final⟩, read, same⟩ := ended
  cases same
  rw [Option.bind_eq_some_iff] at read
  obtain ⟨⟨passed, leaver, after⟩, left, read⟩ := read
  obtain ⟨⟨ended, inner, inside⟩, lowered, leaves⟩ := Option.map_eq_some_iff.mp left
  cases passed with
  | error exit => cases read
  | ok done =>
      obtain ⟨ledger, _, _, reading, listed⟩ := Routine.bind_ok read
      cases listed
      rw [Routine.exec_failing _ rfl] at reading
      have shown : after.readLedger batch.extractor.ledger = .ok ledger := by
        cases answer : after.readLedger batch.extractor.ledger with
        | error failure => simp [Action.perform, answer] at reading
        | ok other =>
            simp only [Action.perform, answer, Routine.mapError_ok, Option.some.injEq, Prod.mk.injEq,
              Except.ok.injEq] at reading
            rw [reading.1]
      obtain ⟨rfl, same⟩ := Routine.leaving_ok leaves
      have kept : after.ledgers = inside.ledgers := same.trans (inside.unhushed_ledgers _)
      have cell := World.readLedger_ok shown
      rw [kept] at cell
      exact ⟨inner, inside, lowered, by rw [cell], by rw [cell]⟩

theorem asked_of_found {asking : Asking σ (@Request.Reply batch.Program batch.Params)}
    (asked : asking ∈ batch.factoryAskings t world) :
    ∃ pair caller resolved inner left, batch.Traces t world pair caller resolved ∧
      batch.lowered pair caller resolved = some (.ok (), inner, left) ∧
      (left.ledgers batch.extractor.ledger).poisoned = false ∧
      ∃ call ∈ (left.ledgers batch.extractor.ledger).value.ordered,
        asking.request = .construct (call.request batch.extractor.settings pair.target) := by
  obtain ⟨inside, factory⟩ := List.mem_filter.mp asked
  have paired : batch.programs.length = batch.params.length := by
    by_contra differ
    rw [askings, draft, Extraction.report, if_pos differ, Draft.askings_own] at inside
    cases inside
  have outside : t.inPass = false := by
    rw [← Bool.not_eq_true]
    intro passing
    rw [askings, draft, Extraction.report, if_neg (not_not_intro paired), Draft.askings_bind,
      Draft.askings_own, Draft.routine_own, Routine.exec_perform _ rfl] at inside
    simp only [Action.perform, Option.elim_some, Draft.onwardAskings, passing, ↓reduceIte,
      List.nil_append] at inside
    rw [Draft.askings_own] at inside
    cases inside
  rw [askings_report paired outside] at inside
  rcases List.mem_cons.mp inside with rfl | inside
  · cases factory
  rcases resolves : batch.resolving.run.exec t world with _ | ⟨exit | pair, caller, resolved⟩
  all_goals rw [resolves] at inside
  · cases inside
  · cases inside
  simp only [Option.elim_some, Draft.onwardAskings] at inside
  rw [Draft.askings_bind, Extraction.routine_traced] at inside
  -- While it traces, the batch asks no factory: what asks one comes after, of the calls it found.
  rcases List.mem_append.mp inside with early | late
  · have called := Extraction.asks_traced batch.extractor _ pair _ batch.filter _ _ asking early
    exact absurd called (Request.toFactory_other factory)
  · change asking ∈ (batch.tracedEnd pair caller resolved).elim [] _ at late
    rcases ended : batch.tracedEnd pair caller resolved with _ | ⟨exit | found, thread, last⟩
    all_goals rw [ended] at late
    · cases late
    · cases late
    · have traces := traces_of_tracedEnd paired outside resolves ended
      obtain ⟨inner, left, lowered, sound, rfl⟩ := traces.found_eq ended
      refine ⟨pair, caller, resolved, inner, left, traces, lowered, sound, ?_⟩
      rw [Option.elim_some, Draft.onwardAskings, Extraction.askings_concluded] at late
      have concerned := Extraction.asks_found batch.extractor pair.target _ _ (fun _ => id) _ _ asking late
      exact Request.of_concerns concerned

/-- While the batch traces, its ledger is emptied under no filter but its own. -/
def KeepsFilter (batch : Batch.{u} σ) (t : Thread) (world : World σ) : Prop :=
  ∀ pair caller resolved, batch.Traces t world pair caller resolved →
    ∀ moment ∈ batch.lowering pair caller resolved, ∀ filter,
      moment.action.reset? batch.extractor.ledger = some filter → filter = batch.filter

/-- Each request that comes to the factory has the template that the settings or the table of operators gives
it; under a filter made from graph operators it is for an operator that one of them lowers to, and so has
one. -/
theorem requests_served (batch : Batch.{u} σ) (t : Thread) (world : World σ) :
    (∀ graphOps filter, Filter.ofGraphOps graphOps = .ok filter → batch.filter = some filter →
      batch.KeepsFilter t world → ∀ asking ∈ batch.factoryAskings t world, ∀ request,
        asking.request = .construct request → request.Served batch.extractor.settings graphOps) ∧
    ∀ asking ∈ batch.factoryAskings t world, ∀ request, asking.request = .construct request →
      (request.template = none ↔ (∀ operator ∈ Operator.all, operator.name ≠ request.operator) ∧
        batch.extractor.settings.template? request.operator = none) := by
  constructor
  · intro graphOps filter made filtered kept asking asked request constructs
    obtain ⟨pair, caller, resolved, inner, left, traces, lowered, sound, call, listed, same⟩ :=
      asked_of_found asked
    obtain rfl : request = call.request batch.extractor.settings pair.target :=
      Request.construct.inj (constructs.symm.trans same)
    have emptied := batch.extractor.opened_ledger batch.filter caller resolved
    have admitted := (Code.follows_history lowered).admitted emptied (kept pair caller resolved traces) sound
      call listed
    rw [filtered] at admitted
    exact Invocation.served made admitted
  · intro asking asked request constructs
    obtain ⟨pair, -, -, -, -, -, -, -, call, -, same⟩ := asked_of_found asked
    obtain rfl : request = call.request batch.extractor.settings pair.target :=
      Request.construct.inj (constructs.symm.trans same)
    exact Invocation.template_eq_none

def requested (batch : Batch.{u} σ) (t : Thread) (world : World σ) : List (String × Option String) :=
  (batch.factoryAskings t world).filterMap fun asking => match asking.request with
    | .construct request => some (request.operator, request.template)
    | _ => none

theorem requests_served_replay :
    let filter : Filter := .ofList ["dense"]
    let batch : Batch.{0} Unit := .replay "global"
      [[⟨"dense", ⟨[]⟩⟩, ⟨"weird", ⟨[]⟩⟩], [⟨"conv2d_nchw", ⟨[]⟩⟩]] (some filter)
    Filter.ofGraphOps ["nn.dense"] = .ok filter ∧
      batch.requested {} (.initial ()) = [("dense", some "direct")] ∧
      ∀ asking ∈ batch.factoryAskings {} (.initial ()), ∀ request, asking.request = .construct request →
        request.Served {} ["nn.dense"] := by
  intro filter batch
  have made : Filter.ofGraphOps ["nn.dense"] = .ok filter := by decide +kernel
  have kept : batch.KeepsFilter {} (.initial ()) := by
    intro pair caller resolved traces moment member other empties
    have resolves : (some (.ok ⟨default, none⟩, {}, .initial ()) :
        Option (Except Exit TargetPair × Thread × World Unit)) = some (.ok pair, caller, resolved) :=
      traces.resolves
    cases resolves
    have never : ∀ moment ∈ batch.lowering ⟨default, none⟩ {} (.initial ()),
        (moment.action.reset? batch.extractor.ledger).isNone = true :=
      List.all_eq_true.mp (by decide +kernel)
    have none := never moment member
    rw [empties] at none
    cases none
  exact ⟨made, by decide +kernel, (requests_served batch {} (.initial ())).1 _ _ made rfl kept⟩

end Batch

def Pipeline.unfiltering (ledger : String) : Pipeline σ (List Invocation) Unit :=
  { Pipeline.replay with
    lower := fun program _ _ _ => do
      .failing (.resetLedger ledger none)
      program.forM fun invocation => discard (Routine.dispatch invocation) }

/-- A pass that empties the ledger without the filter gets a task for what the filter would refuse. -/
theorem Batch.unfiltered_request :
    ∃ filter, Filter.ofGraphOps ["nn.dense"] = .ok filter ∧
      let batch : Batch.{0} Unit :=
        { extractor := { pipeline := .unfiltering "global" }
          programs := [[⟨"weird", ⟨[]⟩⟩]]
          params := [()]
          filter := some filter
          target := default
          host := none }
      batch.requested {} (.initial ()) = [("weird", none)] := by
  exact ⟨.ofList ["dense"], by decide +kernel, by decide +kernel⟩

end TuningTasks
