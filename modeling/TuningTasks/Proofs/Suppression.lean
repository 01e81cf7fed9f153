import TuningTasks.Proofs.Muting
import TuningTasks.Proofs.Narration

/-!
What log suppression hides. It is the traced part of a batch, which is all that the log is told between
the two ends of its scope: everything else is told and done as without it. Unless it is hidden, that
part has an event for each invocation of the ledger and one for each lowering of an auxiliary device.
-/
namespace TuningTasks

universe u v
variable {σ : Type} {Program : Type u} {Params : Type v} {waits : Bool}

theorem passive_ledger (name : String) : Passive fun world : World σ => world.ledgers name where
  emit _ := Action.apart_frame rfl rfl
  mute := Action.apart_frame rfl rfl
  unmute _ := Action.apart_frame rfl rfl
  spawn _ := Action.apart_frame rfl rfl

theorem Pipeline.Tidy.reply {extractor : Extractor σ Program Params}
    (tidy : extractor.pipeline.Tidy waits) {request : Request Program Params}
    (called : request.toPipeline = true) : (extractor.reply request).run.Tidy waits := by
  cases request with
  | resolve | construct => cases called
  | clearFunctions => exact Routine.tidy_panicking tidy.clearFunctions
  | lower program pair params config => exact tidy.lower program pair params config
  | clearFallback =>
      change extractor.pipeline.forgetting.run.Tidy waits
      rw [forgetting]
      split
      · rename_i clear fallback
        exact Routine.tidy_panicking (tidy.clearFallback clear fallback)
      · exact .ret _

theorem Epoch.Holds.calls {extractor : Extractor σ Program Params} {name : String}
    {calls : List (Asking σ (@Request.Reply Program Params))} {found last : Guarded Ledger}
    (linked : Linked (fun world => world.ledgers name) found calls (some last))
    (steps : ∀ asking ∈ calls, ∀ after, asking.after = some after →
      Follows asking.world (extractor.moments asking) after ∧
        (after.ledgers name).poisoned = (asking.world.ledgers name).poisoned)
    {epoch : Epoch σ} (holds : ∀ world : World σ, world.ledgers name = found → epoch.Holds name world) :
    ∀ world : World σ, world.ledgers name = last →
      ((calls.flatMap extractor.moments).foldl (Epoch.next name) epoch).Holds name world := by
  generalize reached : some last = ended at linked
  induction linked generalizing epoch with
  | ended =>
      cases reached
      exact holds
  | waiting | unanswered => cases reached
  | @answered found asking after rest _ finds answered _ ih =>
      have here := holds asking.world finds
      obtain ⟨follows, sound⟩ := steps asking List.mem_cons_self after answered
      rw [here.cell] at sound
      have later := here.history follows sound
      rw [List.flatMap_cons, List.foldl_append]
      refine ih (fun other member => steps other (List.mem_cons_of_mem _ member)) ?_ reached
      exact fun world same => ⟨same.trans later.cell, later.recorded⟩

/-! ### Recordings -/

def Event.isRecorded : Event → Bool
  | .recorded _ => true
  | _ => false

def Moment.Plain (name : String) (moment : Moment σ) : Prop :=
  moment.action.reset? name = none ∧
    ∀ call, moment.action.event? moment.world = some (.recorded call) →
      (moment.action.submitted? name).isSome

theorem Moment.said_isRecorded {moment : Moment σ} {name : String}
    (submits : (moment.action.submitted? name).isSome) : ∀ event ∈ moment.said, event.isRecorded := by
  have recording : ∀ (world : World σ) name call, ∀ event ∈ world.recording? name call,
      event.isRecorded := by
    intro world name call event
    rw [World.recording?]
    split
    · simp
    · split
      · rintro ⟨⟩
        rfl
      · simp
  obtain ⟨action, t, world⟩ := moment
  intro event member
  rw [said] at member
  split at member
  · have told := Option.mem_toList.mp member
    cases action with
    | record other call => exact recording world other call event told
    | consult hook call =>
        cases hook with
        | custom answer => cases submits
        | ledger other => exact recording world other call event told
    | _ => cases submits
  · cases member

theorem Moment.Plain.said {moment : Moment σ} {name : String} (plain : moment.Plain name) :
    moment.said.filter Event.isRecorded =
      if (moment.action.submitted? name).isSome then moment.said else [] := by
  split
  · rename_i submits
    exact List.filter_eq_self.mpr (moment.said_isRecorded submits)
  · rename_i other
    refine List.filter_eq_nil_iff.mpr fun event member recorded => other ?_
    rw [Moment.said] at member
    split at member
    · have told := Option.mem_toList.mp member
      cases event with
      | recorded call => exact plain.2 call told
      | _ => cases recorded
    · cases member

/-- Where nothing but submissions is recorded, and the ledger is not emptied, the recordings of the
epoch are all that there are. -/
theorem Epoch.said_plain {name : String} {history : List (Moment σ)}
    (plain : ∀ moment ∈ history, moment.Plain name) (epoch : Epoch σ) :
    (history.foldl (Epoch.next name) epoch).said name =
      epoch.said name ++ (history.flatMap Moment.said).filter Event.isRecorded := by
  induction history generalizing epoch with
  | nil => exact (List.append_nil _).symm
  | cons moment rest ih =>
      have here := plain moment List.mem_cons_self
      have grown : (epoch.next name moment).said name =
          epoch.said name ++ moment.said.filter Event.isRecorded := by
        rw [here.said, Epoch.said, Epoch.said, Epoch.next_kept here.1, List.filter_append,
          List.flatMap_append, List.filter_singleton]
        cases (moment.action.submitted? name).isSome <;> simp
      rw [List.foldl_cons, ih fun other member => plain other (List.mem_cons_of_mem _ member), grown,
        List.flatMap_cons, List.filter_append, List.append_assoc]

namespace Batch

variable (batch : Batch.{u} σ)

/-- What is done on other threads than those of the calls has nothing for the log and asks no hook. -/
def Direct (t : Thread) (world : World σ) : Prop :=
  ∀ asking ∈ batch.calls t world,
    (batch.extractor.reply asking.request).run.Alone asking.thread asking.world

/-- What the calls submit to the ledger of the batch they submit under no guard of their own. -/
def Unguarded (t : Thread) (world : World σ) : Prop :=
  ∀ asking ∈ batch.calls t world, ∀ moment ∈ batch.extractor.moments asking,
    (moment.action.submitted? batch.extractor.ledger).isSome →
      moment.thread.muted = asking.thread.muted

def Plain (t : Thread) (world : World σ) : Prop :=
  ∀ asking ∈ batch.calls t world, ∀ moment ∈ batch.extractor.moments asking,
    moment.Plain batch.extractor.ledger

def epoch (t : Thread) (world : World σ) : Epoch σ :=
  ((batch.calls t world).flatMap batch.extractor.moments).foldl (Epoch.next batch.extractor.ledger)
    { filter := batch.filter }

def tracedSaid (t : Thread) (world : World σ) : List Event :=
  (batch.calls t world).flatMap fun asking => asking.request.announced ++ batch.extractor.said asking

/-- Each lowering for an auxiliary device is announced, and each invocation that the ledger has in the
end has been heard of, once and in order. -/
structure Recounted (t : Thread) (world : World σ) (pair : TargetPair) (left : World σ) : Prop where
  announced : (batch.calls t world).flatMap (fun asking => asking.request.announced) =
    if pair.target.device = some "vta" then
      (loweredPrograms (batch.calls t world)).map fun _ => .auxiliaryLowering "vta"
    else []
  recorded : batch.Unguarded t world →
    (batch.epoch t world).said batch.extractor.ledger =
      (left.ledgers batch.extractor.ledger).value.ordered.map .recorded
  plainly : batch.Unguarded t world → batch.Plain t world →
    (batch.tracedSaid t world).filter Event.isRecorded =
      (left.ledgers batch.extractor.ledger).value.ordered.map .recorded

variable {batch} {t : Thread} {world : World σ}

section Calls

variable {pair : TargetPair} {caller inner : Thread} {resolved left : World σ} {passed : Except Exit Unit}

theorem Traces.unheard (traces : batch.Traces t world pair caller resolved)
    (tidy : batch.extractor.pipeline.Tidy true) (muffled : Muffled false caller resolved)
    (suppressed : batch.extractor.settings.suppressLogs = true) (direct : batch.Direct t world)
    (lowered : batch.lowered pair caller resolved = some (passed, inner, left)) :
    (batch.calls t world).flatMap batch.extractor.told = [] := by
  -- The passes have ended, so every call was answered, and its answer left the log as it was.
  have linked := traces.linked passive_hook
  rw [lowered] at linked
  rw [List.flatMap_eq_nil_iff]
  intro asking member
  have muted := (traces.accounts tidy muffled).1 asking member
  rw [suppressed] at muted
  obtain ⟨after, answered⟩ := Option.ne_none_iff_exists'.mp (linked.answers asking member)
  obtain ⟨outcome, thread, ran⟩ := traces.replies asking member after answered
  have same : after.log = asking.world.log :=
    (tidy.reply (toPipeline_of_mem_calls member)).unheard _ _ _ muted (direct asking member) ran
  have grown : after.log = asking.world.log ++ batch.extractor.said asking :=
    (Code.follows_history ran).log
  rw [same] at grown
  rw [Extractor.told, suppressed, if_pos rfl, List.nil_append]
  exact List.append_right_eq_self.mp grown.symm

theorem Traces.recorded (traces : batch.Traces t world pair caller resolved)
    (tidy : batch.extractor.pipeline.Tidy true) (muffled : Muffled false caller resolved)
    (loud : batch.extractor.settings.suppressLogs = false) (unguarded : batch.Unguarded t world)
    (lowered : batch.lowered pair caller resolved = some (passed, inner, left)) :
    (batch.epoch t world).said batch.extractor.ledger =
      (left.ledgers batch.extractor.ledger).value.ordered.map .recorded := by
  have heard := (traces.accounts tidy muffled).1
  rw [loud] at heard
  have linked := traces.linked (passive_ledger batch.extractor.ledger)
  rw [lowered] at linked
  have steps : ∀ asking ∈ batch.calls t world, ∀ after, asking.after = some after →
      Follows asking.world (batch.extractor.moments asking) after ∧
        (after.ledgers batch.extractor.ledger).poisoned =
          (asking.world.ledgers batch.extractor.ledger).poisoned := by
    intro asking member after answered
    obtain ⟨outcome, thread, ran⟩ := traces.replies asking member after answered
    have restored := (tidy.reply (toPipeline_of_mem_calls member)).restores (heard asking member).silent ran
    exact ⟨Code.follows_history ran, restored.poisoned _⟩
  have emptied : ∀ world : World σ, world.ledgers batch.extractor.ledger =
      (batch.extractor.opened batch.filter caller resolved).ledgers batch.extractor.ledger →
        (Epoch.mk batch.filter []).Holds batch.extractor.ledger world :=
    fun world same => ⟨same.trans (batch.extractor.opened_ledger _ _ _), rfl⟩
  have holds : (batch.epoch t world).Holds batch.extractor.ledger left :=
    Epoch.Holds.calls linked steps emptied left rfl
  -- Only a submission under a guard of its own could have been taken without being heard.
  have source : ∀ moment ∈ (batch.epoch t world).since, ∃ asking ∈ batch.calls t world,
      moment ∈ batch.extractor.moments asking := by
    intro moment member
    rcases Epoch.since_subset _ moment member with early | late
    · cases early
    · exact List.mem_flatMap.mp late
  rw [Epoch.said_eq, holds.recorded, holds.cell]
  · rfl
  · intro moment member
    obtain ⟨asking, asked, inside⟩ := source moment member
    obtain ⟨after, answered⟩ := Option.ne_none_iff_exists'.mp (linked.answers asking asked)
    exact (steps asking asked after answered).1.silent (heard asking asked).silent moment inside
  · intro moment member submits
    obtain ⟨asking, asked, inside⟩ := source moment member
    exact World.hears_unmuted _
      ((unguarded asking asked moment inside submits).trans (heard asking asked).muted)

theorem Traces.announced (traces : batch.Traces t world pair caller resolved)
    (tidy : batch.extractor.pipeline.Tidy true) :
    (batch.calls t world).flatMap (fun asking => asking.request.announced) =
      if pair.target.device = some "vta" then
        (loweredPrograms (batch.calls t world)).map fun _ => .auxiliaryLowering "vta"
      else [] := by
  have configs := (traces.disciplined tidy.scopes).lowers
  have each : ∀ asking ∈ batch.calls t world, asking.request.announced =
      if pair.target.device = some "vta" then
        asking.request.program?.toList.map fun _ => .auxiliaryLowering "vta"
      else [] := by
    intro asking member
    cases request : asking.request with
    | lower program target params config =>
        obtain ⟨-, -, -, rfl⟩ := configs asking member program target params config request
        rw [Request.announced]
        split
        · rfl
        · rfl
    | resolve | construct | clearFunctions | clearFallback => simp [Request.announced, Request.program?]
  rw [List.flatMap_congr each]
  split
  · generalize batch.calls t world = calls
    induction calls with
    | nil => rfl
    | cons asking rest ih => rw [List.flatMap_cons, ih, loweredPrograms_cons, List.map_append]
  · exact List.flatMap_eq_nil_iff.mpr fun _ _ => rfl

end Calls

theorem Plain.said (plain : batch.Plain t world) :
    (batch.tracedSaid t world).filter Event.isRecorded =
      (batch.epoch t world).said batch.extractor.ledger := by
  have moments : ∀ moment ∈ (batch.calls t world).flatMap batch.extractor.moments,
      moment.Plain batch.extractor.ledger := by
    intro moment member
    obtain ⟨asking, asked, inside⟩ := List.mem_flatMap.mp member
    exact plain asking asked moment inside
  have each : ∀ asking ∈ batch.calls t world,
      (asking.request.announced ++ batch.extractor.said asking).filter Event.isRecorded =
        (batch.extractor.said asking).filter Event.isRecorded := by
    intro asking _
    have announcement : asking.request.announced.filter Event.isRecorded = [] := by
      rw [List.filter_eq_nil_iff]
      intro event member
      cases request : asking.request with
      | lower program pair params config =>
          rw [request, Request.announced] at member
          obtain ⟨backend, -, rfl⟩ := List.mem_map.mp member
          exact Bool.false_ne_true
      | _ =>
          rw [request] at member
          cases member
    rw [List.filter_append, announcement, List.nil_append]
  rw [epoch, Epoch.said_plain moments, tracedSaid, List.filter_flatMap, List.flatMap_congr each,
    ← List.filter_flatMap, List.flatMap_assoc]
  rfl

/-- On a thread that is not muted, with collaborators that cannot tell whether they are heard, batches
with log suppression and without end alike but for the log. With it the log is told nothing between the
two ends of the scope, as long as nothing is logged or dispatched there on other threads; without it
the log is told all that there is to tell. -/
theorem suppression_hides_tracing (blind : batch.extractor.Blind) (tidy : batch.extractor.Tidy true)
    (silent : world.Silent) (unmuted : t.muted = false)
    (direct : (batch.suppressing true).Direct t world) :
    ((batch.suppressing true).report.run.exec t world).map bared =
        ((batch.suppressing false).report.run.exec t world).map bared ∧
      (∀ ended, (batch.suppressing true).report.run.exec t world = some ended →
        ∃ events, ended.2.2.log = world.log ++ events ∧
          (batch.suppressing true).Narrated t world [] ended.1 events) ∧
      (∀ ended, (batch.suppressing false).report.run.exec t world = some ended →
        ∃ events, ended.2.2.log = world.log ++ events ∧
          (batch.suppressing false).Narrated t world ((batch.suppressing false).tracedSaid t world)
            ended.1 events) ∧
      ∀ pair caller resolved passed inner left,
        (batch.suppressing false).Traces t world pair caller resolved →
        (batch.suppressing false).lowered pair caller resolved = some (passed, inner, left) →
          (batch.suppressing false).Recounted t world pair left := by
  have start : Muffled false t world := .of_unmuted silent unmuted
  have tidy' : ∀ on, (batch.suppressing on).extractor.Tidy true := fun _ =>
    ⟨tidy.pipeline, tidy.factory, tidy.resolver⟩
  have muffled : ∀ on pair caller resolved, (batch.suppressing on).Traces t world pair caller resolved →
      Muffled false caller resolved := fun _ _ _ _ traces =>
    start.exec (tidy.resolver _ _) traces.resolves
  refine ⟨suppressing_report blind true false t silent, ?_, ?_, ?_⟩
  · intro ended ran
    obtain ⟨events, log, narrated⟩ := narrated (tidy' true) silent unmuted ran
    refine ⟨events, log, narrated.traced ?_⟩
    intro pair caller resolved ended traces lowered
    exact traces.unheard tidy.pipeline (muffled true _ _ _ traces) rfl direct lowered
  · intro ended ran
    exact narrated (tidy' false) silent unmuted ran
  · intro pair caller resolved passed inner left traces lowered
    have recorded := fun unguarded =>
      traces.recorded tidy.pipeline (muffled false _ _ _ traces) rfl unguarded lowered
    exact ⟨traces.announced tidy.pipeline, recorded, fun unguarded plain =>
      plain.said.trans (recorded unguarded)⟩

/-! ### Instances -/

inductive LoweringStep
  | dispatch (call : Invocation)
  | hushed (call : Invocation)
  | empty

def LoweringStep.take : LoweringStep → Routine Unit Unit
  | dispatch call => discard (.dispatch call)
  | hushed call => .quietly true (discard (.dispatch call))
  | empty => .failing (.resetLedger "global" none)

/-- Its only program takes the steps, for an auxiliary device; no shape of `dense` makes a task. -/
def scripted (steps : List LoweringStep) : Batch.{0} Unit where
  Program := Unit
  Params := Unit
  extractor :=
    { pipeline :=
        { lower := fun _ _ _ _ => steps.forM LoweringStep.take
          clearFunctions := .ret (.ok ())
          clearFallback := none }
      factory := fun request =>
        if request.operator = "dense" then .fail (.invalidShape request.operator "bad")
        else pure (.ofRequest request) }
  programs := [()]
  params := [()]
  filter := none
  target := .alone { kind := "llvm", device := some "vta", keys := [], attrs := .empty }
  host := none

section Scripted

variable (steps : List LoweringStep)

theorem scripted_blind : (scripted steps).extractor.Blind where
  pipeline := by
    have lowering : (steps.forM LoweringStep.take).run.Blind := by
      induction steps with
      | nil => exact Routine.agrees_pure ()
      | cons step rest ih =>
          have dispatching : ∀ call, (discard (Routine.dispatch call) : Routine Unit Unit).run.Blind :=
            fun call => Routine.agrees_bind (Routine.agrees_dispatch call) fun _ => Routine.agrees_pure ()
          refine Routine.agrees_bind ?_ fun _ => ih
          cases step with
          | dispatch call => exact dispatching call
          | hushed call => exact Routine.agrees_quietly true true (dispatching call)
          | empty => exact Routine.agrees_failing rfl
    exact ⟨fun _ _ _ _ => lowering, Code.agrees_ret _, fun _ none => nomatch none⟩
  factory request := by
    change (if request.operator = "dense" then _ else _ : Routine Unit Task).run.Blind
    split
    · exact Routine.agrees_fail _
    · exact Routine.agrees_pure _
  resolver _ _ := Code.agrees_ret _

theorem scripted_tidy : (scripted steps).extractor.Tidy true where
  pipeline := by
    have lowering : (steps.forM LoweringStep.take).run.Tidy true := by
      induction steps with
      | nil => exact Routine.tidy_pure ()
      | cons step rest ih =>
          have dispatching : ∀ call, (discard (Routine.dispatch call) : Routine Unit Unit).run.Tidy true :=
            fun call => Routine.tidy_bind (Routine.tidy_dispatch call) fun _ => Routine.tidy_pure _
          refine Routine.tidy_bind ?_ fun _ => ih
          cases step with
          | dispatch call => exact dispatching call
          | hushed call => exact Routine.tidy_quietly true (dispatching call)
          | empty => exact .act trivial fun _ => .ret _
    exact ⟨fun _ _ _ _ => lowering, .ret _, fun _ none => nomatch none⟩
  factory request := by
    change (if request.operator = "dense" then _ else _ : Routine Unit Task).run.Tidy true
    split
    · exact .ret _
    · exact .ret _
  resolver _ _ := .ret _

theorem scripted_direct (on : Bool) (t : Thread) (world : World Unit) :
    ((scripted steps).suppressing on).Direct t world := by
  have dispatching : ∀ call t world,
      (discard (Routine.dispatch call) : Routine Unit Unit).run.Alone t world := by
    intro call t world
    refine Routine.alone_bind.mpr ⟨?_, fun _ _ _ _ => trivial⟩
    refine Routine.alone_bind.mpr ⟨fun _ => trivial, fun slot _ _ _ => ?_⟩
    cases slot with
    | none => trivial
    | some hook => exact fun _ => trivial
  have lowering : ∀ t world, (steps.forM LoweringStep.take).run.Alone t world := by
    induction steps with
    | nil => exact fun _ _ => trivial
    | cons step rest ih =>
        intro t world
        refine Routine.alone_bind.mpr ⟨?_, fun _ thread last _ => ih thread last⟩
        cases step with
        | dispatch call => exact dispatching call t world
        | hushed call =>
            refine Routine.alone_bind.mpr ⟨fun _ => trivial, fun _ thread start _ => ?_⟩
            refine Routine.alone_bind.mpr ⟨?_, fun _ _ _ _ _ => trivial⟩
            exact Routine.alone_lift.mpr (dispatching call thread start)
        | empty => exact fun _ => trivial
  intro asking member
  have called := toPipeline_of_mem_calls member
  cases request : asking.request with
  | resolve | construct =>
      rw [request] at called
      cases called
  | lower => exact lowering _ _
  | clearFunctions | clearFallback => trivial

end Scripted

/-- One of two invocations is skipped. What is hidden is their recordings and the announcement. -/
theorem suppression_hides_tracing_scripted :
    let dense : Invocation := ⟨"dense", ⟨[]⟩⟩
    let conv : Invocation := ⟨"conv2d_nchw", ⟨[]⟩⟩
    let batch := scripted [.dispatch dense, .dispatch conv, .dispatch dense]
    ∃ hidden told : Except Exit Report × Thread × World Unit,
      (batch.suppressing true).report.run.exec {} (.initial ()) = some hidden ∧
      (batch.suppressing false).report.run.exec {} (.initial ()) = some told ∧
      bared hidden = bared told ∧
      hidden.2.2.log = [.scopeEntered, .scopeExited, .skipped dense "bad",
        .extracted batch.target 1 2 1 1] ∧
      told.2.2.log = [.scopeEntered, .auxiliaryLowering "vta", .recorded dense, .recorded conv,
        .scopeExited, .skipped dense "bad", .extracted batch.target 1 2 1 1] ∧
      (batch.suppressing true).Narrated {} (.initial ()) [] hidden.1 hidden.2.2.log ∧
      (batch.suppressing false).Narrated {} (.initial ())
        [.auxiliaryLowering "vta", .recorded dense, .recorded conv] told.1 told.2.2.log ∧
      ∃ left, (batch.suppressing false).Recounted {} (.initial ()) ⟨batch.target, none⟩ left ∧
        (left.ledgers "global").value.ordered = [dense, conv] := by
  intro dense conv batch
  have hiddenLog : ((batch.suppressing true).report.run.exec {} (.initial ())).map
      (fun ended => ended.2.2.log) = some [.scopeEntered, .scopeExited, .skipped dense "bad",
        .extracted batch.target 1 2 1 1] := by decide +kernel
  have toldLog : ((batch.suppressing false).report.run.exec {} (.initial ())).map
      (fun ended => ended.2.2.log) = some [.scopeEntered, .auxiliaryLowering "vta", .recorded dense,
        .recorded conv, .scopeExited, .skipped dense "bad", .extracted batch.target 1 2 1 1] := by
    decide +kernel
  have traced : (batch.suppressing false).tracedSaid {} (.initial ()) =
      [.auxiliaryLowering "vta", .recorded dense, .recorded conv] := by decide +kernel
  have ledger : ((batch.suppressing false).lowered ⟨batch.target, none⟩ {} (.initial ())).map
      (fun ended => (ended.2.2.ledgers "global").value.ordered) = some [dense, conv] := by
    decide +kernel
  obtain ⟨hidden, hides, hiddenLog⟩ := Option.map_eq_some_iff.mp hiddenLog
  obtain ⟨told, tells, toldLog⟩ := Option.map_eq_some_iff.mp toldLog
  obtain ⟨⟨passed, inner, left⟩, lowered, ordered⟩ := Option.map_eq_some_iff.mp ledger
  have traces : (batch.suppressing false).Traces {} (.initial ()) ⟨batch.target, none⟩ {} (.initial ()) :=
    ⟨rfl, rfl, rfl, rfl, rfl, rfl⟩
  obtain ⟨same, quiet, loud, recounted⟩ := @suppression_hides_tracing Unit batch {}
    (.initial ()) (scripted_blind _) (scripted_tidy _) (fun _ _ => rfl) rfl
    (scripted_direct _ true {} (.initial ()))
  rw [hides, tells] at same
  rw [traced] at loud
  obtain ⟨events, log, narrated⟩ := quiet hidden hides
  obtain ⟨events', log', narrated'⟩ := loud told tells
  have first : hidden.2.2.log = events := log
  have second : told.2.2.log = events' := log'
  subst first second
  exact ⟨hidden, told, hides, tells, Option.some.inj same, hiddenLog, toldLog, narrated, narrated', left,
    recounted _ _ _ _ _ _ traces lowered, ordered⟩

/-- A program that empties the ledger between two dispatches of one invocation is told to have recorded
it twice, while the ledger has it once. Of what is dispatched under a guard of its own nothing is told. -/
theorem recordings_miscounted :
    let call : Invocation := ⟨"dense", ⟨[]⟩⟩
    let emptying := scripted [.dispatch call, .empty, .dispatch call]
    let guarding := scripted [.hushed call]
    let recorded (batch : Batch Unit) :=
      ((batch.suppressing false).report.run.exec {} (.initial ())).map fun ended =>
        (ended.1.isOk, ended.2.2.log.filter Event.isRecorded, (ended.2.2.ledgers "global").value.ordered)
    (∀ batch ∈ [emptying, guarding], batch.extractor.Blind ∧ batch.extractor.Tidy true ∧
      ∀ on, (batch.suppressing on).Direct {} (.initial ())) ∧
      recorded emptying = some (true, [.recorded call, .recorded call], [call]) ∧
      recorded guarding = some (true, [], [call]) := by
  intro call emptying guarding recorded
  refine ⟨fun batch member => ?_, by decide +kernel, by decide +kernel⟩
  obtain ⟨steps, rfl⟩ : ∃ steps, batch = scripted steps := by
    rcases List.mem_pair.mp member with rfl | rfl
    · exact ⟨_, rfl⟩
    · exact ⟨_, rfl⟩
  exact ⟨scripted_blind _, scripted_tidy _, fun on => scripted_direct _ on _ _⟩

end Batch

end TuningTasks
