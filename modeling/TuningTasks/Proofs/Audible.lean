import TuningTasks.Proofs.LedgerLaw
import TuningTasks.Proofs.Tracing

/-!
What comes to the log. Along a history the log grows by what is heard, moment by moment. Tidy code
that is called on a muted thread logs nothing, as long as it leaves no logging to other threads.
-/
namespace TuningTasks

variable {σ α β : Type} {waits : Bool}

/-! ### The events of a history -/

def World.recording? (world : World σ) (name : String) (call : Invocation) : Option Event :=
  if (world.ledgers name).poisoned then none
  else if (world.ledgers name).value.outcome call = .recorded then some (.recorded call) else none

/-- The event that the action has for the log, heard or not. -/
def Action.event? (world : World σ) : Action σ β → Option Event
  | .emit event => some event
  | .record name call | .consult (.ledger name) call => world.recording? name call
  | .install _ => if world.hook.poisoned || world.hook.value.isSome then none else some .scopeEntered
  | .uninstall => some .scopeExited
  | .warnOnce cache message =>
      if (world.caches cache).hasWarned message then none else some (.fallback message)
  | _ => none

def Moment.said (moment : Moment σ) : List Event :=
  if moment.world.hears moment.thread then (moment.action.event? moment.world).toList else []

/-- What the sink panics with on the event of an action, where the action finds it. -/
def Moment.alarm? (moment : Moment σ) : Option Panic :=
  (moment.action.event? moment.world).bind (moment.world.panicOn moment.thread)

namespace World

variable (world : World σ) (t : Thread)

theorem logged_log (event : Event) :
    (world.logged t event).log = world.log ++ if world.hears t then [event] else [] := by
  rw [logged]
  cases world.hears t with
  | false => exact (List.append_nil _).symm
  | true => rfl

theorem hushed_log (mute : Bool) : (world.hushed mute).log = world.log := by
  cases mute <;> rfl

theorem unhushed_log (mute : Bool) : (world.unhushed mute).log = world.log := by
  cases mute <;> rfl

theorem hears_unmuted {t : Thread} (unmuted : t.muted = false) : world.hears t = true := by
  simp [hears, unmuted]

theorem logged_unheard {world : World σ} {t : Thread} (unheard : world.hears t = false)
    (event : Event) : world.logged t event = world := by
  rw [logged, unheard]
  rfl

theorem emit_log (changed : World σ) (log : changed.log = world.log)
    (guards : changed.guards = world.guards) (event : Event) :
    (changed.emit t event).2.log = world.log ++ if world.hears t then [event] else [] := by
  have hears : changed.hears t = world.hears t := by rw [World.hears, guards, World.hears]
  rw [emit_snd, logged_log, log, hears]

theorem record_log (name : String) (call : Invocation) :
    (world.record t name call).2.log =
      world.log ++ if world.hears t then (world.recording? name call).toList else [] := by
  have grown := world.emit_log t world rfl rfl (.recorded call)
  simp only [record, recording?]
  split
  · simp
  · cases outcome : (world.ledgers name).value.outcome call with
    | recorded =>
        rcases emitted : world.emit t (.recorded call) with ⟨panic | done, after⟩
        all_goals
          rw [emitted] at grown
          simpa [setLedger] using grown
    | duplicate | filtered => simp

end World

namespace Moment

theorem after_log (moment : Moment σ) : moment.after.log = moment.world.log ++ moment.said := by
  obtain ⟨action, t, world⟩ := moment
  cases action with
  | emit event =>
      have grown := world.emit_log t world rfl rfl event
      simpa [after, said, Action.perform, Action.event?] using grown
  | record name call => exact world.record_log t name call
  | consult hook call =>
      cases hook with
      | ledger name => exact world.record_log t name call
      | custom answer => simp [after, said, Action.perform, Action.event?, World.consult]
  | install hook =>
      have grown := world.emit_log t { world with hook := { value := some hook } } rfl rfl .scopeEntered
      rcases world.hook_cases with broken | ⟨active, busy⟩ | idle
      · simp [after, said, Action.perform, Action.event?, World.install_poisoned broken, broken]
      · simp [after, said, Action.perform, Action.event?, World.install_active busy, busy]
      · simp only [after, said, Action.perform, Action.event?, World.install, idle]
        rcases entered : ({ world with hook := { value := some hook } } : World σ).emit t .scopeEntered
          with ⟨panic | done, last⟩
        all_goals
          rw [entered] at grown
          simpa using grown
  | uninstall =>
      have grown := world.emit_log t { world with hook := { world.hook with value := none } } rfl rfl
        .scopeExited
      simp only [after, said, Action.perform, Action.event?, World.uninstall]
      rcases exited : ({ world with hook := { world.hook with value := none } } : World σ).emit t .scopeExited
        with ⟨panic | done, last⟩
      all_goals
        rw [exited] at grown
        simpa using grown
  | warnOnce cache message =>
      have grown := world.emit_log t (world.setCache cache ((world.caches cache).warn message)) rfl rfl
        (.fallback message)
      simp only [after, said, Action.perform, Action.event?, World.warnOnce]
      split
      · simp
      · simpa using grown
  | resetLedger name filter =>
      obtain ⟨_, same⟩ := world.resetLedger_frame name filter
      simp [after, said, Action.perform, Action.event?, same]
  | thread | mute | unmute | installedHook | isTracing | readLedger | updateCache | lockSession
  | unlockSession | spawn | client =>
      simp [after, said, Action.perform, Action.event?, World.setCache, World.spawn]

def Still (moment : Moment σ) : Prop :=
  moment.action.event? moment.world = none ∧ moment.action.asked? = none

theorem Still.said {moment : Moment σ} (still : moment.Still) : moment.said = [] := by
  rw [Moment.said, still.1]
  split <;> rfl

theorem unheard_said {moment : Moment σ} (unheard : moment.world.hears moment.thread = false) :
    moment.said = [] := by
  rw [said, unheard]
  rfl

end Moment

theorem Follows.log {first last : World σ} {history : List (Moment σ)}
    (follows : Follows first history last) :
    last.log = first.log ++ history.flatMap Moment.said := by
  induction follows with
  | nil => simp
  | cons moment _ ih => rw [ih, moment.after_log, List.flatMap_cons, List.append_assoc]

theorem Follows.silent {first last : World σ} {history : List (Moment σ)}
    (follows : Follows first history last) (silent : first.Silent) :
    ∀ moment ∈ history, moment.world.Silent := by
  induction follows with
  | nil => exact fun _ none => nomatch none
  | cons moment _ ih =>
      intro other member
      rcases List.mem_cons.mp member with rfl | member
      · exact silent
      · exact ih (moment.action.perform_silent silent moment.thread) other member

/-! ### The events of an epoch -/

/-- What is heard of a submission is that its ledger takes it, if it does. -/
theorem Moment.said_submitted {moment : Moment σ} {name : String} {call : Invocation}
    (submits : moment.action.submitted? name = some call) (silent : moment.world.Silent)
    (heard : moment.world.hears moment.thread = true) :
    moment.said = (moment.recorded? name).toList.map .recorded := by
  have event : moment.action.event? moment.world = moment.world.recording? name call := by
    obtain ⟨action, t, world⟩ := moment
    cases action with
    | record other found =>
        obtain ⟨rfl, rfl⟩ : other = name ∧ found = call := by simpa [Action.submitted?] using submits
        rfl
    | consult hook found =>
        cases hook with
        | custom answer => cases submits
        | ledger other =>
            obtain ⟨rfl, rfl⟩ : other = name ∧ found = call := by simpa [Action.submitted?] using submits
            rfl
    | _ => cases submits
  rw [said, heard, if_pos rfl, event, recorded?, submits, Option.filter_some, World.recording?]
  cases sound : (moment.world.ledgers name).poisoned with
  | true => simp [World.record_broken sound]
  | false =>
      obtain ⟨log, recorded⟩ := World.record_sound silent sound moment.thread call
      rw [recorded]
      cases (moment.world.ledgers name).value.outcome call <;> simp

namespace Epoch

variable {name : String} {epoch : Epoch σ}

theorem since_subset (history : List (Moment σ)) :
    ∀ moment ∈ (history.foldl (next name) epoch).since, moment ∈ epoch.since ∨ moment ∈ history := by
  induction history generalizing epoch with
  | nil => exact fun _ member => Or.inl member
  | cons first rest ih =>
      intro moment member
      rcases ih moment member with early | late
      · rw [next] at early
        split at early
        · cases early
        · rcases List.mem_append.mp early with before | here
          · exact Or.inl before
          · exact Or.inr (List.mem_cons.mpr (Or.inl (List.mem_singleton.mp here)))
      · exact Or.inr (List.mem_cons_of_mem first late)

def said (name : String) (epoch : Epoch σ) : List Event :=
  (epoch.since.filter fun moment => (moment.action.submitted? name).isSome).flatMap Moment.said

/-- One event for each invocation that has been recorded, in order. -/
theorem said_eq (silent : ∀ moment ∈ epoch.since, moment.world.Silent)
    (heard : ∀ moment ∈ epoch.since, (moment.action.submitted? name).isSome →
      moment.world.hears moment.thread = true) :
    epoch.said name = (epoch.recorded name).map .recorded := by
  rw [said, recorded]
  generalize epoch.since = since at silent heard
  induction since with
  | nil => rfl
  | cons moment rest ih =>
      have later := ih (fun other member => silent other (List.mem_cons_of_mem _ member))
        (fun other member => heard other (List.mem_cons_of_mem _ member))
      cases submits : moment.action.submitted? name with
      | none =>
          have unrecorded : moment.recorded? name = none := by
            rw [Moment.recorded?, submits]
            rfl
          rw [List.filter_cons_of_neg (by simp [submits]), List.filterMap_cons_none unrecorded, later]
      | some call =>
          have here := Moment.said_submitted submits (silent moment List.mem_cons_self)
            (heard moment List.mem_cons_self (by rw [submits]; rfl))
          rw [List.filter_cons_of_pos (by simp [submits]), List.flatMap_cons, here, later]
          cases recorded : moment.recorded? name with
          | none => rw [List.filterMap_cons_none recorded]; rfl
          | some found => rw [List.filterMap_cons_some recorded]; rfl

end Epoch

/-! ### Code that logs and dispatches on its own thread -/

namespace Code

/-- In a run from there, what is done on other threads has nothing for the log and asks no hook. -/
def Alone : {α : Type} → Code σ α → Thread → World σ → Prop
  | _, ret _, _, _ => True
  | _, act action next, t, world => action.ready world = true →
      (next (action.perform t world).1).Alone (action.perform t world).2.1 (action.perform t world).2.2
  | _, fork thread body next, t, world =>
      (∀ moment ∈ body.history { thread with caller := t.caller } world, moment.Still) ∧
        ∀ ended, body.exec { thread with caller := t.caller } world = some ended →
          (next ended.1).Alone t ended.2.2

theorem alone_bind {code : Code σ α} {f : α → Code σ β} {t : Thread} {world : World σ} :
    (code.bind f).Alone t world ↔ code.Alone t world ∧
      ∀ ended, code.exec t world = some ended → (f ended.1).Alone ended.2.1 ended.2.2 := by
  induction code generalizing t world with
  | ret value => simp [bind, Alone, exec]
  | act action next ih =>
      simp only [bind, Alone, exec, ih]
      cases action.ready world with
      | true => simp
      | false => simp
  | fork thread body next _ ih =>
      simp only [bind, Alone, exec, ih]
      cases body.exec { thread with caller := t.caller } world with
      | none => simp
      | some ended => simp [and_assoc]

end Code

namespace Routine

variable {routine : Routine σ α} {rest : α → Routine σ β} {t : Thread} {world : World σ}

theorem alone_bind : (routine >>= rest).run.Alone t world ↔ routine.run.Alone t world ∧
    ∀ value thread last, routine.run.exec t world = some (.ok value, thread, last) →
      (rest value).run.Alone thread last := by
  have split : (routine >>= rest).run = routine.run.bind (ExceptT.bindCont rest) := rfl
  rw [split, Code.alone_bind]
  refine and_congr_right fun _ => ⟨fun each value thread last ran => each _ ran, ?_⟩
  rintro each ⟨exit | value, thread, last⟩ ran
  · trivial
  · exact each value thread last ran

theorem alone_lift {code : Code σ α} :
    (ExceptT.lift code : Routine σ α).run.Alone t world ↔ code.Alone t world := by
  change (code.bind _).Alone t world ↔ _
  rw [Code.alone_bind]
  exact ⟨And.left, fun alone => ⟨alone, fun _ _ => trivial⟩⟩

theorem Alone.within {begin : Routine σ β} {finish : β → Routine σ Unit} {body : Routine σ α}
    (alone : (do
      let found ← begin
      let ended ← ExceptT.lift body.run
      finish found
      ExceptT.mk (pure ended) : Routine σ α).run.Alone t world)
    {found : β} {thread : Thread} {start : World σ}
    (began : begin.run.exec t world = some (.ok found, thread, start)) : body.run.Alone thread start :=
  alone_lift.mp (alone_bind.mp ((alone_bind.mp alone).2 found thread start began)).1

end Routine

/-! ### Muted code -/

/-- The thread is muted, or not, as said. While it is, a guard is held; no event stops it. -/
structure Muffled (mute : Bool) (t : Thread) (world : World σ) : Prop where
  silent : world.Silent
  muted : t.muted = mute
  held : mute = true → 0 < world.guards

namespace Muffled

variable {mute : Bool} {t thread : Thread} {world last : World σ}

theorem of_unmuted (silent : world.Silent) (unmuted : t.muted = false) : Muffled false t world :=
  ⟨silent, unmuted, fun muted => absurd muted Bool.false_ne_true⟩

theorem hears (muffled : Muffled mute t world) : world.hears t = !mute := by
  rw [World.hears, muffled.muted]
  cases mute with
  | false => simp
  | true => simp [Nat.pos_iff_ne_zero.mp (muffled.held rfl)]

theorem restored (muffled : Muffled mute t world) (restored : Restored t world thread last)
    (silent : last.Silent) : Muffled mute thread last where
  silent := silent
  muted := by rw [restored.thread, muffled.muted]
  held muted := by rw [restored.guards]; exact muffled.held muted

theorem exec (muffled : Muffled mute t world) {code : Code σ α} (tidy : code.Tidy waits) {answer : α}
    (ended : code.exec t world = some (answer, thread, last)) : Muffled mute thread last :=
  muffled.restored (tidy.restores muffled.silent ended) (Code.exec_silent ended muffled.silent)

theorem after (muffled : Muffled true t world) (action : Action σ β) :
    (action.perform t world).2.2.log = world.log := by
  have grown := Moment.after_log ⟨action, t, world⟩
  rwa [Moment.unheard_said muffled.hears, List.append_nil] at grown

end Muffled

/-- A run from a muted thread leaves the log as it is, if the code is alone in logging. -/
def Code.Unheard (code : Code σ α) : Prop :=
  ∀ t world ended, Muffled true t world → code.Alone t world → code.exec t world = some ended →
    ended.2.2.log = world.log

theorem Code.Unheard.bind {code : Code σ α} {f : α → Code σ β} (first : code.Unheard)
    (tidy : code.Tidy waits) (later : ∀ value, (f value).Unheard) : (code.bind f).Unheard := by
  intro t world last muffled alone ended
  rw [exec_bind, Option.bind_eq_some_iff] at ended
  obtain ⟨⟨value, middle, between⟩, ran, ended⟩ := ended
  obtain ⟨here, rest⟩ := alone_bind.mp alone
  have before := first t world _ muffled here ran
  exact (later value _ _ _ (muffled.exec tidy ran) (rest _ ran) ended).trans before

namespace Routine

theorem unheard_dispatch (call : Invocation) : (dispatch call : Routine σ Decision).run.Unheard := by
  intro t world last muffled _ ended
  rw [exec_dispatch, Option.some.injEq] at ended
  split at ended
  · cases ended
    rfl
  · cases ended
    rfl
  · rename_i hook _
    cases ended
    exact muffled.after (.consult hook call)

variable {body : Routine σ α}

theorem unheard_intercepting (hook : Hook σ) (tidy : body.run.Tidy waits) (inside : body.run.Unheard) :
    (intercepting hook body).run.Unheard := by
  intro t world last muffled alone ended
  rcases world.hook_cases with broken | ⟨active, busy⟩ | idle
  · rw [exec_intercepting_refused (World.install_poisoned broken t hook)] at ended
    cases ended
    rfl
  · rw [exec_intercepting_refused (World.install_active busy t hook)] at ended
    cases ended
    rfl
  · have entered : (attempt (.install hook) : Routine σ Unit).run.exec t world =
        some (.ok (), t, world.installed t hook) := by
      rw [exec_attempt _ rfl]
      simp only [Action.perform, World.install_idle muffled.silent idle]
    have opened : Muffled true t (world.installed t hook) :=
      ⟨muffled.silent.installed t hook, muffled.muted, muffled.held⟩
    have entering : (world.installed t hook).log = world.log := by
      rw [World.installed, World.logged_unheard]
      exact muffled.hears
    rw [exec_intercepting_idle muffled.silent idle, Option.map_eq_some_iff] at ended
    obtain ⟨⟨value, final, left⟩, ran, closes⟩ := ended
    have within := inside _ _ _ opened (Alone.within alone entered) ran
    have closing := opened.exec tidy ran
    cases closes
    rw [World.uninstalled, World.logged_unheard]
    · exact within.trans entering
    · exact closing.hears

theorem unheard_quietly (inside : body.run.Unheard) : (quietly true body).run.Unheard := by
  intro t world last muffled alone ended
  have muting : (perform .mute : Routine σ Bool).run.exec t world =
      some (.ok t.muted, { t with muted := true }, world.guarded) := rfl
  have hushed : Muffled true { t with muted := true } world.guarded :=
    ⟨muffled.silent.guarded, rfl, fun _ => Nat.succ_pos _⟩
  rw [exec_quietly, Option.map_eq_some_iff] at ended
  obtain ⟨⟨value, final, left⟩, ran, closes⟩ := ended
  have within := inside _ _ _ hushed (Alone.within alone muting) ran
  cases closes
  exact within

theorem unheard_exclusively (inside : body.run.Unheard) : (exclusively body).run.Unheard := by
  intro t world last muffled alone ended
  cases free : world.session with
  | some holder =>
      rw [exec_exclusively_held free] at ended
      cases ended
  | none =>
      have ready : (Action.lockSession : Action σ Unit).ready world = true := by
        simp [Action.ready, free]
      have locking : (perform .lockSession : Routine σ Unit).run.exec t world =
          some (.ok (), t, world.locked t.caller) := exec_perform _ ready
      have locked : Muffled true t (world.locked t.caller) :=
        ⟨muffled.silent.locked _, muffled.muted, muffled.held⟩
      rw [exec_exclusively free, Option.map_eq_some_iff] at ended
      obtain ⟨⟨value, final, left⟩, ran, closes⟩ := ended
      have within := inside _ _ _ locked (Alone.within alone locking) ran
      cases closes
      exact within

end Routine

/-- On a muted thread tidy code leaves the log as it is, if it is alone in logging. -/
theorem Code.Tidy.unheard {code : Code σ α} (tidy : code.Tidy waits) : code.Unheard := by
  induction tidy with
  | ret value =>
      intro t world last _ _ ended
      cases ended
      rfl
  | @act _ _ action next plain _ ih =>
      intro t world last muffled alone ended
      simp only [exec] at ended
      split at ended
      · rename_i ready
        have later := muffled.restored (plain.restores muffled.silent t)
          (action.perform_silent muffled.silent t)
        exact (ih _ _ _ _ later (alone ready) ended).trans (muffled.after action)
      · cases ended
  | @fork _ _ thread' body next inside _ _ ih =>
      intro t world last muffled alone ended
      simp only [exec] at ended
      split at ended
      · rename_i value final after joined
        -- The other thread may well be heard, but it has nothing to say.
        have still : (body.history { thread' with caller := t.caller } world).flatMap Moment.said = [] :=
          List.flatMap_eq_nil_iff.mpr fun moment member => (alone.1 moment member).said
        have grown := (follows_history joined).log
        rw [still, List.append_nil] at grown
        have later := muffled.restored (inside.restores muffled.silent joined).joined
          (exec_silent joined muffled.silent)
        exact (ih value _ _ _ later (alone.2 _ joined) ended).trans grown
      · cases ended
  | dispatch call _ ih =>
      have whole : (Routine.dispatch call : Routine σ Decision).run.Tidy waits := Routine.tidy_dispatch call
      exact (Routine.unheard_dispatch call).bind whole ih
  | scope hook inside _ inner ih =>
      exact (Routine.unheard_intercepting hook inside inner).bind (Routine.tidy_intercepting hook inside) ih
  | quiet inside _ inner ih =>
      exact (Routine.unheard_quietly inner).bind (Routine.tidy_quietly true inside) ih
  | session may inside _ inner ih =>
      exact (Routine.unheard_exclusively inner).bind (Routine.tidy_exclusively may inside) ih

end TuningTasks
