import TuningTasks.Proofs.Running
import TuningTasks.Proofs.Stages

/-!
What one of several extractions may do, and when. The state of the callbacks has a part for each of
them, and each has caches of its own. An extraction goes through its stages once; what it does with the
lock, its ledger and the slot moves it on, and what else it does keeps to what is its own.
-/
namespace TuningTasks

universe u v
variable {n : Nat} {τ : Fin n → Type} {α β : Type} {Program : Type u} {Params : Type v}

abbrev Parts (τ : Fin n → Type) : Type := (index : Fin n) → τ index

inductive Stage
  | outside
  | locked
  | emptied
  | tracing
  | left
  | closed
deriving DecidableEq

def Stage.holds : Stage → Bool
  | outside | closed => false
  | locked | emptied | tracing | left => true

def Stage.records : Stage → Bool
  | emptied | tracing | left => true
  | outside | locked | closed => false

/-- One extraction among others: its number, its ledger with its filter, and whose every cache is. -/
structure Role (n : Nat) where
  index : Fin n
  ledger : String
  filter : Option Filter
  owner : String → Option (Fin n)

namespace Role

variable (role : Role n)

/-- Touches the thread, the log and what belongs to the role alone. -/
def Own : Action (Parts τ) β → Prop
  | .thread | .mute | .unmute _ | .emit _ | .spawn _ => True
  | .warnOnce cache _ | .updateCache cache _ => role.owner cache = some role.index
  | .client change =>
      (∀ parts parts', parts role.index = parts' role.index →
        change parts role.index = change parts' role.index) ∧
      ∀ parts other, other ≠ role.index → change parts other = parts other
  | _ => False

inductive Turn : {β : Type} → Action (Parts τ) β → Stage → Stage → Prop
  | lock : Turn .lockSession .outside .locked
  | empty : Turn (.resetLedger role.ledger role.filter) .locked .emptied
  | enter : Turn (.install (.ledger role.ledger)) .emptied .tracing
  | look : Turn .installedHook .tracing .tracing
  | ask (call : Invocation) : Turn (.consult (.ledger role.ledger) call) .tracing .tracing
  | check : Turn .isTracing .tracing .tracing
  | leave : Turn .uninstall .tracing .left
  | read : Turn (.readLedger role.ledger) .left .left
  | unlock : Turn .unlockSession .left .closed
  | own {β : Type} {action : Action (Parts τ) β} (stage : Stage) (own : role.Own action) :
      Turn action stage stage

/-- What the action answers, inside a pass or outside, while the turns are kept. -/
def Fits (inside : Bool) : Action (Parts τ) β → β → Prop
  | .thread, answer => answer.inPass = inside
  | .emit _, answer | .install _, answer | .uninstall, answer | .resetLedger .., answer =>
      answer = .ok ()
  | .installedHook, answer => answer = .ok (some (.ledger role.ledger))
  | .isTracing, answer => answer = true
  | .consult .., answer => ∃ decision, answer = .ok decision
  | .readLedger _, answer => ∃ ledger, answer = .ok ledger
  | .warnOnce .., answer => ∃ emitted, answer = .ok emitted
  | _, _ => True

def Alike : Action (Parts τ) β → β → β → Prop
  | .client _, parts, parts' => parts role.index = parts' role.index
  | _, answer, answer' => answer = answer'

/-- The code keeps to the turns of the role from the stage on, and ends as said. -/
def Keeps : {α : Type} → Bool → Stage → Code (Parts τ) α → (Stage → α → Prop) → Prop
  | _, _, stage, .ret value, post => post stage value
  | _, inside, stage, .act action next, post => ∃ later, role.Turn action stage later ∧
      (∀ answer answer', role.Alike action answer answer' → next answer = next answer') ∧
      ∀ answer, role.Fits inside action answer → Keeps inside later (next answer) post
  | _, inside, stage, .fork thread body next, post => ∃ middle : _ → Prop,
      Keeps thread.inPass stage body (fun later value => later = stage ∧ middle value) ∧
      ∀ value, middle value → Keeps inside stage (next value) post

variable {role} {inside : Bool} {stage : Stage}

theorem Own.ready {action : Action (Parts τ) β} (own : role.Own action) (world : World (Parts τ)) :
    action.ready world = true := by
  cases action <;> first | rfl | exact own.elim

theorem Turn.ready {action : Action (Parts τ) β} {later : Stage} (turn : role.Turn action stage later)
    {world : World (Parts τ)} (free : stage.holds = false → world.session = none) :
    action.ready world = true := by
  cases turn with
  | lock => simp [Action.ready, free rfl]
  | empty | enter | look | ask | check | leave | read | unlock => rfl
  | own stage own => exact own.ready world

theorem Keeps.mono {code : Code (Parts τ) α} {post post' : Stage → α → Prop}
    (keeps : role.Keeps inside stage code post)
    (implies : ∀ later value, post later value → post' later value) :
    role.Keeps inside stage code post' := by
  induction code generalizing stage with
  | ret value => exact implies _ _ keeps
  | act action next ih =>
      obtain ⟨later, turn, blind, rest⟩ := keeps
      exact ⟨later, turn, blind, fun answer fits => ih answer (rest answer fits) implies⟩
  | fork thread body next _ ih =>
      obtain ⟨middle, body, rest⟩ := keeps
      exact ⟨middle, body, fun value ended => ih value (rest value ended) implies⟩

theorem Keeps.bind {code : Code (Parts τ) α} {f : α → Code (Parts τ) β}
    {middle : Stage → α → Prop} {post : Stage → β → Prop} (first : role.Keeps inside stage code middle)
    (rest : ∀ later value, middle later value → role.Keeps inside later (f value) post) :
    role.Keeps inside stage (code.bind f) post := by
  induction code generalizing stage with
  | ret value => exact rest _ _ first
  | act action next ih =>
      obtain ⟨later, turn, blind, after⟩ := first
      refine ⟨later, turn, ?_, fun answer fits => ih answer (after answer fits) rest⟩
      intro answer answer' alike
      exact congrArg (fun code => code.bind f) (blind answer answer' alike)
  | fork thread body next _ ih =>
      obtain ⟨middle, body, after⟩ := first
      exact ⟨middle, body, fun value ended => ih value (after value ended) rest⟩

abbrev Stays (role : Role n) (inside : Bool) (stage : Stage) (code : Code (Parts τ) α)
    (post : α → Prop) : Prop :=
  role.Keeps inside stage code fun later value => later = stage ∧ post value

theorem keeps_perform {action : Action (Parts τ) α} {later : Stage}
    (turn : role.Turn action stage later)
    (sharp : ∀ answer answer', role.Alike action answer answer' → answer = answer') :
    role.Keeps inside stage (.perform action) fun last answer =>
      last = later ∧ role.Fits inside action answer := by
  refine ⟨later, turn, ?_, fun answer fits => ⟨rfl, fits⟩⟩
  intro answer answer' alike
  rw [sharp answer answer' alike]

section Routines

variable {routine : Routine (Parts τ) α} {middle : Stage → Except Exit α → Prop}

theorem keeps_bind {rest : α → Routine (Parts τ) β} {post : Stage → Except Exit β → Prop}
    (first : role.Keeps inside stage routine.run middle)
    (ok : ∀ later value, middle later (.ok value) → role.Keeps inside later (rest value).run post)
    (error : ∀ later exit, middle later (.error exit) → post later (.error exit)) :
    role.Keeps inside stage (routine >>= rest).run post := by
  apply Keeps.bind first
  intro later ended holds
  cases ended with
  | ok value => exact ok later value holds
  | error exit => exact error later exit holds

theorem stays_bind {rest : α → Routine (Parts τ) β} {middle : Except Exit α → Prop}
    {post : Except Exit β → Prop} (first : role.Stays inside stage routine.run middle)
    (ok : ∀ value, middle (.ok value) → role.Stays inside stage (rest value).run post)
    (error : ∀ exit, middle (.error exit) → post (.error exit)) :
    role.Stays inside stage (routine >>= rest).run post := by
  apply keeps_bind first
  · rintro later value ⟨rfl, holds⟩
    exact ok value holds
  · rintro later exit ⟨same, holds⟩
    exact ⟨same, error exit holds⟩

theorem keeps_lift {code : Code (Parts τ) α} {middle : Stage → α → Prop}
    (keeps : role.Keeps inside stage code middle) :
    role.Keeps inside stage (ExceptT.lift code : Routine (Parts τ) α).run fun later ended =>
      ∃ value, ended = .ok value ∧ middle later value :=
  keeps.bind fun _ value holds => ⟨value, rfl, holds⟩

theorem keeps_lift_bind {code : Code (Parts τ) α} {rest : α → Routine (Parts τ) β}
    {middle : Stage → α → Prop} {post : Stage → Except Exit β → Prop}
    (first : role.Keeps inside stage code middle)
    (later : ∀ later value, middle later value → role.Keeps inside later (rest value).run post) :
    role.Keeps inside stage (ExceptT.lift code >>= rest).run post := by
  apply keeps_bind (keeps_lift first)
  · rintro last value ⟨_, same, holds⟩
    cases same
    exact later last value holds
  · rintro _ _ ⟨_, impossible, _⟩
    cases impossible

theorem keeps_panicking {code : Code (Parts τ) (Except Panic α)}
    {middle : Stage → Except Panic α → Prop} (keeps : role.Keeps inside stage code middle) :
    role.Keeps inside stage (Routine.panicking code).run fun later ended =>
      ∃ answer, ended = answer.mapError .panic ∧ middle later answer :=
  keeps.bind fun _ answer holds => ⟨answer, rfl, holds⟩

theorem keeps_failing {action : Action (Parts τ) (Except Failure α)} {later : Stage}
    (turn : role.Turn action stage later)
    (sharp : ∀ answer answer', role.Alike action answer answer' → answer = answer') :
    role.Keeps inside stage (Routine.failing action).run fun last ended =>
      ∃ answer, ended = answer.mapError .failure ∧ last = later ∧ role.Fits inside action answer :=
  (keeps_perform turn sharp).bind fun _ answer holds => ⟨answer, rfl, holds⟩

theorem keeps_emit (event : Event) :
    role.Stays inside stage (Routine.emit event : Routine (Parts τ) Unit).run fun ended =>
      ended = .ok () := by
  let action : Action (Parts τ) (Except Panic Unit) := .emit event
  have emitting : role.Stays inside stage (.perform action) (role.Fits inside action) :=
    keeps_perform (.own stage trivial) fun _ _ same => same
  apply (keeps_panicking emitting).mono
  rintro later ended ⟨answer, rfl, same, rfl⟩
  exact ⟨same, rfl⟩

theorem keeps_catchFailure {post : Stage → Except Exit (Except Failure α) → Prop}
    (keeps : role.Keeps inside stage routine.run middle)
    (ok : ∀ later value, middle later (.ok value) → post later (.ok (.ok value)))
    (failure : ∀ later failure, middle later (.error (.failure failure)) →
      post later (.ok (.error failure)))
    (panic : ∀ later panic, middle later (.error (.panic panic)) → post later (.error (.panic panic))) :
    role.Keeps inside stage (Routine.catchFailure routine).run post := by
  apply Keeps.bind keeps
  intro later ended holds
  rcases ended with (refused | thrown) | value
  · exact failure later refused holds
  · exact panic later thrown holds
  · exact ok later value holds

theorem keeps_quietly (mute : Bool) {post : Except Exit α → Prop}
    (stays : role.Stays inside stage routine.run post) :
    role.Stays inside stage (Routine.quietly mute routine).run post := by
  cases mute with
  | false => exact stays
  | true =>
      refine keeps_lift_bind (keeps_perform (.own stage trivial) fun _ _ same => same) ?_
      rintro _ found ⟨rfl, -⟩
      apply keeps_lift_bind stays
      rintro last ended ⟨rfl, ending⟩
      refine keeps_lift_bind (keeps_perform (.own last trivial) fun _ _ same => same) ?_
      rintro _ _ ⟨rfl, -⟩
      exact ⟨rfl, ending⟩

theorem keeps_exclusively {post : Except Exit α → Prop}
    (keeps : role.Keeps inside .locked routine.run fun later ended => later = .left ∧ post ended) :
    role.Keeps inside .outside (Routine.exclusively routine).run fun later ended =>
      later = .closed ∧ post ended := by
  refine keeps_lift_bind (keeps_perform .lock fun _ _ same => same) ?_
  rintro _ _ ⟨rfl, -⟩
  apply keeps_lift_bind keeps
  rintro _ ended ⟨rfl, ending⟩
  refine keeps_lift_bind (keeps_perform .unlock fun _ _ same => same) ?_
  rintro _ _ ⟨rfl, -⟩
  exact ⟨rfl, ending⟩

theorem keeps_intercepting {post : Except Exit α → Prop}
    (stays : role.Stays inside .tracing routine.run post) :
    role.Keeps inside .emptied (Routine.intercepting (.ledger role.ledger) routine).run
      fun later ended => later = .left ∧ post ended := by
  refine keeps_bind (keeps_perform .enter fun _ _ same => same) ?_ ?_
  · rintro _ _ ⟨rfl, -⟩
    apply keeps_lift_bind stays
    rintro _ ended ⟨rfl, ending⟩
    refine keeps_bind (keeps_panicking (keeps_perform .leave fun _ _ same => same)) ?_ ?_
    · rintro _ _ ⟨_, -, rfl, -⟩
      exact ⟨rfl, ending⟩
    · rintro _ _ ⟨_, failed, -, rfl⟩
      cases failed
  · rintro _ _ ⟨-, impossible⟩
    cases impossible

end Routines

/-! ### Turns of code in the middle of a run -/

/-- What is still to be run keeps to the turns of the role, on threads that work for it. -/
def Runs (role : Role n) : {α : Type} → Stage → Running (Parts τ) α → (Stage → α → Prop) → Prop
  | _, stage, .on t code, post => t.caller = role.index.val ∧ role.Keeps t.inPass stage code post
  | _, stage, .joining t body next, post => t.caller = role.index.val ∧
      ∃ (joined : Stage) (middle : _ → Prop),
        Runs role stage body (fun later value => later = joined ∧ middle value) ∧
          ∀ value, middle value → role.Keeps t.inPass joined (next value) post

/-- A step is a turn of the role, or none of its business. Where the answers are alike, the same step
can be taken in another world. -/
inductive Moves (role : Role n) (stage : Stage) (running : Running (Parts τ) α)
    (world : World (Parts τ)) (post : Stage → α → Prop) :
    Option (Moment (Parts τ)) → Running (Parts τ) α → World (Parts τ) → Prop
  | quiet {next : Running (Parts τ) α} (runs : role.Runs stage next post)
      (elsewhere : ∀ alone, running.Step alone none next alone) :
      Moves role stage running world post none next world
  | turn {β : Type} {action : Action (Parts τ) β} {t : Thread} {later : Stage}
      {next : Running (Parts τ) α} (ready : action.ready world = true)
      (caller : t.caller = role.index.val) (turn : role.Turn action stage later)
      (runs : role.Fits t.inPass action (action.perform t world).1 → role.Runs later next post)
      (elsewhere : ∀ alone, action.ready alone = true →
        role.Alike action (action.perform t world).1 (action.perform t alone).1 →
        (action.perform t world).2.1 = (action.perform t alone).2.1 →
        running.Step alone (some ⟨action, t, alone⟩) next (action.perform t alone).2.2) :
      Moves role stage running world post (some ⟨action, t, world⟩) next
        (action.perform t world).2.2

theorem Runs.moves {running next : Running (Parts τ) α} {post : Stage → α → Prop}
    (runs : role.Runs stage running post) {world after : World (Parts τ)}
    {moment : Option (Moment (Parts τ))} (step : running.Step world moment next after) :
    role.Moves stage running world post moment next after := by
  -- A fork or a join looks at no world; an action looks at the answer only, and is blind to the rest.
  induction step with
  | @act _ _ action rest t world ready =>
      obtain ⟨caller, later, turn, blind, keeps⟩ := runs
      refine .turn ready caller turn (fun fits => ?_) fun alone ready' alike same => ?_
      · refine ⟨(action.perform_caller t world).trans caller, ?_⟩
        rw [action.perform_inPass]
        exact keeps _ fits
      · rw [blind _ _ alike, same]
        exact .act ready'
  | fork =>
      obtain ⟨caller, middle, body, rest⟩ := runs
      exact .quiet ⟨caller, _, middle, ⟨caller, body⟩, rest⟩ fun _ => .fork
  | inside step ih =>
      obtain ⟨caller, joined, middle, body, rest⟩ := runs
      cases ih body with
      | quiet inner elsewhere =>
          exact .quiet ⟨caller, joined, middle, inner, rest⟩ fun alone => .inside (elsewhere alone)
      | turn ready caller' turn inner elsewhere =>
          exact .turn ready caller' turn
            (fun fits => ⟨caller, joined, middle, inner fits, rest⟩)
            fun alone ready' alike same => .inside (elsewhere alone ready' alike same)
  | join =>
      obtain ⟨caller, joined, middle, ⟨-, same, ended⟩, rest⟩ := runs
      cases same
      exact .quiet ⟨caller, rest _ ended⟩ fun _ => .join

/-- Only the session lock can keep the role waiting, and never while the role holds it. -/
theorem Runs.steps {running : Running (Parts τ) α} {post : Stage → α → Prop}
    (runs : role.Runs stage running post) (unended : ¬ running.Ended) {world : World (Parts τ)}
    (free : stage.holds = false → world.session = none) :
    ∃ moment next after, running.Step world moment next after := by
  induction running generalizing stage with
  | on t code =>
      cases code with
      | ret value => exact absurd ⟨t, value, rfl⟩ unended
      | fork thread body next => exact ⟨_, _, _, .fork⟩
      | act action next =>
          obtain ⟨-, later, turn, -, -⟩ := runs
          exact ⟨_, _, _, .act (turn.ready free)⟩
  | joining t body next ih =>
      obtain ⟨-, joined, middle, inner, -⟩ := runs
      -- A body that has ended is joined, any other can go on itself.
      by_cases ended : body.Ended
      · obtain ⟨thread, value, rfl⟩ := ended
        exact ⟨_, _, _, .join⟩
      · obtain ⟨moment, body', after, step⟩ := ih inner ended free
        exact ⟨moment, _, after, .inside step⟩

end Role

end TuningTasks
