import TuningTasks.Proofs.Tidy

/-!
The scopes that are alive along a history, read off its actions alone: a scope is made when a hook is
installed and ends when one is uninstalled. In a run of tidy code the slot holds, at every moment, the
hook of the one scope that is alive, and no other hook is ever asked (`Tidy.keepsScopes`).
-/
namespace TuningTasks

variable {σ α β : Type} {waits : Bool}

/-- The scopes alive after an action, latest first. A refused scope is never alive. -/
def Action.scopes (action : Action σ β) (t : Thread) (world : World σ) (alive : List (Hook σ)) :
    List (Hook σ) :=
  match action with
  | .install hook => match (world.install t hook).1 with
    | .ok () => hook :: alive
    | .error _ => alive
  | .uninstall => alive.tail
  | _ => alive

def Moment.scopes (moment : Moment σ) (alive : List (Hook σ)) : List (Hook σ) :=
  moment.action.scopes moment.thread moment.world alive

def scopesAfter (alive : List (Hook σ)) (history : List (Moment σ)) : List (Hook σ) :=
  history.foldl (fun alive moment => moment.scopes alive) alive

/-- The slot holds the hook of the one scope that is alive, and a hook that is asked is that one. -/
structure Moment.Faithful (alive : List (Hook σ)) (moment : Moment σ) : Prop where
  slot : moment.world.hook = { value := alive.head? }
  single : alive.length ≤ 1
  asked : ∀ hook invocation, moment.action.asked? = some (hook, invocation) → alive = [hook]

def Faithful : List (Hook σ) → List (Moment σ) → Prop
  | _, [] => True
  | alive, moment :: rest => moment.Faithful alive ∧ Faithful (moment.scopes alive) rest

theorem scopesAfter_append (alive : List (Hook σ)) (left right : List (Moment σ)) :
    scopesAfter alive (left ++ right) = scopesAfter (scopesAfter alive left) right :=
  List.foldl_append

theorem faithful_append {alive : List (Hook σ)} {left right : List (Moment σ)} :
    Faithful alive (left ++ right) ↔
      Faithful alive left ∧ Faithful (scopesAfter alive left) right := by
  induction left generalizing alive with
  | nil => simp [Faithful, scopesAfter]
  | cons moment rest ih =>
      simp only [List.cons_append, Faithful, ih, and_assoc]
      rfl

namespace Routine

def onwardHistory (rest : α → Routine σ β) :
    Except Exit α × Thread × World σ → List (Moment σ)
  | (.ok value, t, world) => (rest value).run.history t world
  | (.error _, _, _) => []

theorem history_bind (routine : Routine σ α) (rest : α → Routine σ β) (t : Thread)
    (world : World σ) :
    (routine >>= rest).run.history t world =
      routine.run.history t world ++
        (routine.run.exec t world).elim [] (onwardHistory rest) := by
  have split : (routine >>= rest).run = routine.run.bind (ExceptT.bindCont rest) := rfl
  rw [split, Code.history_bind]
  congr 2
  funext ⟨ended, thread, last⟩
  cases ended <;> rfl

theorem history_lift (code : Code σ α) (t : Thread) (world : World σ) :
    (ExceptT.lift code : Routine σ α).run.history t world = code.history t world := by
  change (code.bind _).history t world = _
  rw [Code.history_bind]
  cases code.exec t world with
  | none => simp
  | some ended => exact List.append_nil _

theorem history_dispatch (invocation : Invocation) (t : Thread) (world : World σ) :
    (dispatch invocation).run.history t world =
      ⟨.installedHook, t, world⟩ :: match world.installedHook with
        | .ok (some hook) => [⟨.consult hook invocation, t, world⟩]
        | _ => [] := by
  rw [dispatch, history_bind, exec_failing _ rfl]
  cases found : world.installedHook with
  | error failure => simp only [Action.perform, found]; rfl
  | ok slot =>
      cases slot with
      | none => simp only [Action.perform, found]; rfl
      | some hook => simp only [Action.perform, found]; rfl

theorem history_intercepting_refused {world : World σ} {hook : Hook σ} {t : Thread} {exit : Exit}
    (refused : world.install t hook = (.error exit, world)) (body : Routine σ α) :
    (intercepting hook body).run.history t world = [⟨.install hook, t, world⟩] := by
  have answered : (Action.install hook).perform t world = (.error exit, t, world) := by
    simp only [Action.perform, refused]
  rw [intercepting, history_bind, exec_attempt _ rfl, answered]
  rfl

theorem history_intercepting_idle {world : World σ} (silent : world.Silent)
    (idle : world.hook = { value := none }) (hook : Hook σ) (body : Routine σ α) (t : Thread) :
    (intercepting hook body).run.history t world =
      ⟨.install hook, t, world⟩ :: (body.run.history t (world.installed t hook) ++
        (body.run.exec t (world.installed t hook)).elim [] fun ended =>
          [⟨.uninstall, ended.2.1, ended.2.2⟩]) := by
  have entered : (Action.install hook).perform t world = (.ok (), t, world.installed t hook) := by
    simp only [Action.perform, World.install_idle silent idle]
  have entering : (attempt (.install hook) : Routine σ Unit).run.history t world =
      [⟨.install hook, t, world⟩] := rfl
  rw [intercepting, history_bind, exec_attempt _ rfl, entered, entering]
  simp only [Option.elim_some, onwardHistory, List.singleton_append]
  rw [history_bind, exec_lift, history_lift]
  cases ran : body.run.exec t (world.installed t hook) with
  | none => rfl
  | some ended =>
      obtain ⟨outcome, thread, last⟩ := ended
      have quiet : last.Silent := Code.exec_silent ran silent
      have left := World.uninstall_silent quiet thread
      simp only [Option.map_some, Option.elim_some, onwardHistory]
      rw [history_bind, exec_panicking, Code.exec_perform _ rfl]
      simp only [Action.perform, left]
      rfl

theorem history_quietly (body : Routine σ α) (t : Thread) (world : World σ) :
    (quietly true body).run.history t world =
      ⟨.mute, t, world⟩ ::
        (body.run.history { t with muted := true } world.guarded ++
          (body.run.exec { t with muted := true } world.guarded).elim []
            fun ended => [⟨.unmute t.muted, ended.2.1, ended.2.2⟩]) := by
  have muting : (Action.mute : Action σ Bool).perform t world =
      (t.muted, { t with muted := true }, world.guarded) := rfl
  have begun : (perform .mute : Routine σ Bool).run.history t world = [⟨.mute, t, world⟩] := rfl
  change ((perform .mute : Routine σ Bool) >>= _).run.history t world = _
  rw [history_bind, exec_perform _ rfl, begun, muting]
  simp only [Option.elim_some, onwardHistory, List.singleton_append]
  rw [history_bind, exec_lift, history_lift]
  cases body.run.exec { t with muted := true } world.guarded with
  | none => rfl
  | some ended => rfl

theorem history_exclusively {world : World σ} (free : world.session = none)
    (body : Routine σ α) (t : Thread) :
    (exclusively body).run.history t world =
      ⟨.lockSession, t, world⟩ ::
        (body.run.history t (world.locked t.caller) ++
          (body.run.exec t (world.locked t.caller)).elim [] fun ended =>
            [⟨.unlockSession, ended.2.1, ended.2.2⟩]) := by
  have ready : (Action.lockSession : Action σ Unit).ready world = true := by
    simp [Action.ready, free]
  have locking : (Action.lockSession : Action σ Unit).perform t world =
      ((), t, world.locked t.caller) := rfl
  have begun : (perform .lockSession : Routine σ Unit).run.history t world =
      [⟨.lockSession, t, world⟩] := by
    change (if (Action.lockSession : Action σ Unit).ready world then _ else _) = _
    rw [if_pos ready]
    rfl
  rw [exclusively, history_bind, exec_perform _ ready, begun, locking]
  simp only [Option.elim_some, onwardHistory, List.singleton_append]
  rw [history_bind, exec_lift, history_lift]
  cases body.run.exec t (world.locked t.caller) with
  | none => rfl
  | some ended => rfl

theorem history_exclusively_held {world : World σ} {holder : Nat}
    (held : world.session = some holder) (body : Routine σ α) (t : Thread) :
    (exclusively body).run.history t world = [] := by
  have blocked : (perform .lockSession : Routine σ Unit).run.exec t world = none := by
    change (if world.session.isNone then _ else _) = _
    simp [held]
  have nothing : (perform .lockSession : Routine σ Unit).run.history t world = [] := by
    change (if world.session.isNone then _ else _) = _
    simp [held]
  rw [exclusively, history_bind, blocked, nothing]
  rfl

end Routine

/-- Scopes are made and ended in pairs, and none inside another; `complete` tells whether the history
is that of a run that has ended. -/
structure Balanced (alive : List (Hook σ)) (history : List (Moment σ)) (complete : Prop) : Prop where
  faithful : Faithful alive history
  steady : alive ≠ [] → ∀ moment ∈ history, moment.scopes alive = alive
  back : complete → scopesAfter alive history = alive

namespace Balanced

variable {alive : List (Hook σ)} {history left right : List (Moment σ)} {complete : Prop}

theorem nil : Balanced alive [] complete where
  faithful := trivial
  steady _ _ none := nomatch none
  back _ := rfl

theorem single {moment : Moment σ} (faithful : moment.Faithful alive)
    (same : moment.scopes alive = alive) : Balanced alive [moment] complete where
  faithful := ⟨faithful, trivial⟩
  steady := by
    intro _ other member
    rw [List.mem_singleton.mp member]
    exact same
  back _ := same

theorem mono {earlier : Prop} (balanced : Balanced alive history earlier)
    (implies : complete → earlier) : Balanced alive history complete :=
  ⟨balanced.faithful, balanced.steady, fun ended => balanced.back (implies ended)⟩

theorem append (first : Balanced alive left True) (second : Balanced alive right complete) :
    Balanced alive (left ++ right) complete where
  faithful := by
    rw [faithful_append, first.back trivial]
    exact ⟨first.faithful, second.faithful⟩
  steady := by
    intro inside moment member
    rcases List.mem_append.mp member with before | after
    · exact first.steady inside moment before
    · exact second.steady inside moment after
  back := by
    intro ended
    rw [scopesAfter_append, first.back trivial]
    exact second.back ended

theorem each (balanced : Balanced alive history complete) (inside : alive ≠ []) :
    ∀ moment ∈ history, moment.Faithful alive := by
  -- The scopes alive never change, so the induction needs no other list of them.
  have steady := balanced.steady inside
  have faithful := balanced.faithful
  clear balanced
  induction history with
  | nil => exact fun _ none => nomatch none
  | cons moment rest ih =>
      have same := steady moment List.mem_cons_self
      obtain ⟨here, later⟩ := faithful
      rw [same] at later
      intro other member
      rcases List.mem_cons.mp member with rfl | member
      · exact here
      · exact ih (fun other inner => steady other (List.mem_cons_of_mem _ inner)) later other member

end Balanced

namespace Code

def KeepsScopes (alive : List (Hook σ)) (code : Code σ α) (t : Thread) (world : World σ) : Prop :=
  Balanced alive (code.history t world) (∃ ended, code.exec t world = some ended)

theorem KeepsScopes.bind {alive : List (Hook σ)} {code : Code σ α} {f : α → Code σ β} {t : Thread}
    {world : World σ} (first : code.KeepsScopes alive t world)
    (rest : ∀ ended, code.exec t world = some ended →
      (f ended.1).KeepsScopes alive ended.2.1 ended.2.2) :
    (code.bind f).KeepsScopes alive t world := by
  rw [KeepsScopes, history_bind, exec_bind]
  cases ran : code.exec t world with
  | none =>
      rw [Option.elim_none, List.append_nil]
      exact first.mono fun ⟨_, impossible⟩ => nomatch impossible
  | some ended => exact (first.mono fun _ => ⟨ended, ran⟩).append (rest ended ran)

end Code

/-! ### What tidy code does to scopes -/

theorem Moment.Faithful.unasked {alive : List (Hook σ)} {moment : Moment σ}
    (slot : moment.world.hook = { value := alive.head? }) (single : alive.length ≤ 1)
    (unasked : moment.action.asked? = none) : moment.Faithful alive where
  slot := slot
  single := single
  asked := by
    intro hook invocation asked
    rw [unasked] at asked
    cases asked

namespace Action.Plain

variable {action : Action σ β}

theorem asked_none (plain : action.Plain) : action.asked? = none := by
  cases action <;> first | rfl | exact plain.elim

theorem scopes_eq (plain : action.Plain) (t : Thread) (world : World σ) (alive : List (Hook σ)) :
    action.scopes t world alive = alive := by
  cases action <;> first | rfl | exact plain.elim

end Action.Plain

namespace Routine

variable {alive : List (Hook σ)} {t : Thread} {world : World σ}

theorem keepsScopes_dispatch (invocation : Invocation)
    (slot : world.hook = { value := alive.head? }) (single : alive.length ≤ 1) :
    (dispatch invocation).run.KeepsScopes alive t world := by
  have reading : (⟨.installedHook, t, world⟩ : Moment σ).Faithful alive := .unasked slot single rfl
  have found : world.installedHook = .ok alive.head? := by simp [World.installedHook, slot]
  rw [Code.KeepsScopes, history_dispatch, found]
  match alive, single with
  | [], _ => exact .single reading rfl
  | [hook], one =>
      have asking : (⟨.consult hook invocation, t, world⟩ : Moment σ).Faithful [hook] := by
        refine ⟨slot, one, ?_⟩
        intro other asked same
        simp only [Action.asked?, Option.some.injEq, Prod.mk.injEq] at same
        rw [same.1]
      exact .append (.single reading rfl) (.single asking rfl)

theorem keepsScopes_intercepting (hook : Hook σ) {body : Routine σ α} (silent : world.Silent)
    (slot : world.hook = { value := alive.head? }) (single : alive.length ≤ 1)
    (inside : alive = [] → body.run.KeepsScopes [hook] t (world.installed t hook))
    (restores : ∀ ended, body.run.exec t (world.installed t hook) = some ended →
      ended.2.2.hook = { value := some hook }) :
    (intercepting hook body).run.KeepsScopes alive t world := by
  have entering : (⟨.install hook, t, world⟩ : Moment σ).Faithful alive := .unasked slot single rfl
  -- Inside a scope this one is refused; outside, the body is run in a scope of its own.
  match alive, single with
  | [active], _ =>
      have refused := World.install_active slot t hook
      have unchanged : (Action.install hook).scopes t world [active] = [active] := by
        simp only [Action.scopes, refused]
      rw [Code.KeepsScopes, history_intercepting_refused refused]
      exact .single entering unchanged
  | [], _ =>
      have begun : (Action.install hook).scopes t world [] = [hook] := by
        simp only [Action.scopes, World.install_idle silent slot]
      have inner := inside rfl
      rw [Code.KeepsScopes, history_intercepting_idle silent slot, exec_intercepting_idle silent slot]
      cases ran : body.run.exec t (world.installed t hook) with
      | none =>
          rw [Option.elim_none, List.append_nil]
          refine ⟨⟨entering, ?_⟩, fun outside => absurd rfl outside, fun ⟨_, ended⟩ => nomatch ended⟩
          rw [Moment.scopes, begun]
          exact inner.faithful
      | some ended =>
          have leaving : (⟨.uninstall, ended.2.1, ended.2.2⟩ : Moment σ).Faithful [hook] :=
            .unasked (restores ended ran) Nat.le.refl rfl
          have after : scopesAfter [hook] (body.run.history t (world.installed t hook)) = [hook] :=
            inner.back ⟨ended, ran⟩
          refine ⟨⟨entering, ?_⟩, fun outside => absurd rfl outside, fun _ => ?_⟩
          · rw [Moment.scopes, begun, Option.elim_some, faithful_append, after]
            exact ⟨inner.faithful, leaving, trivial⟩
          · change scopesAfter ((Action.install hook).scopes t world []) _ = []
            rw [begun, Option.elim_some, scopesAfter_append, after]
            rfl

/-- Between two actions that make no scope and end none, a body keeps what it keeps. -/
theorem keepsScopes_enclosed {routine : Routine σ α} {body : Routine σ β} {first : Moment σ}
    {thread : Thread} {start : World σ} (last : Thread → World σ → Moment σ)
    (history : routine.run.history t world = first :: (body.run.history thread start ++
      (body.run.exec thread start).elim [] fun ended => [last ended.2.1 ended.2.2]))
    (ending : ∀ ended, routine.run.exec t world = some ended →
      ∃ inner, body.run.exec thread start = some inner)
    (entering : first.Faithful alive) (unopened : first.scopes alive = alive)
    (inside : body.run.KeepsScopes alive thread start)
    (leaving : ∀ ended, body.run.exec thread start = some ended →
      (last ended.2.1 ended.2.2).Faithful alive ∧ (last ended.2.1 ended.2.2).scopes alive = alive) :
    routine.run.KeepsScopes alive t world := by
  rw [Code.KeepsScopes, history, ← List.singleton_append]
  refine .append (.single entering unopened) ?_
  cases ran : body.run.exec thread start with
  | none =>
      rw [Option.elim_none, List.append_nil]
      exact inside.mono fun ⟨ended, finished⟩ => ending ended finished
  | some ended =>
      obtain ⟨leave, unclosed⟩ := leaving ended ran
      exact (inside.mono fun _ => ⟨ended, ran⟩).append (.single leave unclosed)

theorem keepsScopes_quietly {body : Routine σ α} (slot : world.hook = { value := alive.head? })
    (single : alive.length ≤ 1)
    (inside : body.run.KeepsScopes alive { t with muted := true } world.guarded)
    (restores : ∀ ended, body.run.exec { t with muted := true } world.guarded = some ended →
      ended.2.2.hook = { value := alive.head? }) :
    (quietly true body).run.KeepsScopes alive t world := by
  apply keepsScopes_enclosed (fun thread last => ⟨.unmute t.muted, thread, last⟩)
    (history_quietly body t world) _ (.unasked slot single rfl) rfl inside
  · intro ended ran
    exact ⟨.unasked (restores ended ran) single rfl, rfl⟩
  · intro ended finished
    rw [exec_quietly, Option.map_eq_some_iff] at finished
    obtain ⟨inner, ran, -⟩ := finished
    exact ⟨inner, ran⟩

theorem keepsScopes_exclusively {body : Routine σ α} (slot : world.hook = { value := alive.head? })
    (single : alive.length ≤ 1)
    (inside : body.run.KeepsScopes alive t (world.locked t.caller))
    (restores : ∀ ended, body.run.exec t (world.locked t.caller) = some ended →
      ended.2.2.hook = { value := alive.head? }) :
    (exclusively body).run.KeepsScopes alive t world := by
  cases held : world.session with
  | some holder =>
      rw [Code.KeepsScopes, history_exclusively_held held, exec_exclusively_held held]
      exact .nil
  | none =>
      apply keepsScopes_enclosed (fun thread last => ⟨.unlockSession, thread, last⟩)
        (history_exclusively held body t) _ (.unasked slot single rfl) rfl inside
      · intro ended ran
        exact ⟨.unasked (restores ended ran) single rfl, rfl⟩
      · intro ended finished
        rw [exec_exclusively held, Option.map_eq_some_iff] at finished
        obtain ⟨inner, ran, -⟩ := finished
        exact ⟨inner, ran⟩

end Routine

namespace Code

theorem KeepsScopes.onward {code : Code σ α} {f : α → Code σ β} {alive : List (Hook σ)} {t : Thread}
    {world : World σ} (first : code.KeepsScopes alive t world) (tidy : code.Tidy waits)
    (silent : world.Silent) (slot : world.hook = { value := alive.head? })
    (rest : ∀ value t {world : World σ}, world.Silent → world.hook = { value := alive.head? } →
      (f value).KeepsScopes alive t world) :
    (code.bind f).KeepsScopes alive t world := by
  apply first.bind
  intro ended finished
  have restored := tidy.restores silent finished
  exact rest ended.1 ended.2.1 (exec_silent finished silent) (restored.hook.trans slot)

/-- Where the slot holds the hook of the one scope alive, tidy code keeps it so at every moment. -/
theorem Tidy.keepsScopes {code : Code σ α} (tidy : code.Tidy waits) {alive : List (Hook σ)}
    (t : Thread) {world : World σ} (silent : world.Silent)
    (slot : world.hook = { value := alive.head? }) (single : alive.length ≤ 1) :
    code.KeepsScopes alive t world := by
  -- Inside a scope another list of scopes is alive, so the induction is for every such list.
  induction tidy generalizing alive t world with
  | ret value => exact .nil
  | @act _ _ action next plain _ ih =>
      simp only [KeepsScopes, history, exec]
      split
      · have step := plain.restores silent t
        have later := ih (action.perform t world).1 (action.perform t world).2.1
          (action.perform_silent silent t) (step.hook.trans slot) single
        have here : (⟨action, t, world⟩ : Moment σ).Faithful alive :=
          .unasked slot single plain.asked_none
        exact .append (.single here (plain.scopes_eq t world alive)) later
      · exact .nil
  | @fork _ _ thread body next inside _ inner ih =>
      have first : (Code.fork thread body Code.ret).KeepsScopes alive t world := by
        have whole := inner { thread with caller := t.caller } silent slot single
        simp only [KeepsScopes, history, exec]
        cases ran : body.exec { thread with caller := t.caller } world with
        | none =>
            rw [List.append_nil]
            refine whole.mono ?_
            rintro ⟨_, impossible⟩
            cases impossible
        | some ended =>
            rw [List.append_nil]
            exact whole.mono fun _ => ⟨ended, ran⟩
      apply first.onward (.fork thread inside .ret) silent slot
      exact fun value t _ silent slot => ih value t silent slot single
  | dispatch invocation _ ih =>
      have first := Routine.keepsScopes_dispatch (t := t) invocation slot single
      have whole : (Routine.dispatch invocation : Routine σ Decision).run.Tidy waits :=
        Routine.tidy_dispatch invocation
      apply first.onward whole silent slot
      exact fun value t _ silent slot => ih value t silent slot single
  | @scope _ _ hook body _ inside _ inner ih =>
      have first : (Routine.intercepting hook body).run.KeepsScopes alive t world := by
        apply Routine.keepsScopes_intercepting hook silent slot single
        · exact fun _ => inner t (silent.installed t hook) rfl Nat.le.refl
        · exact fun ended ran => (inside.restores (silent.installed t hook) ran).hook
      apply first.onward (Routine.tidy_intercepting hook inside) silent slot
      exact fun value t _ silent slot => ih value t silent slot single
  | @quiet _ _ body _ inside _ inner ih =>
      have first : (Routine.quietly true body).run.KeepsScopes alive t world := by
        apply Routine.keepsScopes_quietly slot single (inner _ silent.guarded slot single)
        exact fun ended ran => (inside.restores silent.guarded ran).hook.trans slot
      apply first.onward (Routine.tidy_quietly true inside) silent slot
      exact fun value t _ silent slot => ih value t silent slot single
  | @session _ _ may body _ inside _ inner ih =>
      have first : (Routine.exclusively body).run.KeepsScopes alive t world := by
        apply Routine.keepsScopes_exclusively slot single (inner _ (silent.locked _) slot single)
        exact fun ended ran => (inside.restores (silent.locked _) ran).hook.trans slot
      apply first.onward (Routine.tidy_exclusively may inside) silent slot
      exact fun value t _ silent slot => ih value t silent slot single

end Code

end TuningTasks
