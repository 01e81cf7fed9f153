import TuningTasks.Proofs.Records
import TuningTasks.Proofs.Tidy
import TuningTasks.Proofs.Turns

/-!
An extraction among others beside the same extraction alone. As long as both keep to the turns of the
role, every action answers alike in both worlds, and what the role can see stays alike; the others see
nothing of it but the session lock, and nothing of the slot and the ledgers while they hold that lock.
-/
namespace TuningTasks

variable {n : Nat} {τ : Fin n → Type} {β : Type}

def Ledger.decision (ledger : Ledger) (call : Invocation) : Decision :=
  match ledger.outcome call with
  | .filtered => .passThrough
  | _ => .traced

theorem World.consult_sound {σ : Type} {world : World σ} (silent : world.Silent) {name : String}
    (sound : (world.ledgers name).poisoned = false) (t : Thread) (call : Invocation) :
    ∃ log, world.consult t (.ledger name) call =
      (.ok ((world.ledgers name).value.decision call),
        { world.setLedger name { value := (world.ledgers name).value.submit call } with log }) := by
  obtain ⟨log, recorded⟩ := record_sound silent sound t call
  refine ⟨log, ?_⟩
  simp only [consult, recorded, Except.map]
  unfold Ledger.decision
  cases (world.ledgers name).value.outcome call with
  | filtered => rfl
  | recorded => rfl
  | duplicate => rfl

/-- No lock is poisoned, nor will one be by a sink that panics under it; the system does not count the
threads that it starts; and outside every session no hook is installed. -/
structure World.Orderly {σ : Type} (world : World σ) : Prop where
  silent : world.Silent
  sound : ∀ name, (world.ledgers name).poisoned = false
  steady : ∀ count count' size, world.refusal count size = world.refusal count' size
  idle : world.session = none → world.hook = { value := none }

namespace Role

variable (role : Role n)

def slot {σ : Type} (stage : Stage) : Option (Hook σ) :=
  if stage = .tracing then some (.ledger role.ledger) else none

/-- The lock and the slot are as the role left them, while it holds the lock. -/
structure Placed (stage : Stage) (world : World (Parts τ)) : Prop where
  session : stage.holds = true → world.session = some role.index.val
  hook : stage.holds = true → world.hook = { value := role.slot stage }

/-- The role can tell neither world from the other. -/
structure Mirrors (stage : Stage) (world alone : World (Parts τ)) : Prop where
  client : world.client role.index = alone.client role.index
  caches : ∀ name, role.owner name = some role.index → world.caches name = alone.caches name
  ledger : stage.records = true → world.ledgers role.ledger = alone.ledgers role.ledger
  refusal : world.refusal = alone.refusal

/-- The ledger holds what was dispatched in the session of the role. -/
structure Told (stage : Stage) (world : World (Parts τ)) (calls : List Invocation) : Prop where
  records : stage.records = true →
    world.ledgers role.ledger = { value := .after role.filter calls }
  early : stage = .outside ∨ stage = .locked → calls = []

structure Aside (world after : World (Parts τ)) : Prop where
  client : ∀ other, other ≠ role.index → after.client other = world.client other
  caches : ∀ name, role.owner name ≠ some role.index → after.caches name = world.caches name
  refusal : after.refusal = world.refusal

variable {role} {inside : Bool} {stage later : Stage} {action : Action (Parts τ) β} {t : Thread}
  {world alone : World (Parts τ)}

namespace Own

variable (own : role.Own action)

include own

theorem frame (t : Thread) (world : World (Parts τ)) :
    (action.perform t world).2.2.ledgers = world.ledgers ∧
      (action.perform t world).2.2.hook = world.hook ∧
      (action.perform t world).2.2.session = world.session := by
  cases action with
  | thread | mute | unmute | updateCache | spawn | client => exact ⟨rfl, rfl, rfl⟩
  | emit event => simp only [Action.perform, World.emit_snd]; exact ⟨rfl, rfl, rfl⟩
  | warnOnce cache message =>
      obtain ⟨_, _, same⟩ := world.warnOnce_frame t cache message
      simp only [Action.perform, same, and_self]
  | installedHook | consult | isTracing | install | uninstall | resetLedger | record | readLedger
  | lockSession | unlockSession => exact own.elim

theorem undispatched (t : Thread) (world : World (Parts τ)) :
    dispatched [(⟨action, t, world⟩ : Moment (Parts τ))] = [] := by
  cases action <;> first | rfl | exact own.elim

theorem aside (t : Thread) (world : World (Parts τ)) :
    role.Aside world (action.perform t world).2.2 := by
  cases action with
  | thread | mute | unmute | spawn => exact ⟨fun _ _ => rfl, fun _ _ => rfl, rfl⟩
  | emit event =>
      simp only [Action.perform, World.emit_snd]
      exact ⟨fun _ _ => rfl, fun _ _ => rfl, rfl⟩
  | warnOnce cache message =>
      refine ⟨fun _ _ => ?_, fun name foreign => ?_, ?_⟩
      all_goals simp only [Action.perform, World.warnOnce]
      · split
        · rfl
        · rw [World.emit_snd]
          rfl
      · have differ : name ≠ cache := by
          rintro rfl
          exact foreign own
        split
        · rfl
        · rw [World.emit_snd]
          simp [World.logged, World.setCache, differ]
      · split
        · rfl
        · rw [World.emit_snd]
          rfl
  | updateCache cache change =>
      refine ⟨fun _ _ => rfl, fun name foreign => ?_, rfl⟩
      have differ : name ≠ cache := by
        rintro rfl
        exact foreign own
      simp [Action.perform, World.setCache, differ]
  | client change => exact ⟨fun other differ => own.2 _ other differ, fun _ _ => rfl, rfl⟩
  | installedHook | consult | isTracing | install | uninstall | resetLedger | record | readLedger
  | lockSession | unlockSession => exact own.elim

end Own

/-! ### What a turn does to the world it is taken in -/

namespace Turn

theorem aside (turn : role.Turn action stage later) (t : Thread) (world : World (Parts τ)) :
    role.Aside world (action.perform t world).2.2 := by
  cases turn with
  | lock | look | check | read | unlock => exact ⟨fun _ _ => rfl, fun _ _ => rfl, rfl⟩
  | empty =>
      obtain ⟨_, same⟩ := world.resetLedger_frame role.ledger role.filter
      simp only [Action.perform, same]
      exact ⟨fun _ _ => rfl, fun _ _ => rfl, rfl⟩
  | enter =>
      obtain ⟨_, _, same⟩ := world.install_frame t (.ledger role.ledger)
      simp only [Action.perform, same]
      exact ⟨fun _ _ => rfl, fun _ _ => rfl, rfl⟩
  | leave =>
      obtain ⟨_, _, same⟩ := world.uninstall_frame t
      simp only [Action.perform, same]
      exact ⟨fun _ _ => rfl, fun _ _ => rfl, rfl⟩
  | ask call =>
      obtain ⟨_, _, same⟩ := world.record_frame t role.ledger call
      simp only [Action.perform, World.consult, same]
      exact ⟨fun _ _ => rfl, fun _ _ => rfl, rfl⟩
  | own stage own => exact own.aside t world

theorem session_later (turn : role.Turn action stage later) (t : Thread) (world : World (Parts τ)) :
    later.holds = true ∨ (action.perform t world).2.2.session = none ∨
      later = stage ∧ (action.perform t world).2.2.session = world.session := by
  cases turn with
  | lock | empty | enter | look | ask | check | leave | read => exact Or.inl rfl
  | unlock => exact Or.inr (Or.inl rfl)
  | own stage own => exact Or.inr (Or.inr ⟨rfl, (own.frame t world).2.2⟩)

theorem free_later (turn : role.Turn action stage later)
    (free : stage.holds = false → world.session = none) (unheld : later.holds = false) :
    (action.perform t world).2.2.session = none := by
  rcases turn.session_later t world with holds | none | ⟨same, session⟩
  · rw [unheld] at holds
    cases holds
  · exact none
  · rw [same] at unheld
    exact session.trans (free unheld)

variable (turn : role.Turn action stage later) (orderly : world.Orderly)
  (placed : role.Placed stage world)

include turn orderly placed

theorem fits (outside : t.inPass = inside) : role.Fits inside action (action.perform t world).1 := by
  cases turn with
  | lock | unlock => trivial
  | empty =>
      have sound := orderly.sound role.ledger
      simp only [Fits, Action.perform, World.resetLedger, sound, Bool.false_eq_true, ↓reduceIte]
  | enter =>
      have idle : world.hook = { value := none } := placed.hook rfl
      simp only [Fits, Action.perform, World.install_idle orderly.silent idle]
  | look =>
      have busy : world.hook = { value := some (.ledger role.ledger) } := placed.hook rfl
      simp only [Fits, Action.perform, World.installedHook, busy, Bool.false_eq_true, ↓reduceIte]
  | ask call =>
      obtain ⟨_, asked⟩ := World.consult_sound orderly.silent (orderly.sound role.ledger) t call
      simp only [Fits, Action.perform, asked]
      exact ⟨_, rfl⟩
  | check =>
      have busy : world.hook = { value := some (.ledger role.ledger) } := placed.hook rfl
      simp only [Fits, Action.perform, World.isTracing, busy]
      rfl
  | leave => simp only [Fits, Action.perform, World.uninstall_silent orderly.silent]
  | read =>
      have sound := orderly.sound role.ledger
      simp only [Fits, Action.perform, World.readLedger, sound, Bool.false_eq_true, ↓reduceIte]
      exact ⟨_, rfl⟩
  | own stage own =>
      cases action with
      | thread => exact outside
      | emit event => simp only [Fits, Action.perform, World.emit_silent orderly.silent]
      | warnOnce cache message =>
          simp only [Fits, Action.perform, World.warnOnce_silent orderly.silent]
          split
          · exact ⟨_, rfl⟩
          · exact ⟨_, rfl⟩
      | mute | unmute | spawn | updateCache | client => trivial
      | installedHook | consult | isTracing | install | uninstall | resetLedger | record | readLedger
      | lockSession | unlockSession => exact own.elim

theorem placed_later (caller : t.caller = role.index.val) (ready : action.ready world = true) :
    role.Placed later (action.perform t world).2.2 := by
  cases turn with
  | lock =>
      have free : world.session = none := by simpa [Action.ready] using ready
      exact ⟨fun _ => congrArg some caller, fun _ => orderly.idle free⟩
  | empty =>
      obtain ⟨_, same⟩ := world.resetLedger_frame role.ledger role.filter
      simp only [Action.perform, same]
      exact ⟨fun _ => placed.session rfl, fun _ => placed.hook rfl⟩
  | enter =>
      have idle : world.hook = { value := none } := placed.hook rfl
      simp only [Action.perform, World.install_idle orderly.silent idle]
      exact ⟨fun _ => placed.session rfl, fun _ => rfl⟩
  | look | check | read => exact placed
  | ask call =>
      obtain ⟨_, _, same⟩ := world.record_frame t role.ledger call
      simp only [Action.perform, World.consult, same]
      exact ⟨fun _ => placed.session rfl, fun _ => placed.hook rfl⟩
  | leave =>
      have busy : world.hook = { value := some (.ledger role.ledger) } := placed.hook rfl
      simp only [Action.perform, World.uninstall_silent orderly.silent, World.uninstalled, busy]
      exact ⟨fun _ => placed.session rfl, fun _ => rfl⟩
  | unlock => exact ⟨fun unheld => Bool.noConfusion unheld, fun unheld => Bool.noConfusion unheld⟩
  | own stage own =>
      obtain ⟨-, hook, session⟩ := own.frame t world
      exact ⟨fun holds => session.trans (placed.session holds),
        fun holds => hook.trans (placed.hook holds)⟩

theorem sound_later (name : String) :
    ((action.perform t world).2.2.ledgers name).poisoned = false := by
  cases turn with
  | lock | look | check | read | unlock => exact orderly.sound name
  | empty => exact (world.resetLedger_poisoned role.ledger name role.filter).trans (orderly.sound name)
  | enter =>
      obtain ⟨_, _, same⟩ := world.install_frame t (.ledger role.ledger)
      simp only [Action.perform, same]
      exact orderly.sound name
  | leave =>
      obtain ⟨_, _, same⟩ := world.uninstall_frame t
      simp only [Action.perform, same]
      exact orderly.sound name
  | ask call =>
      exact (World.consult_poisoned orderly.silent t (.ledger role.ledger) call name).trans
        (orderly.sound name)
  | own stage own =>
      rw [(own.frame t world).1]
      exact orderly.sound name

theorem orderly_later (caller : t.caller = role.index.val) (ready : action.ready world = true) :
    (action.perform t world).2.2.Orderly where
  silent := action.perform_silent orderly.silent t
  sound := turn.sound_later orderly placed
  steady := by
    rw [(action.perform_frame t world).2]
    exact orderly.steady
  idle := by
    have next := turn.placed_later orderly placed caller ready
    intro free
    -- After all but two kinds of turns the role itself has the lock.
    cases turn with
    | lock | empty | enter | look | ask | check | leave | read =>
        rw [next.session rfl] at free
        cases free
    | unlock => exact placed.hook rfl
    | own stage own =>
        obtain ⟨-, hook, session⟩ := own.frame t world
        exact hook.trans (orderly.idle (session.symm.trans free))

theorem told_later {calls : List Invocation} (told : role.Told stage world calls) :
    role.Told later (action.perform t world).2.2 (calls ++ dispatched [⟨action, t, world⟩]) := by
  cases turn with
  | lock =>
      have none : calls = [] := told.early (Or.inl rfl)
      exact ⟨fun unread => Bool.noConfusion unread, fun _ => by simp [none, dispatched, Action.asked?]⟩
  | empty =>
      have none : calls = [] := told.early (Or.inr rfl)
      have sound := orderly.sound role.ledger
      refine ⟨fun _ => ?_, fun early => by simp at early⟩
      simp only [Action.perform, World.resetLedger, sound, Bool.false_eq_true, ↓reduceIte, none]
      simp [World.setLedger, dispatched, Action.asked?, Ledger.after_nil]
  | enter =>
      obtain ⟨_, _, same⟩ := world.install_frame t (.ledger role.ledger)
      simp only [Action.perform, same]
      refine ⟨fun _ => ?_, fun early => by simp at early⟩
      simpa [dispatched, Action.asked?] using told.records rfl
  | look | check | read =>
      refine ⟨fun _ => ?_, fun early => by simp at early⟩
      simpa [dispatched, Action.asked?, Action.perform] using told.records rfl
  | leave =>
      obtain ⟨_, _, same⟩ := world.uninstall_frame t
      simp only [Action.perform, same]
      refine ⟨fun _ => ?_, fun early => by simp at early⟩
      simpa [dispatched, Action.asked?] using told.records rfl
  | ask call =>
      refine ⟨fun _ => ?_, fun early => by simp at early⟩
      exact World.consult_after orderly.silent (told.records rfl) t call
  | unlock => exact ⟨fun unread => Bool.noConfusion unread, fun early => by simp at early⟩
  | own stage own =>
      rw [own.undispatched, List.append_nil]
      exact ⟨fun holding => (congrFun (own.frame t world).1 _).trans (told.records holding), told.early⟩

end Turn

/-! ### What a turn is beside the same turn alone -/

namespace Turn

variable (turn : role.Turn action stage later) (orderly : world.Orderly) (lonely : alone.Orderly)
  (placed : role.Placed stage world) (kept : role.Placed stage alone)
  (mirrors : role.Mirrors stage world alone)

include turn orderly lonely placed kept mirrors

theorem alike : role.Alike action (action.perform t world).1 (action.perform t alone).1 ∧
    (action.perform t world).2.1 = (action.perform t alone).2.1 := by
  -- Most answers are the only ones that fit; the others are read off what the worlds have in common.
  have here := turn.fits orderly placed (Eq.refl t.inPass)
  have there := turn.fits lonely kept (Eq.refl t.inPass)
  cases turn with
  | lock | unlock => exact ⟨rfl, rfl⟩
  | empty | enter | leave | look | check => exact ⟨here.trans there.symm, rfl⟩
  | ask call =>
      obtain ⟨_, asked⟩ := World.consult_sound orderly.silent (orderly.sound role.ledger) t call
      obtain ⟨_, asked'⟩ := World.consult_sound lonely.silent (lonely.sound role.ledger) t call
      simp only [Alike, Action.perform, asked, asked', mirrors.ledger rfl, and_self]
  | read =>
      simp only [Alike, Action.perform, World.readLedger, mirrors.ledger rfl, and_self]
  | own stage own =>
      cases action with
      | thread | mute | unmute => exact ⟨rfl, rfl⟩
      | emit event => exact ⟨here.trans there.symm, rfl⟩
      | spawn size =>
          have same := orderly.steady world.spawned alone.spawned size
          simp only [Alike, Action.perform, World.spawn, same, mirrors.refusal, and_self]
      | updateCache cache change =>
          simp only [Alike, Action.perform, mirrors.caches cache own, and_self]
      | client change => exact ⟨mirrors.client, rfl⟩
      | warnOnce cache message =>
          refine ⟨?_, rfl⟩
          simp only [Alike, Action.perform, World.warnOnce_silent orderly.silent,
            World.warnOnce_silent lonely.silent, mirrors.caches cache own]
          split
          · rfl
          · rfl
      | installedHook | consult | isTracing | install | uninstall | resetLedger | record | readLedger
      | lockSession | unlockSession => exact own.elim

theorem mirrors_later :
    role.Mirrors later (action.perform t world).2.2 (action.perform t alone).2.2 := by
  cases turn with
  | lock | unlock =>
      -- At neither of the next stages has the ledger anything to do with the role.
      exact ⟨mirrors.client, mirrors.caches, fun unread => Bool.noConfusion unread, mirrors.refusal⟩
  | look | check | read => exact mirrors
  | empty =>
      have sound := orderly.sound role.ledger
      have sound' := lonely.sound role.ledger
      simp only [Action.perform, World.resetLedger, sound, sound', Bool.false_eq_true, ↓reduceIte]
      exact ⟨mirrors.client, mirrors.caches, fun _ => by simp [World.setLedger], mirrors.refusal⟩
  | enter =>
      obtain ⟨_, _, same⟩ := world.install_frame t (.ledger role.ledger)
      obtain ⟨_, _, same'⟩ := alone.install_frame t (.ledger role.ledger)
      simp only [Action.perform, same, same']
      exact ⟨mirrors.client, mirrors.caches, fun _ => mirrors.ledger rfl, mirrors.refusal⟩
  | leave =>
      obtain ⟨_, _, same⟩ := world.uninstall_frame t
      obtain ⟨_, _, same'⟩ := alone.uninstall_frame t
      simp only [Action.perform, same, same']
      exact ⟨mirrors.client, mirrors.caches, fun _ => mirrors.ledger rfl, mirrors.refusal⟩
  | ask call =>
      obtain ⟨_, asked⟩ := World.consult_sound orderly.silent (orderly.sound role.ledger) t call
      obtain ⟨_, asked'⟩ := World.consult_sound lonely.silent (lonely.sound role.ledger) t call
      simp only [Action.perform, asked, asked', mirrors.ledger rfl]
      exact ⟨mirrors.client, mirrors.caches, fun _ => by simp [World.setLedger], mirrors.refusal⟩
  | own stage own =>
      have ledgers : stage.records = true →
          (action.perform t world).2.2.ledgers role.ledger =
            (action.perform t alone).2.2.ledgers role.ledger := by
        rw [(own.frame t world).1, (own.frame t alone).1]
        exact mirrors.ledger
      cases action with
      | thread | mute | unmute | spawn =>
          exact ⟨mirrors.client, mirrors.caches, ledgers, mirrors.refusal⟩
      | emit event =>
          simp only [Action.perform, World.emit_snd]
          exact ⟨mirrors.client, mirrors.caches, mirrors.ledger, mirrors.refusal⟩
      | updateCache cache change =>
          refine ⟨mirrors.client, fun name mine => ?_, ledgers, mirrors.refusal⟩
          by_cases here : name = cache
          · simp [Action.perform, World.setCache, here, mirrors.caches cache own]
          · simp [Action.perform, World.setCache, here, mirrors.caches name mine]
      | client change =>
          exact ⟨own.1 _ _ mirrors.client, mirrors.caches, ledgers, mirrors.refusal⟩
      | warnOnce cache message =>
          simp only [Action.perform, World.warnOnce_silent orderly.silent,
            World.warnOnce_silent lonely.silent, mirrors.caches cache own]
          split
          · exact mirrors
          · refine ⟨mirrors.client, fun name mine => ?_, mirrors.ledger, mirrors.refusal⟩
            by_cases here : name = cache
            · simp [World.logged, World.setCache, here]
            · simp [World.logged, World.setCache, here, mirrors.caches name mine]
      | installedHook | consult | isTracing | install | uninstall | resetLedger | record | readLedger
      | lockSession | unlockSession => exact own.elim

end Turn

/-! ### What the others see of a turn -/

theorem records_holds {stage : Stage} (records : stage.records = true) : stage.holds = true := by
  cases stage <;> first | rfl | cases records

/-- No turn is taken in the session of another, but for what is the role's own. -/
theorem Turn.own_of_held (turn : role.Turn action stage later) (placed : role.Placed stage world)
    (ready : action.ready world = true) {holder : Nat} (held : world.session = some holder)
    (differ : holder ≠ role.index.val) : role.Own action := by
  have outside : stage.holds = true → False := by
    intro holds
    rw [placed.session holds] at held
    exact differ (Option.some.inj held).symm
  cases turn with
  | own stage own => exact own
  | lock => simp [Action.ready, held] at ready
  | empty | enter | look | ask | check | leave | read | unlock => exact (outside rfl).elim

section Others

variable {other : Role n} {there : Stage} (turn : role.Turn action stage later)
  (placed : role.Placed stage world) (ready : action.ready world = true)
  (differ : other.index ≠ role.index) (elsewhere : other.Placed there world)

include turn placed ready differ elsewhere

/-- Whoever is in a session finds the ledgers, the slot and the lock as they were. -/
theorem Turn.frame (holds : there.holds = true) :
    (action.perform t world).2.2.ledgers = world.ledgers ∧
      (action.perform t world).2.2.hook = world.hook ∧
      (action.perform t world).2.2.session = world.session := by
  have held := elsewhere.session holds
  have own := turn.own_of_held placed ready held fun same => differ (Fin.ext same)
  exact own.frame t world

theorem Turn.placed_elsewhere : other.Placed there (action.perform t world).2.2 where
  session := by
    intro holds
    obtain ⟨-, -, session⟩ := turn.frame (t := t) placed ready differ elsewhere holds
    exact session.trans (elsewhere.session holds)
  hook := by
    intro holds
    obtain ⟨-, hook, -⟩ := turn.frame (t := t) placed ready differ elsewhere holds
    exact hook.trans (elsewhere.hook holds)

theorem Turn.mirrors_elsewhere (owner : other.owner = role.owner)
    (mirrors : other.Mirrors there world alone) :
    other.Mirrors there (action.perform t world).2.2 alone where
  client := ((turn.aside t world).client _ differ).trans mirrors.client
  caches := by
    intro name mine
    have foreign : role.owner name ≠ some role.index := by
      rw [← owner, mine]
      exact fun same => differ (Option.some.inj same)
    exact ((turn.aside t world).caches name foreign).trans (mirrors.caches name mine)
  ledger := by
    intro records
    obtain ⟨ledgers, -, -⟩ := turn.frame (t := t) placed ready differ elsewhere (records_holds records)
    exact (congrFun ledgers _).trans (mirrors.ledger records)
  refusal := (turn.aside t world).refusal.trans mirrors.refusal

theorem Turn.told_elsewhere {calls : List Invocation} (told : other.Told there world calls) :
    other.Told there (action.perform t world).2.2 calls where
  records := by
    intro records
    obtain ⟨ledgers, -, -⟩ := turn.frame (t := t) placed ready differ elsewhere (records_holds records)
    exact (congrFun ledgers _).trans (told.records records)
  early := told.early

end Others

end Role

end TuningTasks
