import Mathlib.Data.List.ReduceOption
import TuningTasks.Scenario.Session

/-!
Muting guards that are dropped in any order. Each puts back whether its thread was muted when it was
made, and only the one that was made while no other was active has found it unmuted. That one is the
oldest, so the thread is muted for exactly as long as it holds an active guard where the oldest is
dropped last, and it is heard at once where it is not (`Holder.hides_iff_orderly`).
-/
namespace TuningTasks

variable {σ : Type}

/-- A thread with the guards that it holds, the last made first. One that is active has what it puts
back. -/
structure Holder (σ : Type) where
  thread : Thread
  world : World σ
  held : List (Option Bool)

namespace Holder

inductive Move (σ : Type)
  | make (enabled : Bool)
  | drop (place : Nat)
  /-- The other threads do what they like, and hold so many active guards by then. -/
  | elsewhere (change : World σ → World σ) (others : Nat)

variable (holder : Holder σ)

def start (t : Thread) (world : World σ) : Holder σ where
  thread := { t with muted := false }
  world := world
  held := []

def active : List Bool := holder.held.reduceOption

def push (guard : Option Bool) : Holder σ := { holder with held := guard :: holder.held }

def make (enabled : Bool) : Holder σ :=
  if enabled then
    let (found, thread, world) := Action.mute.perform holder.thread holder.world
    { holder with thread, world }.push (some found)
  else holder.push none

def drop (place : Nat) : Holder σ :=
  let held := holder.held.eraseIdx place
  match holder.held[place]?.join with
  | some found =>
      let ((), thread, world) := (Action.unmute found).perform holder.thread holder.world
      { thread, world, held }
  | none => { holder with held }

def move : Move σ → Holder σ
  | .make enabled => holder.make enabled
  | .drop place => holder.drop place
  | .elsewhere change others =>
      { holder with world := { change holder.world with guards := holder.active.length + others } }

def run (moves : List (Move σ)) : Holder σ := moves.foldl move holder

def Hides : Prop := ∀ event, holder.world.emit holder.thread event = (.ok (), holder.world)

/-- The oldest of the active guards is not dropped while others are active. -/
def Spares : Move σ → Prop
  | .drop place =>
      holder.held[place]?.join.isSome → (holder.held.drop (place + 1)).reduceOption = [] →
        (holder.held.take place).reduceOption = []
  | .make _ | .elsewhere .. => True

def Orderly : Holder σ → List (Move σ) → Prop
  | _, [] => True
  | holder, move :: rest => holder.Spares move ∧ (holder.move move).Orderly rest

def Move.others (before : Nat) : Move σ → Nat
  | .elsewhere _ now => now
  | .make _ | .drop _ => before

/-! ### What a muted thread shows -/

theorem hides_iff : holder.Hides ↔ holder.world.hears holder.thread = false := by
  constructor
  · intro hides
    by_contra heard
    rw [Bool.not_eq_false] at heard
    have same := congrArg (fun ended => ended.2.log.length) (hides (.note ""))
    simp [World.emit, heard] at same
  · intro unheard event
    simp [World.emit, unheard]

/-! ### What the guards have found -/

/-- Each active guard has found the thread muted if an older one was active. -/
def Stacked : List Bool → Prop
  | [] => True
  | found :: older => found = !older.isEmpty ∧ Stacked older

theorem Stacked.found {newer older : List Bool} {found : Bool}
    (stacked : Stacked (newer ++ found :: older)) : found = !older.isEmpty := by
  induction newer with
  | nil => exact stacked.1
  | cons _ _ ih => exact ih stacked.2

theorem Stacked.erase {newer older : List Bool} {found : Bool}
    (stacked : Stacked (newer ++ found :: older)) (more : older ≠ []) : Stacked (newer ++ older) := by
  induction newer with
  | nil => exact stacked.2
  | cons last newer ih =>
      constructor
      · -- An older guard than the one that went is left in either case.
        have left : (newer ++ found :: older).isEmpty = (newer ++ older).isEmpty := by
          cases newer <;> simp [more]
        exact stacked.1.trans (congrArg not left)
      · exact ih stacked.2

/-- The thread is muted just while a guard is active, each of which knows whether it was the first. -/
structure Sound : Prop where
  stacked : Stacked holder.active
  muted : holder.thread.muted = !holder.active.isEmpty

/-- The process counts the active guards of the thread and those of the others. -/
def Counted (others : Nat) : Prop := holder.world.guards = holder.active.length + others

variable {holder} {others : Nat}

theorem Sound.hides_iff (sound : holder.Sound) (counted : holder.Counted others) :
    holder.Hides ↔ holder.active ≠ [] := by
  rw [Holder.hides_iff, World.hears, sound.muted, counted]
  cases holder.active <;> simp

theorem held_split {place : Nat} {guard : Option Bool} (there : holder.held[place]? = some guard) :
    holder.held = holder.held.take place ++ guard :: holder.held.drop (place + 1) := by
  obtain ⟨bound, rfl⟩ := List.getElem?_eq_some_iff.mp there
  rw [List.getElem_cons_drop, List.take_append_drop]

theorem active_split {place : Nat} {found : Bool} (there : holder.held[place]?.join = some found) :
    holder.active = (holder.held.take place).reduceOption ++
      found :: (holder.held.drop (place + 1)).reduceOption := by
  have parts := held_split (Option.join_eq_some_iff.mp there)
  conv_lhs => rw [active, parts]
  rw [List.reduceOption_append, List.reduceOption_cons_of_some]

theorem active_idle {place : Nat} (idle : holder.held[place]?.join = none) :
    (holder.held.eraseIdx place).reduceOption = holder.active := by
  cases there : holder.held[place]? with
  | none =>
      rw [List.eraseIdx_of_length_le (List.getElem?_eq_none_iff.mp there)]
      rfl
  | some guard =>
      have inactive : guard = none := by simpa [there] using idle
      conv_rhs => rw [active, held_split there]
      rw [List.eraseIdx_eq_take_drop_succ, inactive, List.reduceOption_append,
        List.reduceOption_append, List.reduceOption_cons_of_none]

/-! ### One move -/

theorem drop_active {place : Nat} {found : Bool} (there : holder.held[place]?.join = some found) :
    holder.drop place =
      { thread := { holder.thread with muted := found }
        world := { holder.world with guards := holder.world.guards - 1 }
        held := holder.held.eraseIdx place } := by
  rw [drop, there]
  rfl

theorem drop_idle {place : Nat} (idle : holder.held[place]?.join = none) :
    holder.drop place = { holder with held := holder.held.eraseIdx place } := by
  rw [drop, idle]

theorem drop_push (holder : Holder σ) (guard : Option Bool) (place : Nat) :
    (holder.push guard).drop (place + 1) = (holder.drop place).push guard := by
  cases there : holder.held[place]?.join with
  | none =>
      have under : (holder.push guard).held[place + 1]?.join = none := there
      rw [drop_idle there]
      exact drop_idle under
  | some found =>
      have under : (holder.push guard).held[place + 1]?.join = some found := there
      rw [drop_active there]
      exact drop_active under

theorem active_dropped {place : Nat} {found : Bool} (there : holder.held[place]?.join = some found) :
    (holder.drop place).active =
      (holder.held.take place).reduceOption ++ (holder.held.drop (place + 1)).reduceOption := by
  rw [drop_active there, active, List.eraseIdx_eq_take_drop_succ, List.reduceOption_append]

/-- A drop that does not spare the oldest guard is heard at once, although others are active. -/
theorem Sound.unspared (sound : holder.Sound) {move : Move σ} (against : ¬ holder.Spares move) :
    (holder.move move).active ≠ [] ∧ ¬ (holder.move move).Hides := by
  cases move with
  | make | elsewhere => exact absurd trivial against
  | drop place =>
      simp only [Spares, Classical.not_imp] at against
      obtain ⟨there, oldest, others⟩ := against
      obtain ⟨found, there⟩ := Option.isSome_iff_exists.mp there
      have stacked := sound.stacked
      rw [active_split there] at stacked
      have unmuted : found = false := by simpa [oldest] using stacked.found
      change (holder.drop place).active ≠ [] ∧ ¬ (holder.drop place).Hides
      constructor
      · simp [active_dropped there, others]
      · rw [Holder.hides_iff, drop_active there, unmuted]
        simp [World.hears]

theorem active_made : (holder.make true).active = holder.thread.muted :: holder.active :=
  List.reduceOption_cons_of_some ..

theorem Sound.make (sound : holder.Sound) (enabled : Bool) : (holder.make enabled).Sound := by
  obtain ⟨stacked, muted⟩ := sound
  cases enabled with
  | false => exact ⟨stacked, muted⟩
  | true =>
      constructor
      · rw [active_made]
        exact ⟨muted, stacked⟩
      · rw [active_made]
        rfl

theorem Sound.drop (sound : holder.Sound) {place : Nat} (spares : holder.Spares (.drop place)) :
    (holder.drop place).Sound := by
  obtain ⟨stacked, muted⟩ := sound
  cases there : holder.held[place]?.join with
  | none =>
      rw [drop_idle there]
      constructor
      · rwa [active, active_idle there]
      · rwa [active, active_idle there]
  | some found =>
      rw [active_split there] at stacked
      have left := active_dropped there
      have back : (holder.drop place).thread.muted = found := by rw [drop_active there]
      rw [Spares, there] at spares
      by_cases oldest : (holder.held.drop (place + 1)).reduceOption = []
      · -- It was the only one, and has found the thread heard.
        have alone := spares rfl oldest
        rw [alone, oldest] at left
        constructor
        · rw [left]
          trivial
        · rw [back, stacked.found, left, oldest]
          rfl
      · constructor
        · rw [left]
          exact stacked.erase oldest
        · have others := List.append_ne_nil_of_right_ne_nil (holder.held.take place).reduceOption oldest
          rw [back, stacked.found, left, List.isEmpty_eq_false_iff.mpr oldest,
            List.isEmpty_eq_false_iff.mpr others]

theorem Sound.move (sound : holder.Sound) {move : Move σ} (spares : holder.Spares move) :
    (holder.move move).Sound := by
  cases move with
  | make enabled => exact sound.make enabled
  | drop place => exact sound.drop spares
  | elsewhere change others => exact ⟨sound.stacked, sound.muted⟩

theorem Counted.move (counted : holder.Counted others) (move : Move σ) :
    (holder.move move).Counted (move.others others) := by
  cases move with
  | elsewhere change now => rfl
  | make enabled =>
      cases enabled with
      | false => exact counted
      | true =>
          have one : (holder.make true).world.guards = holder.world.guards + 1 := rfl
          change (holder.make true).world.guards = (holder.make true).active.length + others
          rw [one, active_made, List.length_cons, counted]
          omega
  | drop place =>
      change (holder.drop place).world.guards = (holder.drop place).active.length + others
      cases there : holder.held[place]?.join with
      | none =>
          rw [drop_idle there, active, active_idle there]
          exact counted
      | some found =>
          have fewer : (holder.drop place).world.guards = holder.world.guards - 1 := by
            rw [drop_active there]
          rw [fewer, active_dropped there, counted, active_split there]
          simp only [List.length_append, List.length_cons]
          omega

/-! ### All the moves -/

theorem Orderly.sound {moves : List (Move σ)} (orderly : holder.Orderly moves) (sound : holder.Sound) :
    (holder.run moves).Sound := by
  induction moves generalizing holder with
  | nil => exact sound
  | cons move rest ih => exact ih orderly.2 (sound.move orderly.1)

theorem Counted.run (counted : holder.Counted others) (moves : List (Move σ)) :
    (holder.run moves).Counted (moves.foldl (fun count move => move.others count) others) := by
  induction moves generalizing holder others with
  | nil => exact counted
  | cons move rest ih => exact ih (counted.move move)

theorem Sound.faithful_iff (sound : holder.Sound) (counted : holder.Counted others)
    {moves : List (Move σ)} :
    (∀ before, before <+: moves → ((holder.run before).Hides ↔ (holder.run before).active ≠ [])) ↔
      holder.Orderly moves := by
  induction moves generalizing holder others with
  | nil =>
      constructor
      · exact fun _ => trivial
      · intro _ before early
        rw [List.prefix_nil.mp early]
        exact sound.hides_iff counted
  | cons move rest ih =>
      by_cases spares : holder.Spares move
      · rw [Orderly, ← ih (sound.move spares) (counted.move move)]
        constructor
        · intro faithful
          exact ⟨spares, fun before early => faithful (move :: before) (by simpa using early)⟩
        · rintro ⟨-, faithful⟩ before early
          rcases List.prefix_cons_iff.mp early with rfl | ⟨later, rfl, shorter⟩
          · exact sound.hides_iff counted
          · exact faithful later shorter
      · -- The first move that is not orderly shows at once, whatever comes later.
        obtain ⟨active, heard⟩ := sound.unspared spares
        constructor
        · intro faithful
          exact absurd ((faithful [move] (by simp)).mpr active) heard
        · exact fun orderly => absurd orderly.1 spares

theorem active_ne_nil : holder.active ≠ [] ↔ ∃ found, some found ∈ holder.held := by
  constructor
  · intro held
    obtain ⟨found, member⟩ := List.exists_mem_of_ne_nil _ held
    exact ⟨found, List.reduceOption_mem_iff.mp member⟩
  · rintro ⟨found, member⟩
    exact List.ne_nil_of_mem (List.reduceOption_mem_iff.mpr member)

/-- Guards that are dropped in the reverse order of their making are dropped orderly. -/
theorem orderly_nested {moves : List (Move σ)} (nested : ∀ place, .drop place ∈ moves → place = 0) :
    holder.Orderly moves := by
  induction moves generalizing holder with
  | nil => trivial
  | cons move rest ih =>
      constructor
      · cases move with
        | make | elsewhere => trivial
        | drop place =>
            rw [nested place List.mem_cons_self]
            exact fun _ _ => rfl
      · exact ih fun place member => nested place (List.mem_cons_of_mem _ member)

/-- From a thread without guards on, at every point the thread is hidden if and only if it holds an
active guard, just if each time the oldest active guard is dropped last. Then the guards leave the thread
unmuted, and in any order it is heard once no guard is active in the process. -/
theorem hides_iff_orderly (t : Thread) (world : World σ) (moves : List (Move σ)) :
    ((∀ before, before <+: moves → (((start t world).run before).Hides ↔
        ∃ found, some found ∈ ((start t world).run before).held)) ↔ (start t world).Orderly moves) ∧
      (¬ (∃ found, some found ∈ ((start t world).run moves).held) →
        ((start t world).Orderly moves → ((start t world).run moves).thread.muted = false) ∧
          (moves.foldl (fun count move => move.others count) world.guards = 0 →
            ¬ ((start t world).run moves).Hides)) := by
  have sound : (start t world).Sound := ⟨trivial, rfl⟩
  have counted : (start t world).Counted world.guards := (Nat.zero_add _).symm
  simp only [← active_ne_nil]
  constructor
  · exact sound.faithful_iff counted
  · intro idle
    have none_active := not_ne_iff.mp idle
    constructor
    · intro orderly
      have back := (orderly.sound sound).muted
      rwa [none_active] at back
    · intro alone
      have none_held := counted.run moves
      rw [Counted, none_active, alone] at none_held
      rw [Holder.hides_iff, World.hears, none_held]
      exact Bool.noConfusion

theorem hides_iff_orderly_middle :
    let moves : List (Move Unit) :=
      [.make true, .make false, .make true, .make true, .drop 1, .drop 0, .drop 0, .drop 0]
    ∀ before, before <+: moves → (((start {} (.initial ())).run before).Hides ↔
      ∃ found, some found ∈ ((start {} (.initial ())).run before).held) := by
  intro moves
  have orderly : (start {} (.initial ())).Orderly moves := by
    simp [moves, Orderly, Spares, start, move, make, push, drop, Action.perform]
  exact (hides_iff_orderly {} (.initial ()) moves).1.mpr orderly

end Holder

namespace Scenario.Session

/-! ### Guards held by name -/

variable {session : Session} {name : String}

def holder (session : Session) : Holder Bench where
  thread := session.thread
  world := session.world
  held := session.guards.map Prod.snd

def place (session : Session) (name : String) : Nat := (session.guards.map Prod.fst).idxOf name

theorem find?_place (guards : List (String × Option Bool)) (name : String) :
    (guards.find? fun guard => guard.1 = name).bind Prod.snd =
      (guards.map Prod.snd)[(guards.map Prod.fst).idxOf name]?.join := by
  induction guards with
  | nil => rfl
  | cons guard rest ih =>
      by_cases here : guard.1 = name
      · simp [here]
      · simp [here, List.idxOf_cons_ne, ih]

theorem filter_place {guards : List (String × Option Bool)} (distinct : (guards.map Prod.fst).Nodup)
    (name : String) : (guards.filter fun guard => guard.1 ≠ name).map Prod.snd =
      (guards.map Prod.snd).eraseIdx ((guards.map Prod.fst).idxOf name) := by
  induction guards with
  | nil => rfl
  | cons guard rest ih =>
      obtain ⟨fresh, others⟩ := List.nodup_cons.mp distinct
      by_cases here : guard.1 = name
      · -- No other guard has the name.
        have kept : rest.filter (fun guard => guard.1 ≠ name) = rest := by
          apply List.filter_eq_self.mpr
          intro other member
          have differ : other.1 ≠ name := fun same =>
            fresh (here.trans same.symm ▸ List.mem_map_of_mem member)
          simpa using differ
        rw [List.filter_cons_of_neg (by simpa using here), kept]
        simp [here]
      · rw [List.filter_cons_of_pos (by simpa using here), List.map_cons, ih others]
        simp [List.idxOf_cons_ne, here]

theorem dropGuard_holder (distinct : (session.guards.map Prod.fst).Nodup) :
    (session.dropGuard name).holder = session.holder.drop (session.place name) := by
  have found := find?_place session.guards name
  have kept := filter_place distinct name
  cases there : (session.guards.map Prod.snd)[session.place name]?.join with
  | none =>
      rw [Holder.drop_idle there, holder, dropGuard, found.trans there]
      exact congrArg (Holder.mk _ _) kept
  | some put =>
      rw [Holder.drop_active there, holder, dropGuard, found.trans there]
      exact congrArg (Holder.mk _ _) kept

theorem addGuard_holder (distinct : (session.guards.map Prod.fst).Nodup) (enabled : Bool) :
    (session.addGuard name enabled).holder =
      (session.holder.make enabled).drop (session.place name + 1) := by
  cases enabled with
  | false =>
      have under := session.holder.drop_push none (session.place name)
      rw [← dropGuard_holder distinct] at under
      exact under.symm
  | true =>
      let muted := (session.perform .mute).2
      have distinct : (muted.guards.map Prod.fst).Nodup := distinct
      have under := muted.holder.drop_push (some session.thread.muted) (muted.place name)
      rw [← dropGuard_holder distinct] at under
      exact under.symm

theorem dropGuard_names (session : Session) (name : String) :
    (session.dropGuard name).guards.map Prod.fst = (session.guards.map Prod.fst).filter (· ≠ name) := by
  have kept : (session.dropGuard name).guards = session.guards.filter fun guard => guard.1 ≠ name := by
    unfold dropGuard
    split <;> rfl
  rw [kept, List.filter_map]
  rfl

def guard (session : Session) : String × Option Bool → Session
  | (name, some enabled) => session.addGuard name enabled
  | (name, none) => session.dropGuard name

/-- What the session does by name, its thread does one guard at a time, and the names stay distinct. -/
theorem guard_moves (distinct : (session.guards.map Prod.fst).Nodup) (step : String × Option Bool) :
    ((session.guard step).guards.map Prod.fst).Nodup ∧
      ∃ moves, (session.guard step).holder = session.holder.run moves := by
  obtain ⟨name, _ | enabled⟩ := step
  · constructor
    · change ((session.dropGuard name).guards.map Prod.fst).Nodup
      rw [dropGuard_names]
      exact distinct.filter _
    · exact ⟨[.drop (session.place name)], dropGuard_holder distinct⟩
  · constructor
    · let made := if enabled then (session.perform .mute).2 else session
      have names : (session.addGuard name enabled).guards.map Prod.fst =
          name :: (made.dropGuard name).guards.map Prod.fst := by cases enabled <;> rfl
      have before : made.guards = session.guards := by cases enabled <;> rfl
      change ((session.addGuard name enabled).guards.map Prod.fst).Nodup
      rw [names, dropGuard_names, before, List.nodup_cons]
      exact ⟨by simp, distinct.filter _⟩
    · exact ⟨[.make enabled, .drop (session.place name + 1)], addGuard_holder distinct enabled⟩

theorem guards_moves (distinct : (session.guards.map Prod.fst).Nodup)
    (steps : List (String × Option Bool)) :
    ∃ moves, (steps.foldl guard session).holder = session.holder.run moves := by
  induction steps generalizing session with
  | nil => exact ⟨[], rfl⟩
  | cons step rest ih =>
      obtain ⟨later, moves, here⟩ := guard_moves distinct step
      obtain ⟨more, ended⟩ := ih later
      have whole : (session.holder.run moves).run more = session.holder.run (moves ++ more) :=
        (List.foldl_append ..).symm
      exact ⟨moves ++ more, by rw [List.foldl_cons, ended, here, whole]⟩

end Scenario.Session

/-- Two guards are held, and the one that was made first is dropped first. The other is still active,
but the next event is heard. -/
theorem Holder.heard_while_active :
    let moves : List (Move Scenario.Bench) := [.make true, .make true, .drop 1]
    let holder := (start {} Scenario.Session.start.world).run moves
    (∃ found, some found ∈ holder.held) ∧ ¬ holder.Hides ∧
      (Scenario.outcomes [(false, .suppress "g" true), (false, .suppress "h" true),
        (false, .release "g"), (false, .log "one")]).map Scenario.Session.Outcome.events =
          [[], [], [], [.note "one"]] := by
  intro moves holder
  refine ⟨⟨true, by decide⟩, ?_, rfl⟩
  rw [Holder.hides_iff]
  decide

end TuningTasks
