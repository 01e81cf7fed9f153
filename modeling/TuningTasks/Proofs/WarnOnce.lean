import Mathlib.Data.List.Dedup
import TuningTasks.Proofs.Fallback
import TuningTasks.Proofs.LedgerLaw
import TuningTasks.Scenario.Bench

/-!
The law of a fallback cache. Whatever the threads of a process call on it, in whatever order they take
its lock, each message is warned of exactly once between two clears, a look-up answers what was last
remembered for its pair since then, and the two counts are those of the different messages and of the
different pairs (`Serves.warn_once_law`). A message is kept before its event is emitted, and the lock is
taken whether or not it is poisoned, so a panic of the log changes nothing of this.
-/
namespace TuningTasks

variable {σ β : Type}

open Scenario (CacheOp Answer)

/-! ### The calls on a cache -/

namespace Scenario.CacheOp

def call (name : String) : CacheOp → Routine σ Answer
  | warnOnce message => return .bool (← Routine.panicking (.perform (.warnOnce name message)))
  | remember target workload config => do
      let _ ← Routine.perform (.updateCache name (·.remember target workload config))
      return .null
  | lookup target workload =>
      return .config ((← Routine.perform (.updateCache name id)).lookup? target workload)
  | warningCount => return .count (← Routine.perform (.updateCache name id)).warned.length
  | configCount => return .count (← Routine.perform (.updateCache name id)).configs.length
  | clear => do
      let _ ← Routine.perform (.updateCache name fun _ => {})
      return .null

theorem act_eq_call (name : String) (op : CacheOp) : op.act name = op.call name := by
  cases op <;> rfl

def change : CacheOp → FallbackCache → FallbackCache
  | warnOnce message, cache => cache.warn message
  | remember target workload config, cache => cache.remember target workload config
  | lookup .., cache | warningCount, cache | configCount, cache => cache
  | clear, _ => {}

def answer (cache : FallbackCache) : CacheOp → Answer
  | warnOnce message => .bool (!cache.hasWarned message)
  | remember .. | clear => .null
  | lookup target workload => .config (cache.lookup? target workload)
  | warningCount => .count cache.warned.length
  | configCount => .count cache.configs.length

def message? : CacheOp → Option String
  | warnOnce message => some message
  | _ => none

def config? : CacheOp → Option ((String × String) × String)
  | remember target workload config => some ((target, workload), config)
  | _ => none

end Scenario.CacheOp

/-- A call with the thread that made it, the worlds that it found and left, and how it ended. -/
structure Served (σ : Type) where
  op : CacheOp
  thread : Thread
  world : World σ
  outcome : Except Exit Answer
  after : World σ

def Action.touches (name : String) : Action σ β → Bool
  | .warnOnce other _ | .updateCache other _ => other = name
  | _ => false

/-- The process takes the calls on the cache one after the other, from the first world to the last. In
between its threads do what they like, but for touching the cache. -/
inductive Serves (name : String) : World σ → List (Served σ) → World σ → Prop
  | nil (world : World σ) : Serves name world [] world
  | elsewhere {world next last : World σ} {history : List (Moment σ)} {calls : List (Served σ)}
      (follows : Follows world history next)
      (spared : ∀ moment ∈ history, moment.action.touches name = false)
      (later : Serves name next calls last) : Serves name world calls last
  | call (call : Served σ) {thread : Thread} {last : World σ} {calls : List (Served σ)}
      (ran : (call.op.call name).run.exec call.thread call.world =
        some (call.outcome, thread, call.after))
      (later : Serves name call.after calls last) : Serves name call.world (call :: calls) last

/-! ### What the calls since the last clear amount to -/

namespace Served

/-- The message that the call has emitted an event for, also where the log panicked on it. -/
def emitted? (call : Served σ) : Option String :=
  match call.op, call.outcome with
  | .warnOnce _, .ok (.bool false) => none
  | .warnOnce message, _ => some message
  | _, _ => none

def next (since : List (Served σ)) (call : Served σ) : List (Served σ) :=
  match call.op with
  | .clear => []
  | _ => since ++ [call]

def sinceClear (calls : List (Served σ)) : List (Served σ) := calls.foldl next []

def messages (since : List (Served σ)) : List String := since.filterMap (·.op.message?)

def configs (since : List (Served σ)) : List ((String × String) × String) :=
  since.filterMap (·.op.config?)

def emissions (since : List (Served σ)) : List String := since.filterMap emitted?

/-- What the calls since the last clear make of the answer to the next. -/
def reply (since : List (Served σ)) : CacheOp → Answer
  | .warnOnce message => .bool (decide (message ∉ messages since))
  | .remember .. | .clear => .null
  | .lookup target workload =>
      .config (((configs since).reverse.find? fun entry => entry.1 = (target, workload)).map Prod.snd)
  | .warningCount => .count (messages since).dedup.length
  | .configCount => .count ((configs since).map Prod.fst).dedup.length

/-- A message that was not handed in since the last clear is kept, and then its event is emitted: the
call ends as the log ends. Every other call is answered by the calls since then, without an event. -/
inductive Lawful (name : String) (since : List (Served σ)) (call : Served σ) : Prop
  | warns {message : String} (asks : call.op = .warnOnce message) (new : message ∉ messages since)
      {emitted : Except Panic Unit}
      (emits : (call.world.setCache name ((call.world.caches name).warn message)).emit call.thread
        (.fallback message) = (emitted, call.after))
      (ends : call.outcome = (emitted.map fun _ => .bool true).mapError .panic)
  | answers (known : ∀ message, call.op = .warnOnce message → message ∈ messages since)
      (answered : call.outcome = .ok (reply since call.op)) (quiet : call.after.log = call.world.log)

end Served

/-! ### One call -/

namespace World

theorem warnOnce_known {world : World σ} {name message : String}
    (known : message ∈ (world.caches name).warned) (thread : Thread) :
    world.warnOnce thread name message = (.ok false, world) := by
  have given : (world.caches name).hasWarned message = true := by
    simpa [FallbackCache.hasWarned] using known
  simp only [warnOnce, given, ↓reduceIte]

theorem warnOnce_new {world : World σ} {name message : String}
    (new : message ∉ (world.caches name).warned) (thread : Thread) :
    world.warnOnce thread name message =
      let (emitted, after) := (world.setCache name ((world.caches name).warn message)).emit thread
        (.fallback message)
      (emitted.map fun _ => true, after) := by
  have given : (world.caches name).hasWarned message = false := by
    simpa [FallbackCache.hasWarned] using new
  simp only [warnOnce, given, Bool.false_eq_true, ↓reduceIte]

theorem setCache_caches (world : World σ) (name : String) (cache : FallbackCache) :
    (world.setCache name cache).caches name = cache :=
  if_pos rfl

end World

theorem Action.spares_cache {action : Action σ β} {name : String} (spares : action.touches name = false)
    (t : Thread) (world : World σ) : (action.perform t world).2.2.caches name = world.caches name := by
  cases action with
  | warnOnce other message =>
      have differ : name ≠ other := fun same => by simp [touches, same] at spares
      by_cases known : message ∈ (world.caches other).warned
      · simp only [perform, World.warnOnce_known known]
      · simp only [perform, World.warnOnce_new known, World.emit_snd]
        exact if_neg differ
  | updateCache other change =>
      have differ : name ≠ other := fun same => by simp [touches, same] at spares
      exact if_neg differ
  | thread | mute | unmute | emit | installedHook | consult | isTracing | install | uninstall
  | resetLedger | record | readLedger | lockSession | unlockSession | spawn | client =>
      exact Action.leaves_cache rfl name t world

namespace Scenario.CacheOp

variable {name : String} {world : World σ}

theorem exec_warning {message : String} (new : message ∉ (world.caches name).warned) (t : Thread) :
    ((warnOnce message).call name).run.exec t world =
      let (emitted, after) := (world.setCache name ((world.caches name).warn message)).emit t
        (.fallback message)
      some ((emitted.map fun _ => Answer.bool true).mapError .panic, t, after) := by
  have warned := World.warnOnce_new new t
  rw [call, Routine.exec_bind, Routine.exec_panicking, Code.exec_perform _ rfl]
  simp only [Action.perform, warned, Option.map_some, Option.bind_some]
  rcases ((world.setCache name ((world.caches name).warn message)).emit t (.fallback message)).1 with
    panic | done <;> rfl

theorem exec_answering {op : CacheOp}
    (known : ∀ message, op = warnOnce message → message ∈ (world.caches name).warned) (t : Thread) :
    ∃ after, (op.call name).run.exec t world = some (.ok (op.answer (world.caches name)), t, after) ∧
      after.caches name = op.change (world.caches name) ∧ after.log = world.log := by
  cases op with
  | warnOnce message =>
      have given := known message rfl
      have heard : (world.caches name).hasWarned message = true := by
        simpa [FallbackCache.hasWarned] using given
      refine ⟨world, ?_, ?_, rfl⟩
      · rw [call, Routine.exec_bind, Routine.exec_panicking, Code.exec_perform _ rfl]
        simp only [Action.perform, World.warnOnce_known given, answer, heard]
        rfl
      · simp only [change, FallbackCache.warn, heard, ↓reduceIte]
  | remember | lookup | warningCount | configCount | clear =>
      exact ⟨_, rfl, World.setCache_caches .., rfl⟩

end Scenario.CacheOp

/-! ### The contents, as the calls since the last clear make them -/

structure Warned (messages warned : List String) : Prop where
  members : ∀ message, message ∈ warned ↔ message ∈ messages
  distinct : warned.Nodup

/-- The configurations that were remembered, the last for each pair. -/
structure Remembered (configs held : List ((String × String) × String)) : Prop where
  found : ∀ pair, held.find? (fun entry => entry.1 = pair) =
    configs.reverse.find? fun entry => entry.1 = pair
  distinct : (held.map Prod.fst).Nodup

theorem Warned.warn {messages : List String} {cache : FallbackCache}
    (warned : Warned messages cache.warned) (message : String) :
    Warned (messages ++ [message]) (cache.warn message).warned := by
  obtain ⟨members, distinct⟩ := warned
  by_cases known : message ∈ cache.warned
  · have kept : cache.warn message = cache := by simp [FallbackCache.warn, FallbackCache.hasWarned, known]
    rw [kept]
    refine ⟨fun other => ?_, distinct⟩
    rw [List.mem_append, List.mem_singleton, members]
    constructor
    · exact Or.inl
    · rintro (before | rfl)
      · exact before
      · exact (members other).mp known
  · have added : (cache.warn message).warned = message :: cache.warned := by
      simp [FallbackCache.warn, FallbackCache.hasWarned, known]
    rw [added]
    refine ⟨fun other => ?_, List.nodup_cons.mpr ⟨known, distinct⟩⟩
    rw [List.mem_cons, List.mem_append, List.mem_singleton, members, or_comm]

theorem Remembered.remember {configs : List ((String × String) × String)} {cache : FallbackCache}
    (remembered : Remembered configs cache.configs) (target workload config : String) :
    Remembered (configs ++ [((target, workload), config)])
      (cache.remember target workload config).configs := by
  obtain ⟨found, distinct⟩ := remembered
  simp only [FallbackCache.remember]
  constructor
  · intro pair
    rw [List.reverse_concat]
    by_cases same : (target, workload) = pair
    · simp [same]
    · -- The entry of another pair is passed over, and so is what was dropped to make room for it.
      have kept : (cache.configs.filter fun entry => entry.1 ≠ (target, workload)).find?
          (fun entry => entry.1 = pair) = cache.configs.find? fun entry => entry.1 = pair := by
        rw [List.find?_filter]
        congr 1
        funext entry
        by_cases here : entry.1 = pair
        · simp [here, Ne.symm same]
        · simp [here]
      rw [List.find?_cons_of_neg (by simpa using same), List.find?_cons_of_neg (by simpa using same),
        kept, found]
  · rw [List.map_cons, List.nodup_cons]
    constructor
    · intro again
      obtain ⟨entry, inside, same⟩ := List.mem_map.mp again
      have differ := (List.mem_filter.mp inside).2
      simp [same] at differ
    · exact distinct.sublist (List.filter_sublist.map Prod.fst)

theorem mem_keys_iff {κ α : Type} [DecidableEq κ] {entries : List (κ × α)} {key : κ} :
    key ∈ entries.map Prod.fst ↔ (entries.find? fun entry => entry.1 = key).isSome = true := by
  simp [List.find?_isSome]

theorem Remembered.members {configs held : List ((String × String) × String)}
    (remembered : Remembered configs held) (pair : String × String) :
    pair ∈ held.map Prod.fst ↔ pair ∈ configs.map Prod.fst := by
  rw [mem_keys_iff, remembered.found, ← mem_keys_iff, List.map_reverse, List.mem_reverse]

theorem length_eq_dedup {α : Type} [DecidableEq α] {left right : List α} (distinct : left.Nodup)
    (same : ∀ item, item ∈ left ↔ item ∈ right) : left.length = right.dedup.length := by
  have alike : ∀ item, item ∈ left ↔ item ∈ right.dedup := fun item =>
    (same item).trans List.mem_dedup.symm
  exact ((List.perm_ext_iff_of_nodup distinct right.nodup_dedup).mpr alike).length_eq

namespace Served

variable {since : List (Served σ)} {cache : FallbackCache}

/-- The cache holds what the calls since the last clear amount to. -/
structure Holds (since : List (Served σ)) (cache : FallbackCache) : Prop where
  warned : Warned (messages since) cache.warned
  remembered : Remembered (configs since) cache.configs

theorem Holds.empty : Holds ([] : List (Served σ)) {} where
  warned := ⟨fun _ => Iff.rfl, .nil⟩
  remembered := ⟨fun _ => rfl, .nil⟩

theorem Holds.answer (holds : Holds since cache) (op : CacheOp) : op.answer cache = reply since op := by
  obtain ⟨warned, remembered⟩ := holds
  cases op with
  | warnOnce message =>
      have given := warned.members message
      by_cases known : message ∈ cache.warned
      · simp [CacheOp.answer, reply, FallbackCache.hasWarned, known, given.mp known]
      · simp [CacheOp.answer, reply, FallbackCache.hasWarned, known, given.not.mp known]
  | remember | clear => rfl
  | lookup target workload => rw [CacheOp.answer, reply, FallbackCache.lookup?, remembered.found]
  | warningCount => rw [CacheOp.answer, reply, length_eq_dedup warned.distinct warned.members]
  | configCount =>
      rw [CacheOp.answer, reply, ← length_eq_dedup remembered.distinct remembered.members,
        List.length_map]

section Concat

variable (since) (call : Served σ)

theorem messages_concat : messages (since ++ [call]) = messages since ++ call.op.message?.toList :=
  Epoch.filterMap_concat _ since call

theorem configs_concat : configs (since ++ [call]) = configs since ++ call.op.config?.toList :=
  Epoch.filterMap_concat _ since call

theorem emissions_concat : emissions (since ++ [call]) = emissions since ++ call.emitted?.toList :=
  Epoch.filterMap_concat _ since call

theorem next_kept (kept : call.op ≠ .clear) : next since call = since ++ [call] := by
  unfold next
  split
  · exact absurd ‹_› kept
  · rfl

end Concat

theorem Holds.next (holds : Holds since cache) (call : Served σ) :
    Holds (next since call) (call.op.change cache) := by
  obtain ⟨warned, remembered⟩ := holds
  by_cases clears : call.op = .clear
  · rw [Served.next, clears]
    exact .empty
  · rw [next_kept since call clears]
    constructor
    · rw [messages_concat]
      cases asked : call.op with
      | warnOnce message => exact warned.warn message
      | clear => exact absurd asked clears
      | remember | lookup | warningCount | configCount =>
          change Warned (messages since ++ []) cache.warned
          rwa [List.append_nil]
    · rw [configs_concat]
      cases asked : call.op with
      | remember target workload config => exact remembered.remember target workload config
      | clear => exact absurd asked clears
      | warnOnce message =>
          have kept : (cache.warn message).configs = cache.configs := by
            unfold FallbackCache.warn
            split <;> rfl
          change Remembered (configs since ++ []) (cache.warn message).configs
          rwa [List.append_nil, kept]
      | lookup | warningCount | configCount =>
          change Remembered (configs since ++ []) cache.configs
          rwa [List.append_nil]

end Served

/-! ### All the calls -/

namespace Served

variable {name : String} {since : List (Served σ)}

def ToldOnce (since : List (Served σ)) : Prop :=
  ∀ message, (emissions since).count message = if message ∈ messages since then 1 else 0

/-- Where the cache holds what the calls so far amount to, every call comes to an end, lawfully, and the
cache holds what the calls then amount to. -/
theorem Holds.serves {world : World σ} (holds : Holds since (world.caches name)) (op : CacheOp)
    (t : Thread) : ∃ outcome after, (op.call name).run.exec t world = some (outcome, t, after) ∧
      Lawful name since ⟨op, t, world, outcome, after⟩ ∧
      after.caches name = op.change (world.caches name) := by
  by_cases known : ∀ message, op = .warnOnce message → message ∈ (world.caches name).warned
  · obtain ⟨after, ran, kept, quiet⟩ := CacheOp.exec_answering known t
    refine ⟨_, after, ran, .answers (fun message asks => ?_) ?_ quiet, kept⟩
    · exact (holds.warned.members message).mp (known message asks)
    · rw [holds.answer]
  · -- A warning that is new: the message is in the cache before the log can panic on it.
    push Not at known
    obtain ⟨message, rfl, new⟩ := known
    have fresh : message ∉ messages since := fun given => new ((holds.warned.members message).mpr given)
    rcases emits : (world.setCache name ((world.caches name).warn message)).emit t (.fallback message)
      with ⟨emitted, after⟩
    have ran := CacheOp.exec_warning new t
    simp only [emits] at ran
    refine ⟨_, after, ran, .warns rfl fresh emits rfl, ?_⟩
    · have same := congrArg (fun ended => ended.2.caches name) emits
      rw [World.emit_snd] at same
      exact same.symm.trans (World.setCache_caches ..)

theorem Lawful.emitted {call : Served σ} (lawful : call.Lawful name since) :
    call.emitted? = call.op.message?.filter fun message => message ∉ messages since := by
  unfold emitted?
  cases lawful with
  | @warns message asks new emitted emits ends =>
      rw [asks, ends]
      cases emitted <;> simp [CacheOp.message?, Except.map, Except.mapError, Option.filter_some, new]
  | answers known answered quiet =>
      rw [answered]
      cases asked : call.op with
      | warnOnce message => simp [CacheOp.message?, reply, Option.filter_some, known message asked]
      | remember | lookup | warningCount | configCount | clear => rfl

theorem ToldOnce.next {call : Served σ} (told : ToldOnce since) (lawful : call.Lawful name since) :
    ToldOnce (next since call) := by
  intro message
  have before := told message
  by_cases clears : call.op = .clear
  · rw [Served.next, clears]
    rfl
  · rw [next_kept since call clears, emissions_concat, messages_concat, lawful.emitted]
    cases call.op.message? with
    | none => simpa using before
    | some given =>
        by_cases known : given ∈ messages since
        · -- Nothing is emitted, and the message was there before.
          have same : message ∈ messages since ++ [given] ↔ message ∈ messages since := by
            rw [List.mem_append, List.mem_singleton]
            constructor
            · rintro (there | rfl)
              · exact there
              · exact known
            · exact Or.inl
          simp [Option.filter_some, known, same, before]
        · by_cases here : message = given
          · subst here
            simp [Option.filter_some, known, before]
          · simp [Option.filter_some, known, before, here, Ne.symm here]

end Served

namespace Serves

open Served

variable {name : String} {first last : World σ} {calls after : List (Served σ)}

theorem concat (serves : Serves name first calls last) (op : CacheOp) (t : Thread) {thread : Thread}
    {outcome : Except Exit Answer} {after : World σ}
    (ran : (op.call name).run.exec t last = some (outcome, thread, after)) :
    Serves name first (calls ++ [⟨op, t, last, outcome, after⟩]) after := by
  induction serves with
  | nil => exact .call ⟨op, t, _, outcome, after⟩ ran (.nil after)
  | elsewhere follows others _ ih => exact .elsewhere follows others (ih ran)
  | call call earlier _ ih => exact .call call earlier (ih ran)

theorem spared {history : List (Moment σ)} (follows : Follows first history last)
    (spared : ∀ moment ∈ history, moment.action.touches name = false) :
    last.caches name = first.caches name := by
  let kept (world : World σ) := world.caches name = first.caches name
  have each : ∀ moment ∈ history, kept moment.world → kept moment.after := fun moment member same =>
    (Action.spares_cache (spared moment member) moment.thread moment.world).trans same
  exact follows.keeps each rfl

theorem lawful_of_ran {since : List (Served σ)} {call : Served σ} {thread : Thread}
    (holds : Holds since (call.world.caches name))
    (ran : (call.op.call name).run.exec call.thread call.world = some (call.outcome, thread, call.after)) :
    call.Lawful name since ∧ call.after.caches name = call.op.change (call.world.caches name) := by
  obtain ⟨outcome, after, served, lawful, kept⟩ := holds.serves call.op call.thread
  rw [ran] at served
  cases served
  exact ⟨lawful, kept⟩

/-- What each lawful call keeps, the calls keep, and the cache holds what they amount to. -/
theorem keeps (serves : Serves name first calls last) {kept : List (Served σ) → Prop}
    (step : ∀ {since call}, call.Lawful name since → kept since → kept (Served.next since call))
    {since : List (Served σ)} (start : Holds since (first.caches name)) (begun : kept since) :
    Holds (calls.foldl Served.next since) (last.caches name) ∧ kept (calls.foldl Served.next since) := by
  -- The contents go along with the calls since the last clear, so that each call finds its answer there.
  induction serves generalizing since with
  | nil => exact ⟨start, begun⟩
  | elsewhere follows others _ ih =>
      refine ih ?_ begun
      rwa [spared follows others]
  | call call ran _ ih =>
      obtain ⟨lawful, contents⟩ := lawful_of_ran start ran
      refine ih ?_ (step lawful begun)
      rw [contents]
      exact start.next call

theorem split (serves : Serves name first calls last) {before after : List (Served σ)}
    (parts : calls = before ++ after) :
    ∃ middle, Serves name first before middle ∧ Serves name middle after last := by
  induction serves generalizing before with
  | nil world =>
      obtain ⟨rfl, rfl⟩ := List.append_eq_nil_iff.mp parts.symm
      exact ⟨world, .nil world, .nil world⟩
  | elsewhere follows others _ ih =>
      obtain ⟨middle, earlier, later⟩ := ih parts
      exact ⟨middle, .elsewhere follows others earlier, later⟩
  | call call ran later ih =>
      cases before with
      | nil =>
          cases parts
          exact ⟨call.world, .nil _, .call call ran later⟩
      | cons head before =>
          obtain ⟨rfl, rest⟩ := List.cons.inj parts
          obtain ⟨middle, earlier, later⟩ := ih rest
          exact ⟨middle, .call call ran earlier, later⟩

theorem head_lawful {call : Served σ} (serves : Serves name first calls last)
    (parts : calls = call :: after) {since : List (Served σ)} (start : Holds since (first.caches name)) :
    call.Lawful name since := by
  induction serves with
  | nil => cases parts
  | elsewhere follows others _ ih =>
      apply ih parts
      rwa [spared follows others]
  | call call ran _ _ =>
      cases parts
      exact (lawful_of_ran start ran).1

theorem told (serves : Serves name first calls last) (fresh : first.caches name = {}) :
    Holds (sinceClear calls) (last.caches name) ∧ ToldOnce (sinceClear calls) := by
  have start : Holds ([] : List (Served σ)) (first.caches name) := by
    rw [fresh]
    exact .empty
  exact serves.keeps (fun lawful told => told.next lawful) start fun _ => rfl

end Serves

/-- What the cache has done by the end of the calls, and what it does from then on. -/
structure WarnOnceLaw (name : String) (calls : List (Served σ)) (last : World σ) : Prop where
  lawful : ∀ before call after, calls = before ++ call :: after →
    call.Lawful name (Served.sinceClear before)
  toldOnce : ∀ before after, calls = before ++ after → Served.ToldOnce (Served.sinceClear before)
  warned : Warned (Served.messages (Served.sinceClear calls)) (last.caches name).warned
  remembered : Remembered (Served.configs (Served.sinceClear calls)) (last.caches name).configs
  /-- Also after panics under its lock, the cache serves every thread. -/
  serves : ∀ op t, ∃ outcome after, (op.call name).run.exec t last = some (outcome, t, after) ∧
    Served.Lawful name (Served.sinceClear calls) ⟨op, t, last, outcome, after⟩

/-- From a new cache on, whatever calls are made on it by whatever threads, also where its log panics
under the lock. -/
theorem Serves.warn_once_law {name : String} {first last : World σ} {calls : List (Served σ)}
    (serves : Serves name first calls last) (fresh : first.caches name = {}) :
    WarnOnceLaw name calls last := by
  obtain ⟨held, -⟩ := serves.told fresh
  constructor
  · intro before call after parts
    obtain ⟨middle, earlier, later⟩ := serves.split parts
    exact later.head_lawful rfl (earlier.told fresh).1
  · intro before after parts
    obtain ⟨middle, earlier, -⟩ := serves.split parts
    exact (earlier.told fresh).2
  · exact held.warned
  · exact held.remembered
  · intro op t
    obtain ⟨outcome, after, ran, lawful, -⟩ := held.serves op t
    exact ⟨outcome, after, ran, lawful⟩

/-- The log panics on the first warning, which is not given again before the cache is cleared. -/
theorem Serves.warn_once_law_panicking :
    let world : World Scenario.Bench := { World.initial {} with
      sink := fun log _ => if log.isEmpty then some ⟨some "full"⟩ else none }
    let other : Thread := { name := some "other" }
    ∃ calls last, Serves "cache" world calls last ∧ WarnOnceLaw "cache" calls last ∧
      calls.map (fun call => (call.op, call.thread)) =
        [(.warnOnce "dense", {}), (.warnOnce "dense", other), (.remember "llvm" "dense" "8", {}),
          (.remember "llvm" "dense" "16", other), (.lookup "llvm" "dense", {}), (.configCount, other),
          (.clear, {}), (.warnOnce "dense", other)] ∧
      calls.map Served.outcome =
        [.error (.panic ⟨some "full"⟩), .ok (.bool false), .ok .null, .ok .null,
          .ok (.config (some "16")), .ok (.count 1), .ok .null, .ok (.bool true)] ∧
      last.log = [.fallback "dense", .fallback "dense"] := by
  intro world other
  have serves := (@Serves.nil _ "cache" world)
    |>.concat (.warnOnce "dense") {} rfl
    |>.concat (.warnOnce "dense") other rfl
    |>.concat (.remember "llvm" "dense" "8") {} rfl
    |>.concat (.remember "llvm" "dense" "16") other rfl
    |>.concat (.lookup "llvm" "dense") {} rfl
    |>.concat .configCount other rfl
    |>.concat .clear {} rfl
    |>.concat (.warnOnce "dense") other rfl
  exact ⟨_, _, serves, serves.warn_once_law rfl, rfl, rfl, rfl⟩

end TuningTasks
