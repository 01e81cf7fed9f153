import Mathlib.Data.List.Chain
import TuningTasks.Proofs.Faults

/-!
What is left in a fallback cache that only the passes of a batch use. Each pass but the first finds it
empty, and it is empty in the end however the batch ends, but for one way: where the clear right after a
pass panics, what that pass has left there stays.
-/
namespace TuningTasks

universe u v
variable {σ α β : Type} {Program : Type u} {Params : Type v}

/-! ### What leaves a cache alone -/

def Action.caching : Action σ β → Bool
  | .warnOnce .. | .updateCache .. => true
  | _ => false

theorem Action.leaves_cache {action : Action σ β} (other : action.caching = false) (name : String) :
    action.Leaves fun world => world.caches name := by
  intro t world
  cases action with
  | warnOnce | updateCache => cases other
  | emit event =>
      simp only [perform, World.emit_snd]
      rfl
  | consult hook invocation =>
      obtain ⟨_, _, _, same⟩ := world.consult_frame t hook invocation
      simp only [perform, same]
  | install hook =>
      obtain ⟨_, _, same⟩ := world.install_frame t hook
      simp only [perform, same]
  | uninstall =>
      obtain ⟨_, _, same⟩ := world.uninstall_frame t
      simp only [perform, same]
  | resetLedger ledger filter =>
      obtain ⟨_, same⟩ := world.resetLedger_frame ledger filter
      simp only [perform, same]
  | record ledger invocation =>
      obtain ⟨_, _, same⟩ := world.record_frame t ledger invocation
      simp only [perform, same]
  | thread | mute | unmute | installedHook | isTracing | readLedger | lockSession | unlockSession
  | spawn | client => rfl

theorem passive_cache (name : String) : Passive fun world : World σ => world.caches name where
  emit _ := Action.leaves_cache rfl name
  mute := Action.leaves_cache rfl name
  unmute _ := Action.leaves_cache rfl name
  spawn _ := Action.leaves_cache rfl name

namespace Extraction

open Draft

variable (extractor : Extractor σ Program Params) (name : String)

theorem leaves_materialize (settings : Settings) (target : Target) (found : List Invocation) :
    (materialize settings target found : Extraction σ Program Params Materialized).Leaves
      extractor.reply fun world => world.caches name := by
  have telling : ∀ event,
      (Routine.emit event : Routine σ Unit).Leaves fun world => world.caches name := fun _ =>
    Routine.leaves_panicking (Code.leaves_perform (Action.leaves_cache rfl name))
  induction found with
  | nil => exact leaves_pure _
  | cons invocation rest ih =>
      rw [materialize]
      apply (leaves_ask _).catchFailure.bind
      intro built
      cases built with
      | ok task => exact ih.bind fun _ => leaves_pure _
      | error failure =>
          simp only
          split
          · exact (leaves_own (telling _)).bind fun _ => ih.bind fun _ => leaves_pure _
          · exact leaves_own (Routine.leaves_fail _)

theorem leaves_traced (forgets : Bool) (settings : Settings) (pair : TargetPair)
    (work : List (Program × Params)) (filter : Option Filter) :
    (traced extractor.ledger settings forgets pair work filter :
      Extraction σ Program Params (List Invocation)).Leaves extractor.reply
        fun world => world.caches name := by
  have other : ∀ {β : Type} {action : Action σ β}, action.caching = false →
      action.Leaves fun world => world.caches name := fun other => Action.leaves_cache other name
  have passes := leaves_quietly extractor (passive_cache name) settings.suppressLogs
    (leaves_passes extractor (passive_cache name) forgets settings pair 0 work)
  have reading : (do return (← Routine.failing (.readLedger extractor.ledger)).ordered :
      Routine σ (List Invocation)).Leaves fun world => world.caches name :=
    (Routine.leaves_failing (other rfl)).bind fun _ => Routine.leaves_pure _
  apply leaves_around (Routine.leaves_perform (other rfl)) fun _ => Routine.leaves_perform (other rfl)
  apply (leaves_own (Routine.leaves_failing (other rfl))).bind
  intro _
  apply (leaves_around (Routine.leaves_attempt (other rfl))
    (fun _ => Routine.leaves_panicking (Code.leaves_perform (other rfl))) passes).bind
  exact fun _ => leaves_own reading

theorem leaves_report (forgets : Bool) (settings : Settings) (programs : List Program)
    (params : List Params) (filter : Option Filter) (target : Target) (host : Option Target) :
    (report extractor.ledger settings forgets programs params filter target host :
      Extraction σ Program Params Report).Leaves extractor.reply fun world => world.caches name := by
  rw [report]
  split
  · exact leaves_own (Routine.leaves_fail _)
  · apply (leaves_own (Routine.leaves_perform (Action.leaves_cache rfl name))).bind
    intro thread
    split
    · exact leaves_own (Routine.leaves_fail _)
    · apply (leaves_ask _).bind
      intro pair
      apply (leaves_traced extractor name forgets settings pair _ filter).bind
      intro found
      apply (leaves_materialize extractor name settings pair.target found).bind
      intro made
      apply (leaves_own (Routine.leaves_panicking
        (Code.leaves_perform (Action.leaves_cache rfl name)))).bind
      exact fun _ => leaves_pure _

end Extraction

/-! ### A cache that only the passes use -/

/-- Comes back without a panic, and the cache is empty then. -/
def Code.Empties (name : String) (code : Code σ (Except Panic Unit)) : Prop :=
  ∀ t world, ∃ thread last, code.exec t world = some (.ok (), thread, last) ∧ last.caches name = {}

def forget (name : String) : Code σ (Except Panic Unit) := do
  let _ ← Code.perform (.updateCache name fun _ => {})
  return .ok ()

theorem forget_empties (name : String) : (forget name : Code σ _).Empties name := by
  intro t world
  exact ⟨t, world.setCache name {}, rfl, if_pos rfl⟩

/-- The cache is the fallback state of the pipeline, and on the driving thread nothing else of the
batch touches it. -/
structure Extractor.ForPasses (extractor : Extractor σ Program Params) (name : String) : Prop where
  clears : ∃ clear, extractor.pipeline.clearFallback = some clear ∧ clear.Empties name
  driving : ∀ t world ended, t.inPass = false →
    extractor.pipeline.clearFunctions.exec t world = some ended →
      ended.2.2.caches name = world.caches name
  resolver : ∀ target host, (extractor.resolver target host).Leaves fun world => world.caches name
  factory : ∀ request, (extractor.factory request).Leaves fun world => world.caches name

/-! ### What the calls of a batch leave in it -/

/-- What is called on the driving thread leaves the cache as it is or empties it. -/
structure Keeping (name : String) (calls : List (Asking σ (@Request.Reply Program Params))) : Prop where
  clears : ∀ call ∈ calls, call.request = .clearFunctions → call.thread.inPass = false →
    ∀ after, call.after = some after → after.caches name = call.world.caches name
  forgets : ∀ call ∈ calls, call.request = .clearFallback →
    call.outcome = some (.ok ()) ∧ ∃ after, call.after = some after ∧ after.caches name = {}

/-- Where a pass starts right after a call on the driving thread, the cache is empty. -/
def FindsEmpty (name : String) (first second : Asking σ (@Request.Reply Program Params)) : Prop :=
  first.thread.inPass = false → second.thread.inPass = true → second.world.caches name = {}

/-- The last call is a clear on the driving thread that panics right after a pass, which has left the
cache so. -/
inductive CutShort (name : String) (calls : List (Asking σ (@Request.Reply Program Params)))
    (kept : FallbackCache) : Prop
  | intro {before : List (Asking σ (@Request.Reply Program Params))}
      {pass clear : Asking σ (@Request.Reply Program Params)} {panic : Panic} {left : World σ}
      (parts : calls = before ++ [pass, clear]) (passing : pass.thread.inPass = true)
      (driving : clear.thread.inPass = false) (clears : clear.request = .clearFunctions)
      (panicked : clear.outcome = some (.error (.panic panic))) (leaves : pass.after = some left)
      (same : left.caches name = kept)

section Calls

variable {settings : Settings} {caller : Thread} {pair : TargetPair} {index : Nat} {name : String}
  {program : Program} {params : Params} {found kept : FallbackCache} {last : Option FallbackCache}
  {calls part left right : List (Asking σ (@Request.Reply Program Params))}

theorem Keeping.within (keeping : Keeping name calls) (inside : ∀ call ∈ part, call ∈ calls) :
    Keeping name part where
  clears call member := keeping.clears call (inside call member)
  forgets call member := keeping.forgets call (inside call member)

theorem Keeping.over {clear : Asking σ (@Request.Reply Program Params)}
    (keeping : Keeping name (clear :: right)) (clears : clear.request = .clearFunctions)
    (driving : clear.thread.inPass = false)
    (linked : Linked (fun world => world.caches name) found (clear :: right) (some kept)) :
    Linked (fun world => world.caches name) found right (some kept) := by
  obtain ⟨after, answered⟩ :=
    Option.ne_none_iff_exists'.mp (linked.answers clear List.mem_cons_self)
  have same := keeping.clears clear List.mem_cons_self clears driving after answered
  have later := linked.next answered
  rwa [same, linked.finds] at later

theorem CutShort.after (cut : CutShort name calls kept) : CutShort name (left ++ calls) kept := by
  obtain ⟨rfl, passing, driving, clears, panicked, leaves, same⟩ := cut
  exact .intro (List.append_assoc left _ _).symm passing driving clears panicked leaves same

theorem CutShort.keeps (cut : CutShort name calls found) (keeping : Keeping name calls)
    {start : FallbackCache}
    (linked : Linked (fun world => world.caches name) start calls (some kept)) : kept = found := by
  obtain ⟨rfl, -, driving, clears, -, leaves, same⟩ := cut
  have closing := (keeping.within fun call member => List.mem_append_right _
    (List.mem_cons_of_mem _ member)).over clears driving (linked.drop.next leaves)
  rw [same] at closing
  cases closing
  rfl

theorem FindsEmpty.driving (driving : ∀ call ∈ calls, call.thread.inPass = false) :
    calls.IsChain (FindsEmpty name) := by
  apply (List.pairwise_of_forall_mem_list _).isChain
  intro first _ second member _ passing
  rw [driving second member] at passing
  cases passing

theorem FindsEmpty.passing (passing : ∀ call ∈ calls, call.thread.inPass = true) :
    calls.IsChain (FindsEmpty name) := by
  apply (List.pairwise_of_forall_mem_list _).isChain
  intro first member second _ driving
  rw [passing first member] at driving
  cases driving

variable (outside : caller.inPass = false)

include outside in
theorem InOrder.driving {requests : List (Request Program Params)}
    {ended : Option (Except Panic Unit)} (order : InOrder caller requests calls ended) :
    ∀ call ∈ calls, call.thread.inPass = false := by
  intro call member
  obtain ⟨request, known, asks⟩ := order.from call member
  exact asks.thread.inPass.trans outside

theorem InOrder.empties (order : InOrder caller (resetRequests true) part (some (.ok ())))
    (keeping : Keeping name (left ++ (part ++ right)))
    (linked : Linked (fun world => world.caches name) found (left ++ (part ++ right)) last) :
    Linked (fun world => world.caches name) {} right last := by
  change InOrder caller [.clearFunctions, .clearFallback] part _ at order
  generalize passed : (some (.ok ()) : Option (Except Panic Unit)) = ended at order
  cases order with
  | @halts _ _ _ stop => cases stop <;> cases passed
  | answered _ _ later =>
      cases later with
      | @halts _ _ _ stop => cases stop <;> cases passed
      | @answered _ _ forgets _ _ asks _ later =>
          cases later
          obtain ⟨-, after, answered, empty⟩ := keeping.forgets forgets (by simp) asks.request
          rw [List.cons_append, List.cons_append, List.nil_append, List.append_cons] at linked
          have forgotten := linked.drop.next answered
          rwa [empty] at forgotten

theorem InOrder.cut {stop : Option Panic} (keeping : Keeping name part)
    (order : InOrder caller (resetRequests true) part (stop.map .error)) :
    ∃ clear, part = [clear] ∧ clear.From caller .clearFunctions ∧ clear.Halts stop := by
  change InOrder caller [.clearFunctions, .clearFallback] part _ at order
  generalize halted : (stop.map .error : Option (Except Panic Unit)) = ended at order
  cases order with
  | @halts _ _ clear found asks halts =>
      obtain rfl : stop = found := by
        cases stop <;> cases found <;> cases halted <;> rfl
      exact ⟨clear, rfl, asks, halts⟩
  | answered _ _ later =>
      cases later with
      | @halts _ _ forgets found asks halts =>
          obtain ⟨done, -⟩ := keeping.forgets forgets (by simp) asks.request
          rw [halts.outcome] at done
          cases found <;> cases done
      | answered _ _ later =>
          cases later
          cases stop <;> cases halted

theorem Turns.opens {forgets : Bool} {work : List (Program × Params)}
    {ended : Option (Except Exit Unit)}
    (turns : Turns settings forgets caller pair index work calls ended) :
    ∀ first ∈ calls.head?, first.thread.Same caller := by
  cases turns with
  | done => exact fun _ none => nomatch none
  | opening opens =>
      intro first head
      cases head
      exact opens.thread
  | stuck begun | halted begun | failed begun | next begun =>
      obtain ⟨opens, -, -, -⟩ := begun
      intro first head
      cases head
      exact opens.thread

include outside

/-- A pass that is not the first starts with the cache empty, and the first one too if it is empty
before. -/
theorem Begun.chain {ended : Option (Except Fault Unit)}
    (begun : Begun settings caller pair index program params part ended)
    (keeping : Keeping name (part ++ right))
    (linked : Linked (fun world => world.caches name) found (part ++ right) last)
    (driving : ∀ next ∈ right.head?, next.thread.inPass = false)
    (later : right.IsChain (FindsEmpty name)) :
    (part ++ right).tail.IsChain (FindsEmpty name) ∧
      (found = {} → (part ++ right).IsChain (FindsEmpty name)) := by
  obtain @⟨opening, world, inside, ended, opens, -, opened, isolated⟩ := begun
  have tail : (inside ++ right).IsChain (FindsEmpty name) := by
    refine List.isChain_append.mpr ⟨FindsEmpty.passing isolated.inPass, later, ?_⟩
    intro _ _ next head _ passing
    rw [driving next head] at passing
    cases passing
  refine ⟨tail, fun empty => List.isChain_cons.mpr ⟨?_, tail⟩⟩
  intro first head _ _
  obtain ⟨rest, parts⟩ := List.head?_eq_some_iff.mp head
  have same := keeping.clears opening List.mem_cons_self opens.request
    (opens.thread.inPass.trans outside) world opened
  have later := linked.next opened
  rw [parts] at later
  exact later.finds.trans (same.trans (linked.finds.trans empty))

theorem Turns.chain {work : List (Program × Params)} {ended : Option (Except Exit Unit)}
    (turns : Turns settings true caller pair index work calls ended) (keeping : Keeping name calls)
    (linked : Linked (fun world => world.caches name) found calls last) :
    calls.tail.IsChain (FindsEmpty name) ∧ (found = {} → calls.IsChain (FindsEmpty name)) := by
  -- A reset leaves the cache empty, so that the later turns are in the second case.
  induction turns generalizing found with
  | done => exact ⟨.nil, fun _ => .nil⟩
  | opening => exact ⟨.nil, fun _ => .singleton _⟩
  | @stuck _ _ _ _ calls begun =>
      rw [← List.append_nil calls] at keeping linked ⊢
      exact begun.chain outside keeping linked (fun _ none => nomatch none) .nil
  | halted begun order | failed begun order =>
      have driving := order.driving outside
      exact begun.chain outside keeping linked (fun next head => driving next (List.mem_of_head? head))
        (FindsEmpty.driving driving)
  | @next _ _ _ _ calls resets later _ begun order turns ih =>
      have driving := order.driving outside
      have after := order.empties keeping linked
      have rest := (ih (keeping.within fun call member => by simp [member]) after).2 rfl
      have first : ∀ next ∈ later.head?, next.thread.inPass = false := fun next head =>
        (turns.opens next head).inPass.trans outside
      refine begun.chain outside keeping linked ?_ (List.isChain_append.mpr
        ⟨FindsEmpty.driving driving, rest, ?_⟩)
      · intro next head
        rw [List.head?_append, Option.mem_def, Option.or_eq_some_iff] at head
        rcases head with head | ⟨-, head⟩
        · exact driving next (List.mem_of_head? head)
        · exact first next head
      · intro _ _ next head _ passing
        rw [first next head] at passing
        cases passing

theorem Turns.emptied {work : List (Program × Params)} {ended : Option (Except Exit Unit)}
    (turns : Turns settings true caller pair index work calls ended) (keeping : Keeping name calls)
    (linked : Linked (fun world => world.caches name) found calls (some kept))
    (whole : ∀ kept, ¬ CutShort name calls kept)
    (passing : found = {} ∨ ∃ call ∈ calls, call.thread.inPass = true) : kept = {} := by
  -- Only a turn that halts can end without a whole reset, and it is cut short if its pass has started.
  induction turns generalizing found with
  | done =>
      cases linked
      exact passing.resolve_right (by simp)
  | opening opens _ =>
      have driving := opens.thread.inPass.trans outside
      cases keeping.over opens.request driving linked
      exact passing.resolve_right (by simp [driving])
  | stuck begun =>
      obtain ⟨call, member, never⟩ := begun.unanswered
      exact absurd never (linked.complete call member)
  | @halted _ _ _ _ calls resets _ stop begun order =>
      obtain ⟨clear, rfl, asks, halts⟩ := InOrder.cut
        (keeping.within fun _ member => List.mem_append_right _ member) order
      have driving := asks.thread.inPass.trans outside
      obtain @⟨opening, _, inside, _, opens, -, -, isolated⟩ := begun
      have begins := opens.thread.inPass.trans outside
      rcases List.eq_nil_or_concat inside with rfl | ⟨before, pass, rfl⟩
      · have opened := keeping.over opens.request begins linked
        cases (keeping.within fun _ => List.mem_cons_of_mem _).over asks.request driving opened
        exact passing.resolve_right (by simp [begins, driving])
      · cases stop with
        | none => exact absurd halts.outcome (linked.complete clear (by simp))
        | some panic =>
            obtain ⟨left, leaves⟩ := Option.ne_none_iff_exists'.mp (linked.answers pass (by simp))
            have parts : opening :: before.concat pass ++ [clear] =
                (opening :: before) ++ [pass, clear] := by simp
            exact absurd (.intro parts (isolated.inPass pass (by simp)) driving asks.request
              halts.outcome leaves rfl) (whole _)
  | @failed _ _ _ _ calls resets _ begun order =>
      rw [← List.append_nil resets] at keeping linked
      cases order.empties keeping linked
      rfl
  | @next _ _ _ _ calls resets later _ begun order turns ih =>
      have inside : ∀ call ∈ later, call ∈ calls ++ (resets ++ later) := fun _ member =>
        List.mem_append_right _ (List.mem_append_right _ member)
      refine ih (keeping.within inside) (order.empties keeping linked) (fun kept cut => ?_) (Or.inl rfl)
      rw [← List.append_assoc] at whole
      exact whole kept cut.after

end Calls

/-! ### What a batch leaves in it -/

structure World.Forgotten (world : World σ) (name : String) : Prop where
  empty : world.caches name = {}
  warns : ∀ t message, world.warnOnce t name message =
    let (emitted, after) := (world.setCache name { warned := [message] }).emit t (.fallback message)
    (emitted.map fun _ => true, after)

theorem World.forgotten {world : World σ} {name : String} (empty : world.caches name = {}) :
    world.Forgotten name := by
  refine ⟨empty, fun t message => ?_⟩
  rw [warnOnce, empty]
  rfl

namespace Batch

variable {batch : Batch.{u} σ} {name : String}

theorem keeping (owned : batch.extractor.ForPasses name) (t : Thread) (world : World σ) :
    Keeping name (batch.calls t world) := by
  have ran : ∀ call ∈ batch.calls t world,
      call.ended = (batch.extractor.reply call.request).run.exec call.thread call.world :=
    fun call member => Outline.askings_ended _ _ _ _ call (List.mem_of_mem_filter member)
  constructor
  · intro call member clears driving after answered
    rw [Asking.after, ran call member, clears, Extractor.reply, Routine.exec_panicking, Option.map_map,
      Option.map_eq_some_iff] at answered
    obtain ⟨ended, cleared, rfl⟩ := answered
    exact owned.driving _ _ ended driving cleared
  · intro call member forgets
    obtain ⟨clear, fallback, empties⟩ := owned.clears
    obtain ⟨thread, last, cleared, empty⟩ := empties call.thread call.world
    have reply : batch.extractor.reply .clearFallback = Routine.panicking clear := by
      simp only [Extractor.reply, Pipeline.forgetting, fallback]
    rw [Asking.outcome, Asking.after, ran call member, forgets, reply, Routine.exec_panicking, cleared]
    exact ⟨rfl, last, rfl, empty⟩

theorem linked_calls (owned : batch.extractor.ForPasses name) (t : Thread) (world : World σ) :
    Linked (fun world => world.caches name) (world.caches name) (batch.calls t world)
      ((batch.report.run.exec t world).map fun ended => ended.2.2.caches name) := by
  have linked := Extraction.leaves_report batch.extractor name
    batch.extractor.pipeline.clearFallback.isSome batch.extractor.settings batch.programs batch.params
    batch.filter batch.target batch.host t world
  change Linked _ _ (batch.askings t world)
    (((batch.draft.routine batch.extractor.reply).run.exec t world).map _) at linked
  rw [routine_draft] at linked
  apply linked.filter
  intro asking member other after answered
  have leaves : (batch.extractor.reply asking.request).Leaves fun world => world.caches name := by
    cases asked : asking.request with
    | resolve target host => exact owned.resolver target host
    | construct request => exact owned.factory request
    | clearFunctions | lower | clearFallback => simp [asked, Request.toPipeline] at other
  rw [Asking.after, Outline.askings_ended _ _ _ _ _ member, Option.map_eq_some_iff] at answered
  obtain ⟨ended, ran, rfl⟩ := answered
  exact leaves _ _ ended ran

/-- Each pass but the first finds the cache empty. In the end it holds what the last pass has left if
the calls were cut short, and otherwise nothing once a pass has started. -/
theorem fallback_forgotten (owned : batch.extractor.ForPasses name) (t : Thread) (world : World σ) :
    (batch.calls t world).tail.IsChain (FindsEmpty name) ∧
      ∀ outcome thread last, batch.report.run.exec t world = some (outcome, thread, last) →
        (∀ kept, CutShort name (batch.calls t world) kept → last.caches name = kept) ∧
        ((∃ call ∈ batch.calls t world, call.thread.inPass = true) →
          (∀ kept, ¬ CutShort name (batch.calls t world) kept) → last.Forgotten name) := by
  have keeping := keeping owned t world
  have linked := linked_calls owned t world
  by_cases traced : ∃ pair caller resolved, batch.Traces t world pair caller resolved
  · obtain ⟨pair, caller, resolved, traces⟩ := traced
    have turns := traces.turns
    have forgets : batch.extractor.pipeline.clearFallback.isSome = true := by
      obtain ⟨clear, fallback, -⟩ := owned.clears
      rw [fallback]
      rfl
    rw [forgets] at turns
    refine ⟨(turns.chain traces.outside keeping linked).1, fun outcome thread last ended => ?_⟩
    rw [ended, Option.map_some] at linked
    exact ⟨fun kept cut => cut.keeps keeping linked, fun passing whole =>
      World.forgotten (turns.emptied traces.outside keeping linked whole (Or.inr passing))⟩
  · have untraced : batch.calls t world = [] :=
      calls_untraced fun pair caller resolved traces => traced ⟨pair, caller, resolved, traces⟩
    rw [untraced]
    refine ⟨.nil, fun _ _ _ _ => ⟨fun kept cut => ?_, fun passing => ?_⟩⟩
    · obtain ⟨parts, -⟩ := cut
      simp at parts
    · simp at passing

/-- The only program of the batch warns, and the clear of that number panics, counted from one. -/
def warning (crash : Nat) : Batch.{0} Nat where
  Program := Unit
  Params := Unit
  extractor :=
    { pipeline :=
        { lower := fun _ _ _ _ => do
            let _ ← Routine.panicking (.perform (.warnOnce "fallback" "w"))
          clearFunctions := do
            let cleared ← Code.perform (.client (· + 1))
            return if cleared + 1 = crash then .error ⟨some "cache clear crashed"⟩ else .ok ()
          clearFallback := some (forget "fallback") } }
  programs := [()]
  params := [()]
  filter := none
  target := default
  host := none

theorem warning_forPasses (crash : Nat) : (warning crash).extractor.ForPasses "fallback" where
  clears := ⟨_, rfl, forget_empties "fallback"⟩
  driving t world ended _ cleared := by
    cases cleared
    rfl
  resolver _ _ := Code.leaves_ret _
  factory request := Routine.leaves_pure _

theorem fallback_forgotten_warning :
    let batch := warning 0
    ∃ last, (batch.report.run.exec {} (.initial 0)).map (fun ended => ended.2.2) = some last ∧
      last.Forgotten "fallback" := by
  intro batch
  have seen : (batch.calls {} (.initial 0)).map (fun call => (call.thread.inPass, call.outcome)) =
      [(false, some (.ok ())), (true, some (.ok ())), (true, some (.ok ())), (true, some (.ok ())),
        (false, some (.ok ())), (false, some (.ok ()))] := by decide +kernel
  have passing : (true, some (.ok ())) ∈
      (batch.calls {} (.initial 0)).map fun call => (call.thread.inPass, call.outcome) := by
    rw [seen]
    simp
  obtain ⟨call, member, started⟩ := List.mem_map.mp passing
  have returns : (batch.report.run.exec {} (.initial 0)).isSome = true := by decide +kernel
  obtain ⟨⟨outcome, thread, last⟩, ended⟩ := Option.isSome_iff_exists.mp returns
  refine ⟨last, by rw [ended]; rfl, ?_⟩
  apply ((fallback_forgotten (warning_forPasses 0) {} (.initial 0)).2 outcome thread last ended).2
  · exact ⟨call, member, congrArg Prod.fst started⟩
  · intro kept cut
    obtain @⟨_, _, clear, _, _, parts, -, -, -, panicked, -, -⟩ := cut
    have listed := List.mem_map_of_mem (f := fun call => (call.thread.inPass, call.outcome))
      (show clear ∈ batch.calls {} (.initial 0) by rw [parts]; simp)
    rw [seen] at listed
    simp [panicked] at listed

/-- A clear that panics right after a pass leaves what the pass has warned of, and it is not warned of
again. -/
theorem fallback_kept :
    let batch := warning 4
    batch.extractor.ForPasses "fallback" ∧
      (∃ call ∈ batch.calls {} (.initial 0), call.thread.inPass = true) ∧
      ∃ thread last, batch.report.run.exec {} (.initial 0) =
          some (.error (.panic ⟨some "cache clear crashed"⟩), thread, last) ∧
        last.caches "fallback" = { warned := ["w"] } ∧
        (last.warnOnce thread "fallback" "w").1 = .ok false := by
  intro batch
  have inside : (batch.calls {} (.initial 0)).any (fun call => call.thread.inPass) = true := by
    decide +kernel
  have left : (batch.report.run.exec {} (.initial 0)).map (fun ended =>
      (ended.1.map fun _ => (), ended.2.2.caches "fallback",
        (ended.2.2.warnOnce ended.2.1 "fallback" "w").1)) =
      some (.error (.panic ⟨some "cache clear crashed"⟩), { warned := ["w"] }, .ok false) := by
    decide +kernel
  obtain ⟨⟨outcome, thread, last⟩, ended, same⟩ := Option.map_eq_some_iff.mp left
  simp only [Prod.mk.injEq] at same
  obtain ⟨failed, kept, again⟩ := same
  cases outcome with
  | ok report => cases failed
  | error exit =>
      cases failed
      exact ⟨warning_forPasses 4, List.any_eq_true.mp inside, thread, last, ended, kept, again⟩

end Batch

end TuningTasks
