import TuningTasks.Proofs.Linked
import TuningTasks.Proofs.Orderly
import TuningTasks.Proofs.Ownership

/-!
What a pipeline sees of a batch. Its calls keep to the order of the turns and are made on the driving
thread or on the thread of a pass; each lowering finds the scope of the batch in place, unless the
pipeline has dropped a scope that it never made.
-/
namespace TuningTasks

universe u v
variable {σ α β : Type} {Program : Type u} {Params : Type v} {waits : Bool}

/-! ### Code that drops only its own scopes -/

/-- Code that drops no scope before it has made one. What it does with a scope of its own is left open. -/
inductive Code.Scoped {σ : Type} : {α : Type} → Code σ α → Prop
  | ret {α : Type} (value : α) : Scoped (.ret value)
  | act {α β : Type} {action : Action σ β} {next : β → Code σ α} (other : action.scoping = false)
      (rest : ∀ answer, Scoped (next answer)) : Scoped (.act action next)
  | install {α : Type} (hook : Hook σ) {next : Except Exit Unit → Code σ α}
      (refused : ∀ exit, Scoped (next (.error exit))) : Scoped (.act (.install hook) next)
  | fork {α β : Type} (thread : Thread) {body : Code σ β} {next : β → Code σ α}
      (inside : Scoped body) (rest : ∀ answer, Scoped (next answer)) : Scoped (.fork thread body next)

namespace Code.Scoped

theorem hook {code : Code σ α} (own : code.Scoped) {active : Hook σ} {t thread : Thread}
    {world last : World σ} {answer : α} (busy : world.hook = { value := some active })
    (ended : code.exec t world = some (answer, thread, last)) :
    last.hook = { value := some active } := by
  induction own generalizing t world thread last with
  | ret value =>
      cases ended
      exact busy
  | act other _ ih =>
      simp only [exec] at ended
      split at ended
      · exact ih _ ((Action.perform_hook other t world).trans busy) ended
      · cases ended
  | install hook _ ih =>
      have refused := World.install_active busy t hook
      simp only [exec, Action.ready, ↓reduceIte, Action.perform, refused] at ended
      exact ih _ busy ended
  | fork thread' inside _ inner ih =>
      simp only [exec] at ended
      split at ended
      · rename_i value final after joined
        exact ih value (inner busy joined) ended
      · cases ended

theorem bind {code : Code σ α} {f : α → Code σ β} (own : code.Scoped)
    (rest : ∀ value, (f value).Scoped) : (code.bind f).Scoped := by
  induction own with
  | ret value => exact rest value
  | act other _ ih => exact .act other fun answer => ih answer rest
  | install hook _ ih => exact .install hook fun exit => ih exit rest
  | fork thread inside _ _ ih => exact .fork thread inside fun answer => ih answer rest

end Code.Scoped

theorem Code.Owns.scoped {code : Code σ α} {held left : Nat} (owns : code.Owns held left)
    (none : held = 0) : code.Scoped := by
  induction owns with
  | ret value => exact .ret value
  | act other _ ih => exact .act other fun answer => ih answer none
  | install hook _ _ _ refused => exact .install hook fun exit => refused exit none
  | uninstall _ _ => cases none
  | fork thread _ _ inner ih => exact .fork thread (inner rfl) fun answer => ih answer none

theorem Code.Tidy.scopes {code : Code σ α} (tidy : code.Tidy waits) : code.Scoped := tidy.owns.scoped rfl

structure Pipeline.Scoped (pipeline : Pipeline σ Program Params) : Prop where
  lower : ∀ program pair params config, (pipeline.lower program pair params config).run.Scoped
  clearFunctions : pipeline.clearFunctions.Scoped
  clearFallback : ∀ clear, pipeline.clearFallback = some clear → clear.Scoped

theorem Pipeline.Tidy.scopes {pipeline : Pipeline σ Program Params} (tidy : pipeline.Tidy waits) :
    pipeline.Scoped where
  lower program pair params config := (tidy.lower program pair params config).scopes
  clearFunctions := tidy.clearFunctions.scopes
  clearFallback clear fallback := (tidy.clearFallback clear fallback).scopes

/-! ### Where the calls are made -/

/-- A call of the driving thread, or one of a pass on its thread. -/
inductive Asking.Placed (settings : Settings) (caller : Thread) (pair : TargetPair)
    (asking : Asking σ (@Request.Reply Program Params)) : Prop
  | driving (thread : asking.thread.Same caller)
      (request : asking.request = .clearFunctions ∨ asking.request = .clearFallback)
  | passing (index : Nat) (thread : asking.thread.Same (settings.threadFor caller index))
      (request : asking.request = .clearFunctions ∨ ∃ program params,
        asking.request = .lower program pair params (.ofTarget pair.target))

theorem InOrder.from {thread : Thread} {requests : List (Request Program Params)}
    {calls : List (Asking σ (@Request.Reply Program Params))} {ended : Option (Except Panic Unit)}
    (order : InOrder thread requests calls ended) :
    ∀ asking ∈ calls, ∃ request ∈ requests, asking.From thread request := by
  induction order with
  | nil => exact fun _ none => nomatch none
  | @halts request _ _ _ asks _ =>
      intro asking member
      rw [List.mem_singleton.mp member]
      exact ⟨request, List.mem_cons_self, asks⟩
  | @answered request _ _ _ _ asks _ _ ih =>
      intro asking member
      rcases List.mem_cons.mp member with rfl | member
      · exact ⟨request, List.mem_cons_self, asks⟩
      · obtain ⟨request, known, asks⟩ := ih asking member
        exact ⟨request, List.mem_cons_of_mem _ known, asks⟩

section Placed

variable {settings : Settings} {forgets : Bool} {caller thread : Thread} {pair : TargetPair}
  {index : Nat} {program : Program} {params : Params}
  {calls : List (Asking σ (@Request.Reply Program Params))}

theorem PassCalls.from {ended : Option (Except Exit Unit)}
    (pass : PassCalls pair thread program params calls ended) :
    ∀ asking ∈ calls, asking.From thread .clearFunctions ∨
      asking.From thread (.lower program pair params (.ofTarget pair.target)) := by
  have clearing : ∀ {calls : List (Asking σ (@Request.Reply Program Params))} {ended},
      InOrder thread [.clearFunctions] calls ended → ∀ asking ∈ calls,
        asking.From thread .clearFunctions := by
    intro calls ended order asking member
    obtain ⟨request, known, asks⟩ := order.from asking member
    rwa [List.mem_singleton.mp known] at asks
  have lowering : ∀ {calls : List (Asking σ (@Request.Reply Program Params))} {ended},
      InOrder thread [.lower program pair params (.ofTarget pair.target), .clearFunctions] calls
        ended → ∀ asking ∈ calls, asking.From thread .clearFunctions ∨
          asking.From thread (.lower program pair params (.ofTarget pair.target)) := by
    intro calls ended order asking member
    obtain ⟨request, known, asks⟩ := order.from asking member
    have either : request = .lower program pair params (.ofTarget pair.target) ∨
        request = .clearFunctions := by simpa using known
    rcases either with rfl | rfl
    · exact Or.inr asks
    · exact Or.inl asks
  cases pass with
  | halted halts => exact fun asking member => Or.inl (clearing halts asking member)
  | announcement cleared => exact fun asking member => Or.inl (clearing cleared asking member)
  | lowering cleared _ _ later =>
      intro asking member
      rcases List.mem_cons.mp member with rfl | member
      · exact Or.inl (clearing cleared asking List.mem_cons_self)
      · cases later with
        | halted halts => exact lowering halts asking member
        | complete answered => exact lowering answered asking member

theorem Isolated.placed {world : World σ} {ended : Option (Except Fault Unit)}
    (isolated : Isolated settings caller pair index program params world calls ended) :
    ∀ asking ∈ calls, asking.Placed settings caller pair := by
  cases isolated with
  | unspawned => exact fun _ none => nomatch none
  | spawned _ _ pass =>
      intro asking member
      rcases pass.from asking member with clears | lowers
      · exact .passing index clears.thread (Or.inl clears.request)
      · exact .passing index lowers.thread (Or.inr ⟨program, params, lowers.request⟩)

theorem Isolated.inPass {world : World σ} {ended : Option (Except Fault Unit)}
    (isolated : Isolated settings caller pair index program params world calls ended) :
    ∀ asking ∈ calls, asking.thread.inPass = true := by
  cases isolated with
  | unspawned => exact fun _ none => nomatch none
  | spawned _ _ pass =>
      intro asking member
      rcases pass.from asking member with asks | asks
      · exact asks.thread.inPass
      · exact asks.thread.inPass

theorem Begun.placed {ended : Option (Except Fault Unit)}
    (begun : Begun settings caller pair index program params calls ended) :
    ∀ asking ∈ calls, asking.Placed settings caller pair := by
  obtain ⟨opens, -, -, isolated⟩ := begun
  intro asking member
  rcases List.mem_cons.mp member with rfl | member
  · exact .driving opens.thread (Or.inl opens.request)
  · exact isolated.placed asking member

theorem InOrder.placed {ended : Option (Except Panic Unit)}
    (order : InOrder caller (resetRequests forgets) calls ended) :
    ∀ asking ∈ calls, asking.Placed settings caller pair := by
  intro asking member
  obtain ⟨request, known, asks⟩ := order.from asking member
  refine .driving asks.thread ?_
  rw [asks.request]
  cases forgets with
  | false => exact Or.inl (List.mem_singleton.mp known)
  | true => simpa [resetRequests] using known

theorem Turns.placed {work : List (Program × Params)} {ended : Option (Except Exit Unit)}
    (turns : Turns settings forgets caller pair index work calls ended) :
    ∀ asking ∈ calls, asking.Placed settings caller pair := by
  induction turns with
  | done => exact fun _ none => nomatch none
  | opening opens =>
      intro asking member
      rw [List.mem_singleton.mp member]
      exact .driving opens.thread (Or.inl opens.request)
  | stuck begun => exact begun.placed
  | halted begun order | failed begun order =>
      intro asking member
      rcases List.mem_append.mp member with member | member
      · exact begun.placed asking member
      · exact order.placed asking member
  | next begun order _ ih =>
      intro asking member
      rcases List.mem_append.mp member with member | member
      · exact begun.placed asking member
      · rcases List.mem_append.mp member with member | member
        · exact order.placed asking member
        · exact ih asking member

theorem Asking.Answered.calm {asking : Asking σ (@Request.Reply Program Params)}
    (answered : asking.Answered) (panic : Panic) :
    asking.outcome ≠ some (.error (.panic panic)) := by
  cases answered with
  | returned returned => simp [returned]
  | failed failed => simp [failed]

theorem InOrder.panics {requests : List (Request Program Params)}
    {ended : Option (Except Panic Unit)} (order : InOrder thread requests calls ended) {panic : Panic} :
    ∀ asking ∈ calls, asking.outcome = some (.error (.panic panic)) → ended = some (.error panic) := by
  induction order with
  | nil => exact fun _ none => nomatch none
  | @halts _ _ _ stop _ halts =>
      intro asking member outcome
      rw [List.mem_singleton.mp member, halts.outcome] at outcome
      cases stop <;> cases outcome
      rfl
  | answered _ answered _ ih =>
      intro asking member outcome
      rcases List.mem_cons.mp member with rfl | member
      · exact absurd outcome (answered.calm panic)
      · exact ih asking member outcome

theorem Begun.calm {ended : Option (Except Fault Unit)}
    (begun : Begun settings caller pair index program params calls ended) :
    ∀ asking ∈ calls, asking.thread.inPass = false → ∀ panic,
      asking.outcome ≠ some (.error (.panic panic)) := by
  obtain ⟨-, answered, -, isolated⟩ := begun
  intro asking member driving
  rcases List.mem_cons.mp member with rfl | member
  · exact answered.calm
  · rw [isolated.inPass asking member] at driving
    cases driving

/-- A panic on the driving thread is how the batch ends. -/
theorem Turns.panics {work : List (Program × Params)} {ended : Option (Except Exit Unit)}
    (turns : Turns settings forgets caller pair index work calls ended) {panic : Panic} :
    ∀ asking ∈ calls, asking.thread.inPass = false →
      asking.outcome = some (.error (.panic panic)) → ended = some (.error (.panic panic)) := by
  induction turns with
  | done => exact fun _ none => nomatch none
  | opening _ halts =>
      intro asking member _ outcome
      rwa [List.mem_singleton.mp member, halts.outcome] at outcome
  | stuck begun =>
      intro asking member driving outcome
      exact absurd outcome (begun.calm asking member driving panic)
  | @halted _ _ _ _ _ _ _ stop begun order =>
      intro asking member driving outcome
      rcases List.mem_append.mp member with member | member
      · exact absurd outcome (begun.calm asking member driving panic)
      · have stopped := order.panics asking member outcome
        cases stop with
        | none => cases stopped
        | some found =>
            cases stopped
            rfl
  | failed begun order =>
      intro asking member driving outcome
      rcases List.mem_append.mp member with member | member
      · exact absurd outcome (begun.calm asking member driving panic)
      · cases order.panics asking member outcome
  | next begun order _ ih =>
      intro asking member driving outcome
      rcases List.mem_append.mp member with member | member
      · exact absurd outcome (begun.calm asking member driving panic)
      · rcases List.mem_append.mp member with member | member
        · cases order.panics asking member outcome
        · exact ih asking member driving outcome

end Placed

/-! ### The calls of a batch -/

theorem Pipeline.Scoped.reply {extractor : Extractor σ Program Params}
    (scopes : extractor.pipeline.Scoped) {request : Request Program Params}
    (called : request.toPipeline = true) : (extractor.reply request).run.Scoped := by
  have panicking : ∀ {code : Code σ (Except Panic Unit)}, code.Scoped →
      (Routine.panicking code).run.Scoped := fun own => own.bind fun _ => .ret _
  cases request with
  | resolve | construct => cases called
  | clearFunctions => exact panicking scopes.clearFunctions
  | lower program pair params config => exact scopes.lower program pair params config
  | clearFallback =>
      change extractor.pipeline.forgetting.run.Scoped
      rw [forgetting]
      split
      · rename_i clear fallback
        exact panicking (scopes.clearFallback clear fallback)
      · exact .ret _

namespace Batch

variable {batch : Batch.{u} σ} {t : Thread} {world : World σ}

theorem Traces.same {pair : TargetPair} {caller : Thread} {resolved : World σ}
    (traces : batch.Traces t world pair caller resolved) : caller.Same t :=
  Code.exec_thread traces.resolves

theorem Traces.turns {pair : TargetPair} {caller : Thread} {resolved : World σ}
    (traces : batch.Traces t world pair caller resolved) :
    Turns batch.extractor.settings batch.extractor.pipeline.clearFallback.isSome t pair 0
      (batch.programs.zip batch.params) (batch.calls t world)
      ((batch.lowered pair caller resolved).map Prod.fst) := by
  have turns := Extraction.turns_passes batch.extractor t pair 0 (batch.programs.zip batch.params)
    (batch.extractor.opened batch.filter caller resolved)
    (traces.same.hushed batch.extractor.settings.suppressLogs)
  change Turns _ _ _ _ _ _ (batch.passAskings pair caller resolved) _ at turns
  rw [← traces.calls_eq, Extraction.routine_passes] at turns
  exact turns

theorem toPipeline_of_mem_calls {asking : Asking σ (@Request.Reply batch.Program batch.Params)}
    (member : asking ∈ batch.calls t world) : asking.request.toPipeline = true :=
  (List.mem_filter.mp member).2

theorem Traces.linked {ν : Type} {view : World σ → ν} (passive : Passive view) {pair : TargetPair}
    {caller : Thread} {resolved : World σ} (traces : batch.Traces t world pair caller resolved) :
    Linked view (view (batch.extractor.opened batch.filter caller resolved)) (batch.calls t world)
      ((batch.lowered pair caller resolved).map fun ended => view ended.2.2) := by
  have linked := Extraction.leaves_passes batch.extractor passive
    batch.extractor.pipeline.clearFallback.isSome batch.extractor.settings pair 0
    (batch.programs.zip batch.params) (caller.hushed batch.extractor.settings.suppressLogs)
    (batch.extractor.opened batch.filter caller resolved)
  change Linked view _ (batch.passAskings pair caller resolved)
    ((((batch.passesDraft pair).routine batch.extractor.reply).run.exec _ _).map _) at linked
  rw [passesDraft, Extraction.routine_passes] at linked
  rw [traces.calls_eq]
  exact linked

theorem Traces.replies {pair : TargetPair} {caller : Thread} {resolved : World σ}
    (traces : batch.Traces t world pair caller resolved) :
    ∀ asking ∈ batch.calls t world, ∀ after, asking.after = some after →
      ∃ outcome thread, (batch.extractor.reply asking.request).run.exec asking.thread asking.world =
        some (outcome, thread, after) := by
  intro asking member after answered
  have ran := Outline.askings_ended batch.extractor.reply _ _ _ asking (traces.calls_eq ▸ member)
  rw [Asking.after, ran, Option.map_eq_some_iff] at answered
  obtain ⟨⟨outcome, thread, last⟩, ran, rfl⟩ := answered
  exact ⟨outcome, thread, ran⟩

/-- Every call of a pipeline that drops no scope of others finds the scope of the batch. -/
theorem Traces.slot {pair : TargetPair} {caller : Thread} {resolved : World σ}
    (traces : batch.Traces t world pair caller resolved)
    (scopes : batch.extractor.pipeline.Scoped) :
    ∀ asking ∈ batch.calls t world,
      asking.world.hook = { value := some (.ledger batch.extractor.ledger) } := by
  have begun : (batch.extractor.opened batch.filter caller resolved).hook =
      { value := some (.ledger batch.extractor.ledger) } := batch.extractor.begun_hook caller _
  have linked := traces.linked passive_hook
  rw [begun] at linked
  apply linked.constant
  intro asking member busy after answered
  obtain ⟨outcome, thread, ran⟩ := traces.replies asking member after answered
  exact (scopes.reply (toPipeline_of_mem_calls member)).hook busy ran

/-- What a batch that traces promises its pipeline, with the end that its passes come to. -/
structure Disciplined (batch : Batch.{u} σ) (t : Thread) (world : World σ) (pair : TargetPair)
    (ended : Option (Except Exit Unit)) : Prop where
  turns : Turns batch.extractor.settings batch.extractor.pipeline.clearFallback.isSome t pair 0
    (batch.programs.zip batch.params) (batch.calls t world) ended
  lowers : ∀ asking ∈ batch.calls t world, ∀ program target params config,
    asking.request = .lower program target params config →
      asking.thread.inPass = true ∧ asking.world.isTracing = true ∧ target = pair ∧
        config = if pair.target.device = some "vta" then .auxiliary else {}
  /-- A sink that panics on the end of the scope would stop the process while the panic unwinds. -/
  panics : ∀ asking ∈ batch.calls t world, asking.thread.inPass = false → ∀ panic,
    asking.outcome = some (.error (.panic panic)) →
      ended = some (.error (.panic panic)) ∧
        (world.Heard → (batch.report.run.exec t world).map Prod.fst = some (.error (.panic panic)))

theorem Traces.disciplined {pair : TargetPair} {caller : Thread} {resolved : World σ}
    (traces : batch.Traces t world pair caller resolved)
    (scopes : batch.extractor.pipeline.Scoped) :
    batch.Disciplined t world pair ((batch.lowered pair caller resolved).map Prod.fst) := by
  have turns := traces.turns
  refine ⟨turns, ?_, ?_⟩
  · intro asking member program target params config lowers
    have tracing : asking.world.isTracing = true := by
      rw [World.isTracing, traces.slot scopes asking member]
      rfl
    cases turns.placed asking member with
    | driving _ request => rcases request with clears | clears <;> simp [clears] at lowers
    | passing index thread request =>
        rcases request with clears | ⟨program', params', asked⟩
        · simp [clears] at lowers
        · rw [asked] at lowers
          cases lowers
          exact ⟨thread.inPass, tracing, rfl, rfl⟩
  · intro asking member driving panic outcome
    have ended := turns.panics asking member driving outcome
    refine ⟨ended, fun heard => ?_⟩
    obtain ⟨⟨_, thread, last⟩, lowered, rfl⟩ := Option.map_eq_some_iff.mp ended
    exact traces.exec_error lowered heard

end Batch

end TuningTasks
