import TuningTasks.Proofs.Discipline

/-!
Every run keeps to the order of the turns. A draft is orderly when it makes its requests one after
another and ends as they do; the drafts of a pass are put together from orderly ones, in the order of
the code, and `turns_passes` goes from one turn to the next.
-/
namespace TuningTasks

universe u v
variable {σ α : Type} {Program : Type u} {Params : Type v}

def Routine.PanicsOnly (routine : Routine σ α) : Prop :=
  ∀ t world failure, (routine.run.exec t world).map Prod.fst ≠ some (.error (.failure failure))

theorem Routine.panicking_panicsOnly (code : Code σ (Except Panic α)) :
    (panicking code).PanicsOnly := by
  intro t world failure ended
  rw [exec_panicking] at ended
  rcases ran : code.exec t world with _ | ⟨panic | value, thread, last⟩
  all_goals
    rw [ran] at ended
    cases ended

theorem Pipeline.forgetting_panicsOnly (pipeline : Pipeline σ Program Params) :
    pipeline.forgetting.PanicsOnly := by
  rw [forgetting]
  split
  · exact Routine.panicking_panicsOnly _
  · intro t world failure ended
    cases ended

section MapError

variable {ε ε' : Type} {wrap : ε → ε'} {result : Except ε α}

theorem mapError_error {cause : ε'} (failed : result.mapError wrap = .error cause) :
    ∃ inner, result = .error inner ∧ wrap inner = cause := by
  cases result with
  | ok value => cases failed
  | error inner => exact ⟨inner, rfl, Except.error.inj failed⟩

theorem mapError_ok {value : α} (passed : result.mapError wrap = .ok value) : result = .ok value := by
  cases result with
  | ok inner => exact congrArg _ (Except.ok.inj passed)
  | error inner => cases passed

end MapError

namespace Extraction

open Draft

variable (extractor : Extractor σ Program Params)

/-- The draft makes these requests of the thread in order, and ends as they do. -/
def Orderly (thread : Thread) (requests : List (Request Program Params))
    (draft : Extraction σ Program Params Unit) : Prop :=
  ∀ t world, t.Same thread → ∃ ended,
    InOrder thread requests (draft.askings extractor.reply t world) ended ∧
    ((draft.routine extractor.reply).run.exec t world).map Prod.fst =
      ended.map (Except.mapError .panic)

variable {thread : Thread}

theorem orderly_pure : Orderly extractor thread [] (pure ()) :=
  fun _ _ _ => ⟨some (.ok ()), .nil, rfl⟩

variable {extractor} in
theorem orderly_ask {draft : Extraction σ Program Params Unit} {request : Request Program Params}
    (calm : (draft.routine extractor.reply).PanicsOnly)
    (asks : ∀ t world, ∃ asking, draft.askings extractor.reply t world = [asking] ∧
      asking.request = request ∧ asking.thread = t ∧
      asking.outcome = ((draft.routine extractor.reply).run.exec t world).map Prod.fst) :
    Orderly extractor thread [request] draft := by
  intro t world same
  obtain ⟨asking, only, rfl, rfl, outcome⟩ := asks t world
  rw [only, ← outcome]
  exact InOrder.single ⟨rfl, same⟩ fun failure failed => calm _ world failure (outcome ▸ failed)

theorem unit_outcome (ended : Option (Except Exit Unit × Thread × World σ)) :
    ended.map (fun ended => ended.1.map fun _ => ()) = ended.map Prod.fst := by
  rcases ended with _ | ⟨exit | done, thread, last⟩
  all_goals rfl

theorem orderly_clearFunctions :
    Orderly extractor thread [.clearFunctions] (clearFunctions : Extraction σ Program Params Unit) := by
  apply orderly_ask
  · rw [routine_clearFunctions]
    exact Routine.panicking_panicsOnly _
  · intro t world
    refine ⟨_, askings_ask _ _ _ _, rfl, rfl, ?_⟩
    rw [routine_clearFunctions]
    exact unit_outcome _

theorem orderly_forgetting :
    Orderly extractor thread (if extractor.pipeline.clearFallback.isSome then [.clearFallback] else [])
      (forgetting extractor.pipeline.clearFallback.isSome : Extraction σ Program Params Unit) := by
  have routine := routine_forgetting extractor
  cases fallback : extractor.pipeline.clearFallback with
  | none => exact orderly_pure extractor
  | some clear =>
      rw [fallback] at routine
      apply orderly_ask
      · rw [routine]
        exact extractor.pipeline.forgetting_panicsOnly
      · intro t world
        refine ⟨_, askings_ask _ _ _ _, rfl, rfl, ?_⟩
        rw [routine]
        exact unit_outcome _

variable {extractor} in
theorem Orderly.followed {requests : List (Request Program Params)}
    {draft : Extraction σ Program Params Unit} (orderly : Orderly extractor thread requests draft)
    (rest : Extraction σ Program Params Unit) {t : Thread} (world : World σ) (same : t.Same thread) :
    (∃ stop : Option Panic,
      InOrder thread requests ((draft >>= fun _ => rest).askings extractor.reply t world)
        (stop.map .error) ∧
      (((draft >>= fun _ => rest).routine extractor.reply).run.exec t world).map Prod.fst =
        stop.map fun panic => .error (.panic panic)) ∨
    ∃ calls middle between, middle.Same thread ∧
      InOrder thread requests calls (some (.ok ())) ∧
      (draft >>= fun _ => rest).askings extractor.reply t world =
        calls ++ rest.askings extractor.reply middle between ∧
      ((draft >>= fun _ => rest).routine extractor.reply).run.exec t world =
        (rest.routine extractor.reply).run.exec middle between := by
  obtain ⟨ended, order, exits⟩ := orderly t world same
  rw [askings_bind, routine_bind, Routine.exec_bind]
  rcases ended with _ | ⟨panic⟩ | ⟨⟨⟩⟩
  · rw [Option.map_eq_none_iff.mp exits]
    refine Or.inl ⟨none, ?_, rfl⟩
    rw [Option.elim_none, List.append_nil]
    exact order
  · obtain ⟨⟨_, middle, between⟩, ran, rfl⟩ := Option.map_eq_some_iff.mp exits
    rw [ran]
    refine Or.inl ⟨some panic, ?_, rfl⟩
    simp only [Routine.mapError_error, Option.elim_some, onwardAskings, List.append_nil]
    exact order
  · obtain ⟨⟨_, middle, between⟩, ran, rfl⟩ := Option.map_eq_some_iff.mp exits
    rw [ran]
    exact Or.inr ⟨_, middle, between, same.exec ran, order, rfl, rfl⟩

variable {extractor} in
theorem Orderly.bind {first second : List (Request Program Params)}
    {draft rest : Extraction σ Program Params Unit} (before : Orderly extractor thread first draft)
    (later : Orderly extractor thread second rest) :
    Orderly extractor thread (first ++ second) (draft >>= fun _ => rest) := by
  intro t world same
  rcases before.followed rest world same with
    ⟨stop, order, exits⟩ | ⟨calls, middle, between, here, order, askings, exec⟩
  · refine ⟨stop.map .error, order.halted, exits.trans ?_⟩
    cases stop <;> rfl
  · obtain ⟨ended, orderly, exits⟩ := later middle between here
    rw [askings, exec]
    exact ⟨ended, order.append orderly, exits⟩

theorem orderly_reset :
    Orderly extractor thread (resetRequests extractor.pipeline.clearFallback.isSome)
      (reset extractor.pipeline.clearFallback.isSome) :=
  (orderly_clearFunctions extractor).bind (orderly_forgetting extractor)

theorem closingCalls (lowered : Except Failure Unit) {t : Thread} (world : World σ)
    (same : t.Same thread) :
    let closing : Extraction σ Program Params Unit :=
      clearFunctions >>= fun _ => own (Pipeline.verdict lowered)
    (∃ stop : Option Panic,
      InOrder thread [.clearFunctions] (closing.askings extractor.reply t world) (stop.map .error) ∧
      ((closing.routine extractor.reply).run.exec t world).map Prod.fst =
        stop.map fun panic => .error (.panic panic)) ∨
    InOrder thread [.clearFunctions] (closing.askings extractor.reply t world) (some (.ok ())) ∧
      ((closing.routine extractor.reply).run.exec t world).map Prod.fst =
        some (lowered.mapError fun failure => .failure failure.wrapped) := by
  intro closing
  rcases (orderly_clearFunctions extractor).followed (own (Pipeline.verdict lowered)) world same with
    halted | ⟨calls, middle, between, -, order, askings, exec⟩
  · exact Or.inl halted
  · rw [askings, exec, askings_own, List.append_nil, routine_own]
    refine Or.inr ⟨order, ?_⟩
    rcases lowered with failure | ⟨⟨⟩⟩
    all_goals rfl

theorem lowerCalls (pair : TargetPair) (program : Program) (params : Params) {t : Thread}
    (world : World σ) (same : t.Same thread) :
    ∃ ended, LowerCalls pair thread program params
        ((lowering pair program params).askings extractor.reply t world) ended ∧
      (((lowering pair program params).routine extractor.reply).run.exec t world).map Prod.fst =
        ended.map (Except.mapError Exit.wrapped) := by
  have lowers : ∀ ended, (⟨.lower program pair params (.ofTarget pair.target), t, world, ended⟩ :
      Asking σ (@Request.Reply Program Params)).From thread
        (.lower program pair params (.ofTarget pair.target)) := fun _ => ⟨rfl, same⟩
  rw [lowering, askings_bind, askings_catchFailure, lower, askings_ask, routine_bind,
    routine_catchFailure, routine_ask, Routine.exec_bind, Routine.exec_catchFailure]
  rcases ran : (extractor.reply (.lower program pair params (.ofTarget pair.target))).run.exec t world
    with _ | ⟨(failure | panic) | ⟨⟨⟩⟩, middle, between⟩
  · exact ⟨none, .halted (.halts (lowers _) (.never rfl)), rfl⟩
  · rcases closingCalls extractor (.error failure) between (same.exec ran) with
      ⟨stop, order, exits⟩ | ⟨order, exits⟩
    · refine ⟨_, .halted (.answered (lowers _) (.failed rfl) order), exits.trans ?_⟩
      cases stop <;> rfl
    · exact ⟨some (.error (.failure failure)), .complete (.answered (lowers _) (.failed rfl) order) rfl,
        exits⟩
  · exact ⟨some (.error (.panic panic)), .halted (.halts (lowers _) (.panicked rfl)), rfl⟩
  · rcases closingCalls extractor (.ok ()) between (same.exec ran) with
      ⟨stop, order, exits⟩ | ⟨order, exits⟩
    · refine ⟨_, .halted (.answered (lowers _) (.returned rfl) order), exits.trans ?_⟩
      cases stop <;> rfl
    · exact ⟨some (.ok ()), .complete (.answered (lowers _) (.returned rfl) order) rfl, exits⟩

theorem exec_announcing (pair : TargetPair) (t : Thread) (world : World σ) : ∃ last,
    (Pipeline.announcing pair).run.exec t world =
      some ((pair.unannounced t world).elim (.ok ()) fun panic => .error (.panic panic), t, last) := by
  by_cases auxiliary : pair.target.device = some PassConfig.auxiliaryDevice
  · have backend : (PassConfig.ofTarget pair.target).auxiliaryBackend =
        some PassConfig.auxiliaryDevice := by
      rw [PassConfig.ofTarget, if_pos auxiliary]
      rfl
    rw [Pipeline.announcing, backend, TargetPair.unannounced, if_pos auxiliary]
    simp only [Routine.exec_emit_any, World.emit_eq]
    cases world.panicOn t (.auxiliaryLowering PassConfig.auxiliaryDevice) with
    | none => exact ⟨_, rfl⟩
    | some panic => exact ⟨_, rfl⟩
  · have backend : (PassConfig.ofTarget pair.target).auxiliaryBackend = none := by
      rw [PassConfig.ofTarget, if_neg auxiliary]
    rw [Pipeline.announcing, backend, TargetPair.unannounced, if_neg auxiliary]
    exact ⟨world, rfl⟩

theorem passCalls (pair : TargetPair) (program : Program) (params : Params) {t : Thread}
    (world : World σ) (same : t.Same thread) :
    ∃ ended, PassCalls pair thread program params
        ((pass pair program params).askings extractor.reply t world) ended ∧
      (((pass pair program params).routine extractor.reply).run.exec t world).map Prod.fst =
        ended.map (Except.mapError Exit.wrapped) := by
  have clears : ∀ ended, (⟨.clearFunctions, t, world, ended⟩ :
      Asking σ (@Request.Reply Program Params)).From thread .clearFunctions := fun _ => ⟨rfl, same⟩
  rw [pass, clearFunctions, askings_bind, askings_ask, routine_bind, routine_ask, Routine.exec_bind]
  rcases ran : (extractor.reply .clearFunctions).run.exec t world with
    _ | ⟨(failure | panic) | ⟨⟨⟩⟩, middle, between⟩
  · exact ⟨none, .halted (.halts (clears _) (.never rfl)), rfl⟩
  · have calm := Routine.panicking_panicsOnly extractor.pipeline.clearFunctions t world failure
    change (extractor.reply .clearFunctions).run.exec t world = _ at ran
    exact absurd (congrArg (Option.map Prod.fst) ran) calm
  · exact ⟨some (.error (.panic panic)), .halted (.halts (clears _) (.panicked rfl)), rfl⟩
  · -- The clear is answered: what it leaves decides whether the auxiliary device can be announced.
    have cleared := InOrder.answered (clears (some (.ok (), middle, between))) (.returned rfl) .nil
    simp only [Option.elim_some, onwardAskings, Option.bind_some, Routine.onward,
      List.singleton_append]
    rw [askings_bind, askings_own, List.nil_append, routine_bind, routine_own, Routine.exec_bind]
    obtain ⟨last, told⟩ := exec_announcing pair middle between
    cases announced : pair.unannounced middle between with
    | some panic =>
        rw [told, announced]
        exact ⟨some (.error (.panic panic)), .announcement cleared rfl announced, rfl⟩
    | none =>
        obtain ⟨ended, lowering, exits⟩ := lowerCalls extractor pair program params last
          (same.exec ran)
        rw [told, announced]
        exact ⟨ended, .lowering cleared rfl announced lowering, exits⟩

section Isolated

variable {settings : Settings} {index : Nat} {body : Extraction σ Program Params Unit} {t : Thread}
  {world : World σ}

theorem askings_isolated (granted : world.refusal world.spawned settings.stackSize = none) :
    (isolated settings index body).askings extractor.reply t world =
      body.askings extractor.reply ((settings.threadFor t index).hushed settings.suppressLogs)
        (({ world with spawned := world.spawned + 1 }).hushed settings.suppressLogs) := by
  rw [isolated, Outline.askings]
  simp only [Action.ready, ↓reduceIte, Action.perform, World.spawn, granted, Option.elim_none]
  rw [Outline.askings_fork_ret, ← askings_quietly]
  rfl

theorem exec_isolated (granted : world.refusal world.spawned settings.stackSize = none) :
    (((isolated settings index body).answered extractor.reply).exec t world).map
        (fun answer => answer.1.mapError (·.atProgram index)) =
      ((body.routine extractor.reply).run.exec
        ((settings.threadFor t index).hushed settings.suppressLogs)
        (({ world with spawned := world.spawned + 1 }).hushed settings.suppressLogs)).map
          fun ended => ended.1.mapError (Exit.joined index) := by
  have quiet := Routine.exec_quietly_any settings.suppressLogs (body.routine extractor.reply)
    (settings.threadFor t index) { world with spawned := world.spawned + 1 }
  rw [← routine_quietly] at quiet
  rw [isolated, Outline.answered, Code.exec]
  simp only [Action.ready, ↓reduceIte, Action.perform, World.spawn, granted, Option.elim_none]
  rw [Outline.exec_fork_ret]
  change Option.map _ (Option.map _ (((quietly settings.suppressLogs body).routine
    extractor.reply).run.exec (settings.threadFor t index) _)) = _
  rw [quiet]
  rcases (body.routine extractor.reply).run.exec _ _ with
    _ | ⟨(failure | panic) | ⟨⟨⟩⟩, thread, last⟩
  all_goals rfl

end Isolated

theorem isolatedCalls (caller : Thread) (pair : TargetPair) (index : Nat) (program : Program)
    (params : Params) {t : Thread} (world : World σ) (same : t.Same caller) :
    ∃ ended, Isolated extractor.settings caller pair index program params world
        ((isolated extractor.settings index (pass pair program params)).askings extractor.reply t
          world) ended ∧
      (((isolated extractor.settings index (pass pair program params)).answered extractor.reply).exec
          t world).map (fun answer => answer.1.mapError (·.atProgram index)) =
        ended.map (Except.mapError (Fault.failure index)) := by
  cases system : world.refusal world.spawned extractor.settings.stackSize with
  | some reason =>
      simp only [isolated, Outline.askings, Outline.answered, Code.exec, Action.ready, ↓reduceIte,
        Action.perform, World.spawn, system]
      exact ⟨some (.error (.unspawned reason)), .unspawned system, rfl⟩
  | none =>
      have started : extractor.settings.threadFor t index =
          extractor.settings.threadFor caller index := by
        rw [same]
        rfl
      have fresh : ((extractor.settings.threadFor caller index).hushed
          extractor.settings.suppressLogs).Same (extractor.settings.threadFor caller index) := rfl
      obtain ⟨ended, calls, exits⟩ := passCalls extractor pair program params
        (({ world with spawned := world.spawned + 1 }).hushed extractor.settings.suppressLogs) fresh
      rw [askings_isolated extractor system, exec_isolated extractor system, started]
      refine ⟨ended.map (Except.mapError .inside), .spawned system ?_ calls, ?_⟩
      · intro first head
        rw [pass, clearFunctions, askings_bind, askings_ask] at head
        cases head
        rfl
      · have joined := congrArg (Option.map (Except.mapError (Exit.joined index))) exits
        rw [Option.map_map] at joined
        refine joined.trans ?_
        rcases ended with _ | ⟨exit⟩ | ⟨⟨⟩⟩
        · rfl
        · exact congrArg (fun failure => some (Except.error failure)) (exit.joined_wrapped index)
        · rfl

/-- Whatever a pipeline does, its calls keep to the order of the turns. -/
theorem turns_passes (caller : Thread) (pair : TargetPair) (index : Nat)
    (work : List (Program × Params)) {t : Thread} (world : World σ) (same : t.Same caller) :
    Turns extractor.settings extractor.pipeline.clearFallback.isSome caller pair index work
      ((passes extractor.pipeline.clearFallback.isSome extractor.settings pair index work).askings
        extractor.reply t world)
      ((((passes extractor.pipeline.clearFallback.isSome extractor.settings pair index work).routine
        extractor.reply).run.exec t world).map Prod.fst) := by
  -- A turn that lowers its program leaves the rest of the work to the next one.
  induction work generalizing index t world with
  | nil => exact .done index
  | cons item rest ih =>
      obtain ⟨program, params⟩ := item
      rw [passes, clearFunctions, askings_bind, askings_ask, routine_bind, routine_ask,
        Routine.exec_bind]
      rcases cleared : (extractor.reply .clearFunctions).run.exec t world with
        _ | ⟨(failure | panic) | ⟨⟨⟩⟩, middle, between⟩
      · exact .opening ⟨rfl, same⟩ (.never rfl)
      · have calm := Routine.panicking_panicsOnly extractor.pipeline.clearFunctions t world failure
        change (extractor.reply .clearFunctions).run.exec t world = _ at cleared
        exact absurd (congrArg (Option.map Prod.fst) cleared) calm
      · exact .opening ⟨rfl, same⟩ (.panicked rfl)
      · have here : middle.Same caller := same.exec cleared
        obtain ⟨passed, isolated, left⟩ := isolatedCalls extractor caller pair index program
          params between here
        have begun : Begun extractor.settings caller pair index program params
            (⟨.clearFunctions, t, world, some (.ok (), middle, between)⟩ :: _) passed :=
          .intro ⟨rfl, same⟩ (.returned rfl) rfl isolated
        simp only [Option.elim_some, onwardAskings, Option.bind_some, Routine.onward]
        rw [askings_bind, askings_lift, routine_bind, routine_lift, Routine.exec_bind,
          Routine.exec_lift]
        rcases passed with _ | ended
        · rw [Option.map_eq_none_iff.mp left]
          simp only [Option.map_none, Option.elim_none, List.append_nil, Option.bind_none,
            List.singleton_append]
          exact .stuck begun
        · obtain ⟨⟨traced, inner, last⟩, ran, same⟩ := Option.map_eq_some_iff.mp left
          rw [ran]
          simp only [Option.map_some, Option.elim_some, onwardAskings, Option.bind_some,
            Routine.onward, List.singleton_append]
          rcases (orderly_reset extractor).followed _ last (here.exec ran) with
            ⟨stop, order, exits⟩ | ⟨calls, later, reset, there, order, askings, exec⟩
          · rw [exits]
            exact .halted begun order
          · rw [askings, exec]
            cases ended with
            | error fault =>
                obtain ⟨failure, rfl, named⟩ := mapError_error same
                rw [askings_own, List.append_nil, routine_own, named]
                exact .failed begun order
            | ok done =>
                obtain rfl := mapError_ok same
                exact .next begun order (ih (index + 1) reset there)

end Extraction

end TuningTasks
