import TuningTasks.Process.Action

/-!
Code of a thread as a tree of actions: it returns, acts and goes on with the answer, or runs other
code on a thread of its own and waits for its end. `exec_bind` says that running is compositional.
-/
namespace TuningTasks

/-- `fork` starts `body` on the given thread and goes on with what it returned. -/
inductive Code (σ : Type) : Type → Type 1
  | ret {α : Type} (value : α) : Code σ α
  | act {α β : Type} (action : Action σ β) (next : β → Code σ α) : Code σ α
  | fork {α β : Type} (thread : Thread) (body : Code σ β) (next : β → Code σ α) : Code σ α

namespace Code

variable {σ α β γ : Type}

def bind : Code σ α → (α → Code σ β) → Code σ β
  | ret value, f => f value
  | act action next, f => act action fun answer => (next answer).bind f
  | fork thread body next, f => fork thread body fun answer => (next answer).bind f

instance : Monad (Code σ) where
  pure := ret
  bind := bind

def perform (action : Action σ α) : Code σ α := act action ret

def onThread (thread : Thread) (body : Code σ α) : Code σ α := fork thread body ret

/-- Runs the code on a thread while no other thread moves; `none` if it comes to wait for ever. -/
def exec : {α : Type} → Code σ α → Thread → World σ → Option (α × Thread × World σ)
  | _, ret value, t, world => some (value, t, world)
  | _, act action next, t, world =>
      if action.ready world then
        let (answer, t, world) := action.perform t world
        (next answer).exec t world
      else none
  | _, fork thread body next, t, world =>
      match body.exec { thread with caller := t.caller } world with
      | some (answer, _, world) => (next answer).exec t world
      | none => none

theorem exec_bind (code : Code σ α) (f : α → Code σ β) (t : Thread) (world : World σ) :
    (code.bind f).exec t world =
      (code.exec t world).bind fun ended => (f ended.1).exec ended.2.1 ended.2.2 := by
  induction code generalizing t world with
  | ret value => simp [bind, exec]
  | act action next ih =>
      simp only [bind, exec]
      split
      · exact ih _ f _ _
      · rfl
  | fork thread body next _ ih =>
      simp only [bind, exec]
      cases body.exec { thread with caller := t.caller } world with
      | none => rfl
      | some ended => exact ih _ f _ _

theorem bind_ret (code : Code σ α) : code.bind ret = code := by
  induction code with
  | ret value => rfl
  | act action next ih => simp [bind, ih]
  | fork thread body next _ ih => simp [bind, ih]

theorem bind_assoc (code : Code σ α) (f : α → Code σ β) (g : β → Code σ γ) :
    (code.bind f).bind g = code.bind fun value => (f value).bind g := by
  induction code with
  | ret value => rfl
  | act action next ih => simp [bind, ih]
  | fork thread body next _ ih => simp [bind, ih]

instance : LawfulMonad (Code σ) := .mk' _ bind_ret (fun _ _ => rfl) bind_assoc

end Code

/-- Code that may also end with a failure or a panic. -/
abbrev Routine (σ : Type) := ExceptT Exit (Code σ)

namespace Routine

variable {σ α β : Type}

def fail (failure : Failure) : Routine σ α := throw (.failure failure)

def panic (panic : Panic) : Routine σ α := throw (.panic panic)

def ofExcept (result : Except Failure α) : Routine σ α := ExceptT.mk (pure (result.mapError .failure))

def perform (action : Action σ α) : Routine σ α := ExceptT.lift (.perform action)

def attempt (action : Action σ (Except Exit α)) : Routine σ α := ExceptT.mk (.perform action)

def failing (action : Action σ (Except Failure α)) : Routine σ α :=
  ExceptT.mk do return (← Code.perform action).mapError .failure

def panicking (code : Code σ (Except Panic α)) : Routine σ α :=
  ExceptT.mk do return (← code).mapError .panic

/-- A failure becomes the answer, a panic goes on unwinding. -/
def catchFailure (routine : Routine σ α) : Routine σ (Except Failure α) :=
  ExceptT.mk do
    match ← routine.run with
    | .ok value => return .ok (.ok value)
    | .error (.failure failure) => return .ok (.error failure)
    | .error (.panic panic) => return .error (.panic panic)

def emit (event : Event) : Routine σ Unit := panicking (.perform (.emit event))

def onThread (thread : Thread) (routine : Routine σ α) : Routine σ α :=
  ExceptT.mk (Code.onThread thread routine.run)

def drain (ledger : String) : Routine σ (List Invocation) := do
  return (← failing (.readLedger ledger)).ordered

def size (ledger : String) : Routine σ Nat := do
  return (← failing (.readLedger ledger)).ordered.length

def isEmpty (ledger : String) : Routine σ Bool := do return (← size ledger) = 0

def accepts (ledger operator : String) : Routine σ Bool := do
  return (← failing (.readLedger ledger)).accepts operator

/-- Routes an invocation to the hook that is installed; without one nothing happens. -/
def dispatch (invocation : Invocation) : Routine σ Decision := do
  match ← failing .installedHook with
  | none => return .passThrough
  | some hook => attempt (.consult hook invocation)

/-- Installs a hook while the body runs, on every way out of it. -/
def intercepting (hook : Hook σ) (body : Routine σ α) : Routine σ α := do
  attempt (.install hook)
  let ended ← ExceptT.lift body.run
  panicking (.perform .uninstall)
  ExceptT.mk (pure ended)

def quietly (mute : Bool) (body : Routine σ α) : Routine σ α := do
  if mute then
    let found ← perform .mute
    let ended ← ExceptT.lift body.run
    perform (.unmute found)
    ExceptT.mk (pure ended)
  else body

def exclusively (body : Routine σ α) : Routine σ α := do
  perform .lockSession
  let ended ← ExceptT.lift body.run
  perform .unlockSession
  ExceptT.mk (pure ended)

end Routine

end TuningTasks
