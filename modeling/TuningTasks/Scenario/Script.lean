import TuningTasks.Batch.Await

/-!
Scripts of scenarios: what a scripted pipeline does while it lowers a program, what scripted
factories, resolvers and hooks answer, and how one extraction is called.
-/
namespace TuningTasks.Scenario

inductive LedgerOp
  | reset (filter : Except Failure (Option Filter))
  | record (invocation : Invocation)
  | onDispatch (invocation : Invocation)
  | drain
  | size
  | isEmpty
  | accepts (operator : String)

inductive CacheOp
  | warnOnce (message : String)
  | remember (target workload config : String)
  | lookup (target workload : String)
  | warningCount
  | configCount
  | clear

inductive HookScript
  | ledger (name : String)
  | always (answer : Except Failure Decision)

inductive Verdict
  | build
  | panic (text : String)
  | failure (failure : Failure)
  | invalidShape (message : String)

/-- Applies to one operator if it names one, and to requests with a top-level tensor that has a
dimension no larger than the bound if it gives one. -/
structure Rule where
  operator : Option String
  dimAtMost : Option Int
  verdict : Verdict

inductive FactoryScript
  | passthrough
  | rules (rules : List Rule)

inductive ResolverScript
  | canonical
  | failing (failure : Failure)
  | answering (pair : TargetPair)

inductive Mode
  | report
  | tasks
  | single
  | awaitedReport
  | awaitedTasks
deriving DecidableEq

/-- One extraction but for its programs; a parameter set is an opaque text. -/
structure Call where
  mode : Mode
  params : Option (List String)
  filter : Option Filter
  target : Target
  host : Option Target
  settings : Settings
  resolver : ResolverScript
  factory : FactoryScript
  ledger : String
  pipeline : String
  /-- In microseconds, for the awaited modes. -/
  limit : Option Nat

/-- `helper` means: on a thread of its own, joined at once. -/
inductive Instruction
  | dispatch (invocation : Invocation) (helper ignoreFailure : Bool)
  | warnUnlessTraced (invocation : Invocation)
  | fail (failure : Failure)
  | panic (panic : Panic)
  | log (message : String)
  | block
  | tryEnter (ledger : String)
  | state (helper : Bool)
  | ledger (name : String) (op : LedgerOp) (helper : Bool)
  | cache (op : CacheOp)
  | nested (call : Except Failure Call) (programs : List (List Instruction))

abbrev Program := List Instruction

end TuningTasks.Scenario
