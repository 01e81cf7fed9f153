import TuningTasks.Failure
import TuningTasks.Names.Table
import TuningTasks.Text.Blank
import TuningTasks.Text.Digits

/-!
Settings of an extraction and how they are read from an environment. Two variables count: one
switches log suppression, one sets the stack size of lowering threads.
-/
namespace TuningTasks

theorem Settings.preset_nameable : '\x00' ∉ "tunex-lower".toList := by decide

/-- The prefix holds no NUL: the names of threads may not, and an extraction could make none of its
threads. -/
structure Settings where
  suppressLogs : Bool := true
  threadPrefix : String := "tunex-lower"
  stackSize : Option Nat := none
  templates : NameTable String := .empty
  nameable : '\x00' ∉ threadPrefix.toList := by exact Settings.preset_nameable
deriving DecidableEq

namespace Settings

instance : Inhabited Settings := ⟨{}⟩

def suppressVariable : String := "TUNEX_SUPPRESS_LOGS"

def stackVariable : String := "TUNEX_LOWERING_STACK_SIZE"

def invalid (name value : String) : Failure :=
  { kind := .invalidInput, message := "invalid value '" ++ value ++ "' for " ++ name }

def readSwitch (value : String) : Option Bool :=
  let word := String.ofList ((Text.trim value.toList).map Char.toLower)
  if word ∈ ["1", "true", "yes", "on"] then some true
  else if word ∈ ["0", "false", "no", "off"] then some false
  else none

/-- A positive number of at most 64 bits in decimal digits, after an optional plus sign. -/
def readSize (value : String) : Option Nat :=
  let digits := match Text.trim value.toList with
    | '+' :: rest => rest
    | other => other
  (Text.digitsValue? digits).filter fun size => 0 < size && size < UInt64.size

/-- The switch is looked at first. -/
def ofLookup (lookup : String → Option String) : Except Failure Settings := do
  let suppressLogs ← match lookup suppressVariable with
    | none => .ok true
    | some value => match readSwitch value with
      | some on => .ok on
      | none => .error (invalid suppressVariable value)
  let stackSize ← match lookup stackVariable with
    | none => .ok none
    | some value => match readSize value with
      | some size => .ok (some size)
      | none => .error (invalid stackVariable value)
  return { suppressLogs, stackSize }

def withTemplate (settings : Settings) (operator template : String) : Settings :=
  { settings with templates := settings.templates.insert operator template }

def template? (settings : Settings) (operator : String) : Option String :=
  settings.templates.find? operator

end Settings

end TuningTasks
