import TuningTasks.Failure
import TuningTasks.Target.Basic
import TuningTasks.Text.Blank

/-!
The text form of targets: a kind, then options that start with a dash, separated by blanks. An
option without `=` has the value `true`; of several options with one name the last counts; `-device`
and `-keys` are fields, every other name is an attribute. A host has no text form.
-/
namespace TuningTasks

inductive TargetFault
  | empty
  | kindNotFirst
  | stray (token : String)
  | nameless
deriving DecidableEq, Repr

def TargetFault.reason : TargetFault → String
  | empty => "target string is empty"
  | kindNotFirst => "target kind must come first"
  | stray token => "unexpected token '" ++ token ++ "'"
  | nameless => "option name is empty"

def TargetFault.failure (fault : TargetFault) (text : String) : Failure :=
  { kind := .targetResolution, message := "invalid target '" ++ text ++ "': " ++ fault.reason }

structure TargetOption where
  name : String
  value : String
deriving DecidableEq, Repr

namespace TargetOption

def ofToken : List Char → Except TargetFault TargetOption
  | '-' :: body =>
      let name := body.takeWhile (· ≠ '=')
      if name.isEmpty then .error .nameless
      else .ok ⟨String.ofList name,
        match body.dropWhile (· ≠ '=') with
        | [] => "true"
        | _ :: value => String.ofList value⟩
  | token => .error (.stray (String.ofList token))

def token (option : TargetOption) : String := "-" ++ option.name ++ "=" ++ option.value

def lastValue (name : String) (options : List TargetOption) : Option String :=
  (options.reverse.find? fun option => option.name = name).map value

def isAttribute (option : TargetOption) : Bool := option.name ≠ "device" && option.name ≠ "keys"

end TargetOption

namespace TargetSpec

def keyList (value : String) : List String :=
  (Text.parts (· = ',') value.toList).map String.ofList

def ofOptions (kind : String) (options : List TargetOption) : TargetSpec :=
  let device := TargetOption.lastValue "device" options
  { kind
    device
    keys := match TargetOption.lastValue "keys" options with
      | some value => keyList value
      | none => defaultKeys kind device
    attrs := NameTable.ofList
      ((options.filter TargetOption.isAttribute).map fun option => (option.name, option.value)) }

/-- Keys that are the default ones are left out. -/
def options (spec : TargetSpec) : List TargetOption :=
  (spec.device.toList.map fun device => ⟨"device", device⟩) ++
    (if spec.keys = defaultKeys spec.kind spec.device then []
      else [⟨"keys", ",".intercalate spec.keys⟩]) ++
    spec.attrs.entries.map fun entry => ⟨entry.1, entry.2⟩

def display (spec : TargetSpec) : String :=
  " ".intercalate (spec.kind :: spec.options.map TargetOption.token)

def ofWords : List (List Char) → Except TargetFault TargetSpec
  | [] => .error .empty
  | kind :: tokens =>
      if kind.head? = some '-' then .error .kindNotFirst
      else return ofOptions (String.ofList kind) (← tokens.mapM TargetOption.ofToken)

end TargetSpec

namespace Target

def display (target : Target) : String := target.spec.display

def parse (text : String) : Except Failure Target :=
  match TargetSpec.ofWords (Text.words text.toList) with
  | .ok spec => .ok (alone spec)
  | .error fault => .error (fault.failure text)

/-- A bare kind, which is not checked against the grammar. -/
def ofKind (kind : String) : Target := alone (.ofOptions kind [])

end Target

end TuningTasks
