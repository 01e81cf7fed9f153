import TuningTasks.Json.Encode
import TuningTasks.Json.Reader

/-!
Reading the data model from JSON values. A budget bounds how many containers may still be opened for
a value that is used; what is skipped costs nothing. A structure is an object, or an array of all
its fields in order; unknown members are skipped, a known one may occur once, and only optional
fields may be missing.
-/
namespace TuningTasks

namespace Json

def depthLimit : Nat := 127

def text? : Json → Option String
  | string text => text
  | _ => none

def bool? : Json → Option Bool
  | bool value => some value
  | _ => none

def int64? : Json → Option Int64
  | number (some value) =>
      if Int64.minValue.toInt ≤ value && value ≤ Int64.maxValue.toInt then
        some (Int64.ofInt value)
      else none
  | _ => none

def uint64? : Json → Option UInt64
  | number (some value) =>
      if 0 ≤ value && value.toNat < UInt64.size then some (UInt64.ofNat value.toNat) else none
  | _ => none

/-- `null` stands for absence. -/
def optional? {α : Type} (read : Json → Option α) : Json → Option (Option α)
  | null => some none
  | json => (read json).map some

def list? {α : Type} (read : Nat → Json → Option α) : Nat → Json → Option (List α)
  | budget + 1, array items => items.mapM (read budget)
  | _, _ => none

def names? (members : List (Option String × Json)) : Option (List String) :=
  members.mapM Prod.fst

/-- An object opens one container; of several members with one name the last counts. -/
def table? {α : Type} (read : Nat → Json → Option α) : Nat → Json → Option (NameTable α)
  | budget + 1, object members => do
      let entries ← members.mapM fun member => do
        return (← member.1, ← read budget member.2)
      return .ofList entries
  | _, _ => none

def fields? (names : List String) : Json → Option (List (Option Json))
  | object members => do
      let given ← names? members
      if names.any fun name => 1 < given.count name then none
      else return names.map fun name =>
        (members.find? fun member => member.1 = some name).map Prod.snd
  | array items => if items.length = names.length then some (items.map some) else none
  | _ => none

def optionalField? {α : Type} (read : Json → Option α) : Option Json → Option (Option α)
  | none => some none
  | some json => optional? read json

end Json

open Json

def Argument.tensorOfJson? : Nat → Json → Option Argument
  | budget + 1, json => do
      match ← json.fields? ["shape", "dtype"] with
      | [some shape, some dtype] =>
          return .tensor (← list? (fun _ => int64?) budget shape) (← dtype.text?)
      | _ => none
  | _, _ => none

def Argument.ofJson? : Nat → Json → Option Argument
  | _, string (some name) => if name = "none" then some .absent else none
  | budget + 1, object [(some name, content)] =>
      if name = "tensor" then tensorOfJson? budget content
      else if name = "int" then content.int64?.map .int
      else if name = "float" then content.uint64?.map .float
      else if name = "str" then content.text?.map .str
      else if name = "bool" then content.bool?.map .bool
      else if name = "tuple" then
        match budget, content with
        | inner + 1, array items => (items.mapM (ofJson? inner)).map .tuple
        | _, _ => none
      else if name = "none" then
        match content with
        | null => some .absent
        | _ => none
      else none
  | _, _ => none

def Signature.ofJson? (budget : Nat) (json : Json) : Option Signature :=
  (list? Argument.ofJson? budget json).map Signature.mk

def Invocation.ofJson? : Nat → Json → Option Invocation
  | budget + 1, json => do
      match ← json.fields? ["operator", "signature"] with
      | [some operator, some signature] =>
          return ⟨← operator.text?, ← Signature.ofJson? budget signature⟩
      | _ => none
  | _, _ => none

def Target.ofJson? : Nat → Json → Option Target
  | budget + 1, json => do
      match ← json.fields? ["kind", "device", "keys", "attrs", "host"] with
      | [some kind, device, some keys, some attrs, host] =>
          let spec : TargetSpec :=
            ⟨← kind.text?, ← optionalField? text? device, ← list? (fun _ => text?) budget keys,
              ← table? (fun _ => text?) budget attrs⟩
          return .ofSpec spec (← optionalField? (ofJson? budget) host)
      | _ => none
  | _, _ => none

def TargetPair.ofJson? : Nat → Json → Option TargetPair
  | budget + 1, json => do
      match ← json.fields? ["target", "host"] with
      | [some target, host] =>
          return ⟨← Target.ofJson? budget target, ← optionalField? (Target.ofJson? budget) host⟩
      | _ => none
  | _, _ => none

def Task.ofJson? : Nat → Json → Option Task
  | budget + 1, json => do
      match ← json.fields? ["name", "args", "target", "template_key"] with
      | [some name, some args, some target, template] =>
          return ⟨← name.text?, ← Signature.ofJson? budget args, ← Target.ofJson? budget target,
            ← optionalField? text? template⟩
      | _ => none
  | _, _ => none

def Filter.ofJson? : Nat → Json → Option Filter
  | budget + 1, json => do
      match ← json.fields? ["operators"] with
      | [some operators] => return .ofList (← list? (fun _ => text?) budget operators)
      | _ => none
  | _, _ => none

def Json.decode? {α : Type} (ofJson? : Nat → Json → Option α) (text : String) : Option α :=
  (Json.read? text).bind (ofJson? depthLimit)

end TuningTasks
