import TuningTasks.Decimal.Binary64
import TuningTasks.Text.Quoted

/-!
Arguments of an operator call, their display, and the calls themselves. Equality is structural at
any tuple depth; a floating point argument is its bits, so `0.0` and `-0.0` differ and a NaN equals
itself.
-/
namespace TuningTasks

inductive Argument
  | tensor (shape : List Int64) (dtype : String)
  | int (value : Int64)
  | float (bits : UInt64)
  | str (text : String)
  | bool (value : Bool)
  | tuple (items : List Argument)
  | absent
deriving Inhabited

namespace Argument

mutual
def same : Argument → Argument → Bool
  | tensor shape dtype, tensor shape' dtype' => shape = shape' && dtype = dtype'
  | int value, int value' => value = value'
  | float bits, float bits' => bits = bits'
  | str text, str text' => text = text'
  | bool value, bool value' => value = value'
  | tuple items, tuple items' => allSame items items'
  | absent, absent => true
  | _, _ => false

def allSame : List Argument → List Argument → Bool
  | [], [] => true
  | head :: rest, head' :: rest' => same head head' && allSame rest rest'
  | _, _ => false
end

mutual
theorem same_iff : ∀ left right : Argument, same left right = true ↔ left = right
  | tensor .., right => by cases right <;> simp [same]
  | int _, right => by cases right <;> simp [same]
  | float _, right => by cases right <;> simp [same]
  | str _, right => by cases right <;> simp [same]
  | bool _, right => by cases right <;> simp [same]
  | tuple items, right => by cases right <;> simp [same, allSame_iff items]
  | absent, right => by cases right <;> simp [same]

theorem allSame_iff : ∀ left right : List Argument, allSame left right = true ↔ left = right
  | [], right => by cases right <;> simp [allSame]
  | head :: rest, right => by cases right <;> simp [allSame, same_iff head, allSame_iff rest]
end

instance : DecidableEq Argument := fun left right => decidable_of_iff _ (same_iff left right)

mutual
def display : Argument → String
  | tensor shape dtype =>
      "tensor([" ++ ", ".intercalate (shape.map fun dim => toString dim.toInt) ++ "], " ++ dtype ++ ")"
  | int value => toString value.toInt
  | float bits => (Decimal.Binary64.ofBits bits).display
  | str text => Text.quoted text
  | bool value => if value then "true" else "false"
  | tuple items => "(" ++ displayItems items ++ ")"
  | absent => "none"

def displayItems : List Argument → String
  | [] => ""
  | [only] => display only
  | head :: next :: rest => display head ++ ", " ++ displayItems (next :: rest)
end

def shape? : Argument → Option (List Int64)
  | tensor shape _ => some shape
  | _ => none

def floatBits? : Argument → Option UInt64
  | float bits => some bits
  | _ => none

def nested (argument : Argument) : (depth : Nat) → Argument
  | 0 => argument
  | depth + 1 => tuple [argument.nested depth]

end Argument

structure Signature where
  arguments : List Argument
deriving DecidableEq, Inhabited

namespace Signature

def display (signature : Signature) : String := (Argument.tuple signature.arguments).display

/-- The shapes of the tensors among the arguments; tensors inside tuples do not count. -/
def shapes (signature : Signature) : List (List Int64) :=
  signature.arguments.filterMap Argument.shape?

end Signature

structure Invocation where
  operator : String
  signature : Signature
deriving DecidableEq, Inhabited

end TuningTasks
