/-!
JSON values as far as this library uses them. A number that is no plain integer, and a string whose
escapes leave a surrogate unpaired, are well-formed and can be skipped, but have no value here.
-/
namespace TuningTasks

inductive Json
  | null
  | bool (value : Bool)
  | number (value : Option Int)
  | string (text : Option String)
  | array (items : List Json)
  | object (members : List (Option String × Json))
deriving Inhabited

namespace Json

mutual
/-- How many containers are open at once where the value is deepest. -/
def depth : Json → Nat
  | array items => 1 + itemsDepth items
  | object members => 1 + membersDepth members
  | _ => 0

def itemsDepth : List Json → Nat
  | [] => 0
  | item :: rest => max item.depth (itemsDepth rest)

def membersDepth : List (Option String × Json) → Nat
  | [] => 0
  | (_, value) :: rest => max value.depth (membersDepth rest)
end

def text (value : String) : Json := string (some value)

def integer (value : Int) : Json := number (some value)

def record (members : List (String × Json)) : Json :=
  object (members.map fun member => (some member.1, member.2))

def ofOption {α : Type} (write : α → Json) : Option α → Json
  | none => null
  | some value => write value

end Json

end TuningTasks
