import TuningTasks.Filter
import TuningTasks.Json.Writer
import TuningTasks.Task

/-!
JSON forms of the data model. An argument is an object with one member named for its sort, or the
string `none`; all else are objects with their fields in a fixed order, and a signature is the array
of its arguments.
-/
namespace TuningTasks

open Json

mutual
def Argument.toJson : Argument → Json
  | .tensor shape dtype =>
      record [("tensor", record
        [("shape", array (shape.map fun dim => integer dim.toInt)), ("dtype", Json.text dtype)])]
  | .int value => record [("int", integer value.toInt)]
  | .float bits => record [("float", integer bits.toNat)]
  | .str text => record [("str", Json.text text)]
  | .bool value => record [("bool", Json.bool value)]
  | .tuple items => record [("tuple", array (Argument.listToJson items))]
  | .absent => Json.text "none"

def Argument.listToJson : List Argument → List Json
  | [] => []
  | head :: rest => head.toJson :: Argument.listToJson rest
end

def Signature.toJson (signature : Signature) : Json :=
  array (Argument.listToJson signature.arguments)

def Invocation.toJson (invocation : Invocation) : Json :=
  record
    [("operator", Json.text invocation.operator), ("signature", invocation.signature.toJson)]

def TargetSpec.members (spec : TargetSpec) (host : Json) : Json :=
  record
    [("kind", Json.text spec.kind),
      ("device", ofOption Json.text spec.device),
      ("keys", array (spec.keys.map Json.text)),
      ("attrs", record (spec.attrs.entries.map fun entry => (entry.1, Json.text entry.2))),
      ("host", host)]

def Target.toJson : Target → Json
  | .alone spec => spec.members null
  | .hosted spec host => spec.members host.toJson

def TargetPair.toJson (pair : TargetPair) : Json :=
  record [("target", pair.target.toJson), ("host", ofOption Target.toJson pair.host)]

def Task.toJson (task : Task) : Json :=
  record
    [("name", Json.text task.name),
      ("args", task.args.toJson),
      ("target", task.target.toJson),
      ("template_key", ofOption Json.text task.template)]

def Filter.toJson (filter : Filter) : Json :=
  record [("operators", array (filter.operators.names.map Json.text))]

/-- The text that names the workload of a task: its operator and arguments, whatever the target and
the template. -/
def Task.workloadKey (task : Task) : String :=
  (array [Json.text task.name, task.args.toJson]).write

end TuningTasks
