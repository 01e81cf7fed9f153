import TuningTasks.Names.Table

/-!
Compilation targets. A target has a kind, perhaps a device, an ordered list of keys, named
attributes, and perhaps a host, which is a target again.
-/
namespace TuningTasks

structure TargetSpec where
  kind : String
  device : Option String
  keys : List String
  attrs : NameTable String
deriving DecidableEq, Inhabited

inductive Target
  | alone (spec : TargetSpec)
  | hosted (spec : TargetSpec) (host : Target)
deriving DecidableEq

/-- The device comes first, then the key of the kind; accelerator kinds add the key `gpu`. -/
def defaultKeys (kind : String) (device : Option String) : List String :=
  device.toList ++
    if kind = "llvm" ∨ kind = "c" then ["cpu"]
    else if kind ∈ ["cuda", "rocm", "opencl", "vulkan", "metal"] then [kind, "gpu"]
    else [kind]

namespace Target

def spec : Target → TargetSpec
  | alone spec => spec
  | hosted spec _ => spec

def host : Target → Option Target
  | alone _ => none
  | hosted _ host => some host

def ofSpec (spec : TargetSpec) : Option Target → Target
  | none => alone spec
  | some host => hosted spec host

def withHost (target host : Target) : Target := hosted target.spec host

instance : Inhabited Target := ⟨alone default⟩

def device (target : Target) : Option String := target.spec.device

def attr (target : Target) (name : String) : Option String := target.spec.attrs.find? name

end Target

structure TargetPair where
  target : Target
  host : Option Target
deriving DecidableEq, Inhabited

end TuningTasks
