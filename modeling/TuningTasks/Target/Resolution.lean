import TuningTasks.Target.Text

/-!
Canonical pairs of a target and its host. An explicit host takes the place of the target's own and
may not carry a host itself; without one the host inside the target is used.
-/
namespace TuningTasks

def TargetPair.canonical (target : Target) : Option Target → Except Failure TargetPair
  | none => .ok ⟨target, target.host⟩
  | some host =>
      if host.host.isSome then
        .error
          { kind := .targetResolution
            message := "host target for '" ++ target.display ++ "' must not carry its own host" }
      else .ok ⟨target.withHost host, some host⟩

end TuningTasks
