/-!
What a pipeline remembers while it runs without tuned schedules: a configuration for each pair of
target and workload, and the warnings already given. The two do not influence each other.
-/
namespace TuningTasks

structure FallbackCache where
  configs : List ((String × String) × String) := []
  warned : List String := []
deriving DecidableEq, Inhabited

namespace FallbackCache

def hasWarned (cache : FallbackCache) (message : String) : Bool := cache.warned.contains message

def warn (cache : FallbackCache) (message : String) : FallbackCache :=
  if cache.hasWarned message then cache else { cache with warned := message :: cache.warned }

def remember (cache : FallbackCache) (target workload config : String) : FallbackCache :=
  { cache with
    configs := ((target, workload), config) ::
      cache.configs.filter fun entry => entry.1 ≠ (target, workload) }

def lookup? (cache : FallbackCache) (target workload : String) : Option String :=
  (cache.configs.find? fun entry => entry.1 = (target, workload)).map Prod.snd

end FallbackCache

end TuningTasks
