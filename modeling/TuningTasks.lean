import TuningTasks.Proofs.CanonicalPairs
import TuningTasks.Proofs.Containment
import TuningTasks.Proofs.Environment
import TuningTasks.Proofs.Fallback
import TuningTasks.Proofs.GuardOrder
import TuningTasks.Proofs.Interception
import TuningTasks.Proofs.JsonNormal
import TuningTasks.Proofs.Meaning
import TuningTasks.Proofs.Partition
import TuningTasks.Proofs.Poison
import TuningTasks.Proofs.SelfWait
import TuningTasks.Proofs.Suppression
import TuningTasks.Proofs.TargetGrammar
import TuningTasks.Proofs.TargetText
import TuningTasks.Proofs.Templates
import TuningTasks.Proofs.WarnOnce
import TuningTasks.Proofs.WorkloadKey
import TuningTasks.Scenario.Session
