import TuningTasks.Filter

/-!
Filters made from graph operators. Such a filter accepts the operators of the table that one of the given
names lowers to and no others, so it depends on the set of names alone and joined lists give the union; the
first name that nothing lowers from is refused (`Filter.ofGraphOps_exact`).
-/
namespace TuningTasks

namespace Operator

def Tunable (graphOp : String) : Prop := ∃ operator ∈ all, graphOp ∈ operator.graphOps

/-- The name is that of an operator in the table to which one of the graph operators lowers. -/
def Reached (graphOps : List String) (name : String) : Prop :=
  ∃ operator ∈ all, operator.name = name ∧ ∃ graphOp ∈ graphOps, graphOp ∈ operator.graphOps

variable {graphOp name : String} {graphOps others : List String}

theorem mem_loweredFrom {operator : Operator} :
    operator ∈ loweredFrom graphOp ↔ operator ∈ all ∧ graphOp ∈ operator.graphOps := by
  rw [loweredFrom, List.mem_filter, List.contains_iff_mem]

theorem loweredFrom_eq_nil : loweredFrom graphOp = [] ↔ ¬Tunable graphOp := by
  rw [List.eq_nil_iff_forall_not_mem]
  simp only [mem_loweredFrom, Tunable, not_exists]

theorem not_reached_nil : ¬Reached [] name := by
  rintro ⟨-, -, -, graphOp, none, -⟩
  cases none

theorem reached_single : Reached [graphOp] name ↔ ∃ operator ∈ loweredFrom graphOp, operator.name = name := by
  constructor
  · rintro ⟨operator, listed, same, other, here, lowers⟩
    obtain rfl := List.mem_singleton.mp here
    exact ⟨operator, mem_loweredFrom.mpr ⟨listed, lowers⟩, same⟩
  · rintro ⟨operator, lowered, same⟩
    obtain ⟨listed, lowers⟩ := mem_loweredFrom.mp lowered
    exact ⟨operator, listed, same, graphOp, List.mem_singleton_self graphOp, lowers⟩

theorem reached_append : Reached (graphOps ++ others) name ↔ Reached graphOps name ∨ Reached others name := by
  constructor
  · rintro ⟨operator, listed, same, graphOp, given, lowers⟩
    rcases List.mem_append.mp given with early | late
    · exact .inl ⟨operator, listed, same, graphOp, early, lowers⟩
    · exact .inr ⟨operator, listed, same, graphOp, late, lowers⟩
  · rintro (⟨operator, listed, same, graphOp, given, lowers⟩ | ⟨operator, listed, same, graphOp, given, lowers⟩)
    · exact ⟨operator, listed, same, graphOp, List.mem_append_left others given, lowers⟩
    · exact ⟨operator, listed, same, graphOp, List.mem_append_right graphOps given, lowers⟩

theorem Reached.mono (within : ∀ graphOp ∈ graphOps, graphOp ∈ others) (reached : Reached graphOps name) :
    Reached others name := by
  obtain ⟨operator, listed, same, graphOp, given, lowers⟩ := reached
  exact ⟨operator, listed, same, graphOp, within graphOp given, lowers⟩

end Operator

namespace Filter

open Operator

variable {filter result : Filter} {graphOp name : String} {graphOps others : List String} {failure : Failure}

theorem mem_operators : name ∈ filter.operators.names ↔ filter.accepts name = true :=
  List.contains_iff_mem.symm

theorem ext_accepts {left right : Filter} (same : ∀ name, left.accepts name = true ↔ right.accepts name = true) :
    left = right := by
  have listed : left.operators.names = right.operators.names :=
    Names.increasing_ext id left.operators.increasing right.operators.increasing fun name =>
      mem_operators.trans ((same name).trans mem_operators.symm)
  have operators := NameSet.ext listed
  cases left
  cases right
  cases operators
  rfl

def widened (filter : Filter) (graphOp : String) : Filter :=
  ⟨filter.operators.insertAll ((loweredFrom graphOp).map Operator.name)⟩

theorem accepts_widened : (filter.widened graphOp).accepts name = true ↔
    filter.accepts name = true ∨ Reached [graphOp] name := by
  rw [accepts, widened, NameSet.contains_insertAll, Bool.or_eq_true, List.contains_iff_mem, List.mem_map,
    or_comm, reached_single]
  rfl

theorem addGraphOps_tunable (tunable : Tunable graphOp) (rest : List String) :
    filter.addGraphOps (graphOp :: rest) = (filter.widened graphOp).addGraphOps rest := by
  rw [addGraphOps]
  split
  · rename_i none
    exact absurd tunable (loweredFrom_eq_nil.mp none)
  · rfl

theorem addGraphOps_unknown (unknown : ¬Tunable graphOp) (rest : List String) :
    filter.addGraphOps (graphOp :: rest) = .error (notTunable graphOp) := by
  rw [addGraphOps, loweredFrom_eq_nil.mpr unknown]

/-- What is added to a filter is what the graph operators lower to. -/
theorem accepts_addGraphOps (added : filter.addGraphOps graphOps = .ok result) (name : String) :
    result.accepts name = true ↔ filter.accepts name = true ∨ Reached graphOps name := by
  induction graphOps generalizing filter with
  | nil =>
      cases added
      simp [not_reached_nil]
  | cons graphOp rest ih =>
      by_cases tunable : Tunable graphOp
      · rw [addGraphOps_tunable tunable] at added
        rw [ih added, accepts_widened, or_assoc, ← reached_append, List.singleton_append]
      · rw [addGraphOps_unknown tunable] at added
        cases added

theorem exists_addGraphOps :
    (∃ result, filter.addGraphOps graphOps = .ok result) ↔ ∀ graphOp ∈ graphOps, Tunable graphOp := by
  induction graphOps generalizing filter with
  | nil => exact ⟨fun _ => List.forall_mem_nil _, fun _ => ⟨filter, rfl⟩⟩
  | cons graphOp rest ih =>
      rw [List.forall_mem_cons]
      by_cases tunable : Tunable graphOp
      · rw [addGraphOps_tunable tunable, ih, and_iff_right tunable]
      · rw [addGraphOps_unknown tunable]
        exact ⟨fun ⟨_, added⟩ => (nomatch added), fun each => absurd each.1 tunable⟩

/-- The first graph operator that nothing lowers from is told of, whatever comes after it. -/
theorem addGraphOps_error : filter.addGraphOps graphOps = .error failure ↔
    ∃ before graphOp after, graphOps = before ++ graphOp :: after ∧ (∀ known ∈ before, Tunable known) ∧
      ¬Tunable graphOp ∧ failure = notTunable graphOp := by
  induction graphOps generalizing filter with
  | nil =>
      constructor
      · rintro ⟨⟩
      · rintro ⟨before, graphOp, after, none, -⟩
        simp at none
  | cons graphOp rest ih =>
      by_cases tunable : Tunable graphOp
      · -- The name that is refused is a later one, so the split moves one place on.
        rw [addGraphOps_tunable tunable, ih]
        constructor
        · rintro ⟨before, unknown, after, rfl, known, rest⟩
          exact ⟨graphOp :: before, unknown, after, rfl, List.forall_mem_cons.mpr ⟨tunable, known⟩, rest⟩
        · rintro ⟨before, other, after, parts, known, unknown, told⟩
          cases before with
          | nil =>
              cases parts
              exact absurd tunable unknown
          | cons first before =>
              cases parts
              exact ⟨before, other, after, rfl, (List.forall_mem_cons.mp known).2, unknown, told⟩
      · -- The first name is the one: a split further on would have it among the known ones.
        rw [addGraphOps_unknown tunable]
        constructor
        · rintro ⟨⟩
          exact ⟨[], graphOp, rest, rfl, List.forall_mem_nil _, tunable, rfl⟩
        · rintro ⟨before, other, after, parts, known, unknown, rfl⟩
          cases before with
          | nil =>
              cases parts
              rfl
          | cons first before =>
              cases parts
              exact absurd (known graphOp List.mem_cons_self) tunable

theorem accepts_ofGraphOps (made : ofGraphOps graphOps = .ok filter) (name : String) :
    filter.accepts name = true ↔ Reached graphOps name := by
  have empty : (⟨.empty⟩ : Filter).accepts name = false := rfl
  rw [accepts_addGraphOps made, empty]
  simp

/-- The filter that is made is the one that accepts what is reached. -/
theorem ofGraphOps_ok : ofGraphOps graphOps = .ok filter ↔
    (∀ graphOp ∈ graphOps, Tunable graphOp) ∧
      ∀ name, filter.accepts name = true ↔ Reached graphOps name := by
  constructor
  · intro made
    exact ⟨exists_addGraphOps.mp ⟨filter, made⟩, accepts_ofGraphOps made⟩
  · rintro ⟨tunable, accepts⟩
    obtain ⟨other, made⟩ : ∃ other, ofGraphOps graphOps = .ok other := exists_addGraphOps.mpr tunable
    have same : other = filter := ext_accepts fun name =>
      (accepts_ofGraphOps made name).trans (accepts name).symm
    rw [made, same]

theorem ofGraphOps_congr (same : ∀ graphOp, graphOp ∈ others ↔ graphOp ∈ graphOps) :
    ofGraphOps others = .ok filter ↔ ofGraphOps graphOps = .ok filter := by
  have reached (name : String) : Reached others name ↔ Reached graphOps name :=
    ⟨Reached.mono fun graphOp => (same graphOp).mp, Reached.mono fun graphOp => (same graphOp).mpr⟩
  simp only [ofGraphOps_ok, same, reached]

theorem ofGraphOps_append : ofGraphOps (graphOps ++ others) = .ok filter ↔
    ∃ one other, ofGraphOps graphOps = .ok one ∧ ofGraphOps others = .ok other ∧
      ∀ name, filter.accepts name = true ↔ one.accepts name = true ∨ other.accepts name = true := by
  constructor
  · intro made
    obtain ⟨tunable, accepts⟩ := ofGraphOps_ok.mp made
    obtain ⟨early, late⟩ := List.forall_mem_append.mp tunable
    obtain ⟨one, first⟩ : ∃ one, ofGraphOps graphOps = .ok one := exists_addGraphOps.mpr early
    obtain ⟨other, second⟩ : ∃ other, ofGraphOps others = .ok other := exists_addGraphOps.mpr late
    refine ⟨one, other, first, second, fun name => ?_⟩
    rw [accepts, reached_append, accepts_ofGraphOps first, accepts_ofGraphOps second]
  · rintro ⟨one, other, first, second, accepts⟩
    obtain ⟨early, reachedFirst⟩ := ofGraphOps_ok.mp first
    obtain ⟨late, reachedSecond⟩ := ofGraphOps_ok.mp second
    refine ofGraphOps_ok.mpr ⟨List.forall_mem_append.mpr ⟨early, late⟩, fun name => ?_⟩
    rw [accepts, reachedFirst, reachedSecond, reached_append]

/-- Which lists of graph operators make a filter and which one, in what order it lists its operators, what
the order and the repetitions in the list come to, and which name is told of otherwise. -/
theorem ofGraphOps_exact (graphOps : List String) :
    ((∃ filter, ofGraphOps graphOps = .ok filter) ↔ ∀ graphOp ∈ graphOps, Tunable graphOp) ∧
    (∀ filter, ofGraphOps graphOps = .ok filter →
      (∀ name, filter.accepts name = true ↔ Reached graphOps name) ∧
        filter.operators.names.Pairwise (· < ·) ∧
        ∀ name, name ∈ filter.operators.names ↔ filter.accepts name = true) ∧
    (∀ others, (∀ graphOp, graphOp ∈ others ↔ graphOp ∈ graphOps) →
      ∀ filter, ofGraphOps others = .ok filter ↔ ofGraphOps graphOps = .ok filter) ∧
    (∀ others filter, ofGraphOps (graphOps ++ others) = .ok filter ↔
      ∃ one other, ofGraphOps graphOps = .ok one ∧ ofGraphOps others = .ok other ∧
        ∀ name, filter.accepts name = true ↔ one.accepts name = true ∨ other.accepts name = true) ∧
    ∀ failure, ofGraphOps graphOps = .error failure ↔
      ∃ before graphOp after, graphOps = before ++ graphOp :: after ∧ (∀ known ∈ before, Tunable known) ∧
        ¬Tunable graphOp ∧
        failure = { kind := .invalidInput, operator := some graphOp,
                    message := "graph operator '" ++ graphOp ++ "' has no tunable implementation" } := by
  refine ⟨exists_addGraphOps, fun filter made => ?_, fun _ same _ => ofGraphOps_congr same,
    fun _ _ => ofGraphOps_append, fun _ => addGraphOps_error⟩
  exact ⟨accepts_ofGraphOps made, filter.operators.increasing, fun _ => mem_operators⟩

theorem ofGraphOps_exact_repeated :
    let filter := ofList ["dense", "conv3d_ncdhw"]
    ofGraphOps ["nn.dense", "nn.conv3d", "nn.dense"] = .ok filter ∧
      ofGraphOps ["nn.conv3d", "nn.dense"] = .ok filter ∧
      filter.operators.names.Pairwise (· < ·) ∧
      ofGraphOps ["nn.dense", "nn.relu", "nn.conv3d", "nn.softmax"] = .error (notTunable "nn.relu") := by
  intro filter
  have made : ofGraphOps ["nn.dense", "nn.conv3d", "nn.dense"] = .ok filter := by rfl
  obtain ⟨-, lists, congruent, -, -⟩ := ofGraphOps_exact ["nn.dense", "nn.conv3d", "nn.dense"]
  have same : ∀ graphOp, graphOp ∈ ["nn.conv3d", "nn.dense"] ↔
      graphOp ∈ ["nn.dense", "nn.conv3d", "nn.dense"] := by simp [or_comm]
  obtain ⟨-, increasing, -⟩ := lists filter made
  exact ⟨made, (congruent _ same filter).mpr made, increasing, by rfl⟩

end Filter

end TuningTasks
