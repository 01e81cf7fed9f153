import TuningTasks.Proofs.JsonForms

/-!
The JSON that is written for what was read. A reader accepts many texts for one value, and the text that
is written back is one of them: its form never nests deeper than what the reader opened for the value
(`Json.Covers`), so it is read again, and rewriting it changes nothing (`Json.dataModel_normalizes`).
-/
namespace TuningTasks

namespace Json

variable {α β : Type}

/-- For every value that is read, the budget covers the form that is written. -/
def Covers (read : Nat → Json → Option α) (write : α → Json) : Prop :=
  ∀ budget json value, read budget json = some value → (write value).depth ≤ budget

/-! ### Parts of a form -/

theorem itemsDepth_le {items : List Json} {bound : Nat} :
    itemsDepth items ≤ bound ↔ ∀ item ∈ items, item.depth ≤ bound := by
  induction items with
  | nil => simp [itemsDepth]
  | cons item rest ih => rw [itemsDepth, Nat.max_le, ih, List.forall_mem_cons]

theorem membersDepth_le {members : List (Option String × Json)} {bound : Nat} :
    membersDepth members ≤ bound ↔ ∀ member ∈ members, member.2.depth ≤ bound := by
  induction members with
  | nil => simp [membersDepth]
  | cons member rest ih => rw [membersDepth, Nat.max_le, ih, List.forall_mem_cons]

theorem depth_record_le {members : List (String × Json)} {bound : Nat} :
    (record members).depth ≤ bound + 1 ↔ ∀ member ∈ members, member.2.depth ≤ bound := by
  rw [record, depth, Nat.add_comm, Nat.add_le_add_iff_right, membersDepth_le, List.forall_mem_map]

theorem depth_array_le {items : List Json} {bound : Nat} :
    (array items).depth ≤ bound + 1 ↔ ∀ item ∈ items, item.depth ≤ bound := by
  rw [depth, Nat.add_comm, Nat.add_le_add_iff_right, itemsDepth_le]

theorem mem_of_mapM {read : α → Option β} {items : List α} {values : List β}
    (each : items.mapM read = some values) :
    ∀ value ∈ values, ∃ item ∈ items, read item = some value := by
  induction items generalizing values with
  | nil =>
      cases each
      exact fun _ none => nomatch none
  | cons item rest ih =>
      rw [List.mapM_cons] at each
      obtain ⟨first, here, each⟩ := Option.bind_eq_some_iff.mp each
      obtain ⟨others, later, each⟩ := Option.bind_eq_some_iff.mp each
      cases each
      intro value inside
      rcases List.mem_cons.mp inside with rfl | inside
      · exact ⟨item, List.mem_cons_self, here⟩
      · obtain ⟨other, member, same⟩ := ih later value inside
        exact ⟨other, List.mem_cons_of_mem item member, same⟩

theorem covers_plain {read : Nat → Json → Option α} {write : α → Json}
    (plain : ∀ value, (write value).depth = 0) : Covers read write := by
  intro budget json value _
  rw [plain]
  exact Nat.zero_le budget

theorem covers_list {read : Nat → Json → Option α} {write : α → Json} (covers : Covers read write) :
    Covers (list? read) fun values => array (values.map write) := by
  intro budget json values found
  unfold list? at found
  split at found
  · rename_i budget items
    apply depth_array_le.mpr
    intro item member
    obtain ⟨value, inside, rfl⟩ := List.mem_map.mp member
    obtain ⟨source, -, same⟩ := mem_of_mapM found value inside
    exact covers _ source value same
  · cases found

theorem covers_optional {read : Json → Option α} {write : α → Json} {budget : Nat}
    (covers : ∀ json value, read json = some value → (write value).depth ≤ budget)
    {field : Option Json} {value : Option α} (found : optionalField? read field = some value) :
    (ofOption write value).depth ≤ budget := by
  cases value with
  | none => exact Nat.zero_le _
  | some value =>
      cases field with
      | none => cases found
      | some json =>
          cases json with
          | null => cases found
          | bool | number | string | array | object =>
              obtain ⟨_, same, equal⟩ := Option.map_eq_some_iff.mp found
              cases equal
              exact covers _ value same

theorem covers_table {read : Nat → Json → Option α} {write : α → Json}
    (shallow : ∀ value, (write value).depth = 0) :
    Covers (table? read) fun table => record (table.entries.map fun entry => (entry.1, write entry.2)) := by
  intro budget json table found
  unfold table? at found
  split at found
  · apply depth_record_le.mpr
    intro member inside
    obtain ⟨entry, -, rfl⟩ := List.mem_map.mp inside
    rw [shallow]
    exact Nat.zero_le _
  · cases found

end Json

open Json

/-! ### The data model -/

theorem covers_text : Covers (fun _ => text?) Json.text := covers_plain fun _ => rfl

theorem Argument.covers_tensor {budget : Nat} {json : Json} {value : Argument}
    (found : tensorOfJson? budget json = some value) : value.toJson.depth ≤ budget + 1 := by
  unfold tensorOfJson? at found
  split at found
  · obtain ⟨fields, -, found⟩ := Option.bind_eq_some_iff.mp found
    split at found
    · obtain ⟨dims, shape, found⟩ := Option.bind_eq_some_iff.mp found
      obtain ⟨type, -, found⟩ := Option.bind_eq_some_iff.mp found
      cases found
      have plain : Covers (fun _ => int64?) fun dim => integer dim.toInt := covers_plain fun _ => rfl
      have bound := covers_list plain _ _ _ shape
      simp only [toJson, depth_record_le, List.forall_mem_cons]
      exact ⟨⟨bound, Nat.zero_le _, List.forall_mem_nil _⟩, List.forall_mem_nil _⟩
    · cases found
  · cases found

/-- An argument opens at most one container without its content, and a tuple one more for its items. -/
theorem Argument.ofJson?_cases {budget : Nat} {json : Json} {value : Argument}
    (found : ofJson? budget json = some value) :
    value.toJson.depth ≤ budget ∨ ∃ (inner : Nat) (items : List Json) (parts : List Argument),
      budget = inner + 2 ∧ items.mapM (ofJson? inner) = some parts ∧ value = .tuple parts := by
  unfold ofJson? at found
  split at found
  · split at found
    · cases found
      exact Or.inl (Nat.zero_le _)
    · cases found
  · rename_i budget name content
    have plain : ∀ {made : Argument}, made.toJson.depth ≤ 1 → made.toJson.depth ≤ budget + 1 :=
      fun bound => Nat.le_trans bound (Nat.le_add_left 1 budget)
    split at found
    · exact Or.inl (covers_tensor found)
    split at found
    · obtain ⟨number, -, rfl⟩ := Option.map_eq_some_iff.mp found
      exact Or.inl (plain (Nat.le_refl 1))
    split at found
    · obtain ⟨bits, -, rfl⟩ := Option.map_eq_some_iff.mp found
      exact Or.inl (plain (Nat.le_refl 1))
    split at found
    · obtain ⟨text, -, rfl⟩ := Option.map_eq_some_iff.mp found
      exact Or.inl (plain (Nat.le_refl 1))
    split at found
    · obtain ⟨flag, -, rfl⟩ := Option.map_eq_some_iff.mp found
      exact Or.inl (plain (Nat.le_refl 1))
    split at found
    · split at found
      · obtain ⟨parts, each, rfl⟩ := Option.map_eq_some_iff.mp found
        exact Or.inr ⟨_, _, parts, rfl, each, rfl⟩
      · cases found
    split at found
    · split at found
      · cases found
        exact Or.inl (Nat.zero_le _)
      · cases found
    · cases found
  · cases found

theorem Argument.covers : Covers ofJson? toJson := by
  intro budget
  -- A tuple opens two containers at once, its own and that of its items.
  induction budget using Nat.strongRecOn with
  | ind budget ih =>
      intro json value found
      rcases ofJson?_cases found with covered | ⟨inner, items, parts, rfl, each, rfl⟩
      · exact covered
      · have covered : ∀ part ∈ parts, part.toJson.depth ≤ inner := by
          intro part inside
          obtain ⟨item, -, same⟩ := mem_of_mapM each part inside
          exact ih inner (by omega) item part same
        simp only [toJson, listToJson_eq, depth_record_le, depth_array_le, List.forall_mem_cons,
          List.forall_mem_map]
        exact ⟨covered, List.forall_mem_nil _⟩

theorem Signature.covers : Covers ofJson? toJson := by
  intro budget json value found
  obtain ⟨arguments, each, rfl⟩ := Option.map_eq_some_iff.mp found
  rw [toJson, Argument.listToJson_eq]
  exact covers_list Argument.covers budget json arguments each

theorem Invocation.covers : Covers ofJson? toJson := by
  intro budget json value found
  unfold ofJson? at found
  split at found
  · obtain ⟨fields, -, found⟩ := Option.bind_eq_some_iff.mp found
    split at found
    · obtain ⟨operator, -, found⟩ := Option.bind_eq_some_iff.mp found
      obtain ⟨signature, args, found⟩ := Option.bind_eq_some_iff.mp found
      cases found
      simp only [toJson, depth_record_le, List.forall_mem_cons]
      exact ⟨Nat.zero_le _, Signature.covers _ _ signature args, List.forall_mem_nil _⟩
    · cases found
  · cases found

theorem Target.toJson_ofSpec (spec : TargetSpec) (host : Option Target) :
    (ofSpec spec host).toJson = spec.members (ofOption toJson host) := by
  cases host <;> rfl

theorem Target.covers : Covers ofJson? toJson := by
  intro budget
  induction budget with
  | zero =>
      intro json value found
      cases found
  | succ budget ih =>
      intro json value found
      rw [ofJson?] at found
      obtain ⟨fields, -, found⟩ := Option.bind_eq_some_iff.mp found
      split at found
      · obtain ⟨kind, -, found⟩ := Option.bind_eq_some_iff.mp found
        obtain ⟨device, given, found⟩ := Option.bind_eq_some_iff.mp found
        obtain ⟨keys, listed, found⟩ := Option.bind_eq_some_iff.mp found
        obtain ⟨attrs, named, found⟩ := Option.bind_eq_some_iff.mp found
        obtain ⟨host, hosted, found⟩ := Option.bind_eq_some_iff.mp found
        cases found
        simp only [toJson_ofSpec, TargetSpec.members, depth_record_le, List.forall_mem_cons]
        exact ⟨Nat.zero_le _, covers_optional (covers_text _) given, covers_list covers_text _ _ _ listed,
          covers_table (fun _ => rfl) _ _ _ named, covers_optional ih hosted, List.forall_mem_nil _⟩
      · cases found

theorem TargetPair.covers : Covers ofJson? toJson := by
  intro budget json value found
  unfold ofJson? at found
  split at found
  · obtain ⟨fields, -, found⟩ := Option.bind_eq_some_iff.mp found
    split at found
    · obtain ⟨target, there, found⟩ := Option.bind_eq_some_iff.mp found
      obtain ⟨host, beside, found⟩ := Option.bind_eq_some_iff.mp found
      cases found
      simp only [toJson, depth_record_le, List.forall_mem_cons]
      exact ⟨Target.covers _ _ target there, covers_optional (Target.covers _) beside,
        List.forall_mem_nil _⟩
    · cases found
  · cases found

theorem Task.covers : Covers ofJson? toJson := by
  intro budget json value found
  unfold ofJson? at found
  split at found
  · obtain ⟨fields, -, found⟩ := Option.bind_eq_some_iff.mp found
    split at found
    · obtain ⟨name, -, found⟩ := Option.bind_eq_some_iff.mp found
      obtain ⟨args, given, found⟩ := Option.bind_eq_some_iff.mp found
      obtain ⟨target, there, found⟩ := Option.bind_eq_some_iff.mp found
      obtain ⟨template, named, found⟩ := Option.bind_eq_some_iff.mp found
      cases found
      simp only [toJson, depth_record_le, List.forall_mem_cons]
      exact ⟨Nat.zero_le _, Signature.covers _ _ args given, Target.covers _ _ target there,
        covers_optional (covers_text _) named, List.forall_mem_nil _⟩
    · cases found
  · cases found

theorem Filter.covers : Covers ofJson? toJson := by
  intro budget json value found
  unfold ofJson? at found
  split at found
  · obtain ⟨fields, -, found⟩ := Option.bind_eq_some_iff.mp found
    split at found
    · obtain ⟨operators, listed, found⟩ := Option.bind_eq_some_iff.mp found
      cases found
      -- The names nest no deeper than the array that was opened for them, whatever became of them.
      have opened : 1 ≤ _ := Nat.le_trans (Nat.le_add_right 1 _) (covers_list covers_text _ _ _ listed)
      obtain ⟨inner, rfl⟩ := Nat.exists_eq_add_of_le' opened
      simp only [toJson, depth_record_le, depth_array_le, List.forall_mem_cons, List.forall_mem_map]
      exact ⟨fun _ _ => Nat.zero_le _, List.forall_mem_nil _⟩
    · cases found
  · cases found

namespace Json

/-! ### Rewriting -/

section

variable (ofJson? : Nat → Json → Option α) (toJson : α → Json)

def rewrite? (text : String) : Option String :=
  (decode? ofJson? text).map fun value => (toJson value).write

/-- What is rewritten nests within the limit, is read as the same value and stays as it is when it is
rewritten again, so that it tells the values of any two texts apart. -/
structure Normalizes : Prop where
  nests : ∀ text again, rewrite? ofJson? toJson text = some again → nesting again ≤ 127
  reads : ∀ text again, rewrite? ofJson? toJson text = some again →
    decode? ofJson? again = decode? ofJson? text
  settles : ∀ text again, rewrite? ofJson? toJson text = some again →
    rewrite? ofJson? toJson again = some again
  identifies : ∀ text other, rewrite? ofJson? toJson text = rewrite? ofJson? toJson other ↔
    decode? ofJson? text = decode? ofJson? other

variable {ofJson? toJson}

theorem decode?_write (reads : ∀ value, Reads ofJson? (toJson value) value)
    (covers : Covers ofJson? toJson) {text : String} {value : α}
    (found : decode? ofJson? text = some value) :
    nesting (toJson value).write ≤ 127 ∧ decode? ofJson? (toJson value).write = some value := by
  obtain ⟨json, -, read⟩ := Option.bind_eq_some_iff.mp found
  have covered := covers depthLimit json value read
  constructor
  · rw [nesting_write]
    exact covered
  · rw [decode?, read_write, Option.bind_some, reads value depthLimit, within, if_pos covered]

theorem normalizes_of_covers (reads : ∀ value, Reads ofJson? (toJson value) value)
    (covers : Covers ofJson? toJson) : Normalizes ofJson? toJson := by
  have rewritten : ∀ text again, rewrite? ofJson? toJson text = some again →
      nesting again ≤ 127 ∧ decode? ofJson? again = decode? ofJson? text := by
    intro text again wrote
    obtain ⟨value, found, rfl⟩ := Option.map_eq_some_iff.mp wrote
    rw [found]
    exact decode?_write reads covers found
  constructor
  · exact fun text again wrote => (rewritten text again wrote).1
  · exact fun text again wrote => (rewritten text again wrote).2
  · intro text again wrote
    rw [rewrite?, (rewritten text again wrote).2]
    exact wrote
  · intro text other
    constructor
    · -- Two texts that are rewritten alike have the value of the text that comes out.
      intro same
      cases wrote : rewrite? ofJson? toJson text with
      | none =>
          rw [wrote] at same
          rw [Option.map_eq_none_iff.mp wrote, Option.map_eq_none_iff.mp same.symm]
      | some again =>
          rw [wrote] at same
          rw [← (rewritten text again wrote).2, (rewritten other again same.symm).2]
    · intro same
      rw [rewrite?, rewrite?, same]

end

theorem dataModel_normalizes :
    Normalizes Argument.ofJson? Argument.toJson ∧ Normalizes Signature.ofJson? Signature.toJson ∧
      Normalizes Invocation.ofJson? Invocation.toJson ∧ Normalizes Target.ofJson? Target.toJson ∧
      Normalizes TargetPair.ofJson? TargetPair.toJson ∧ Normalizes Task.ofJson? Task.toJson ∧
      Normalizes Filter.ofJson? Filter.toJson :=
  ⟨normalizes_of_covers Argument.reads Argument.covers,
    normalizes_of_covers Signature.reads Signature.covers,
    normalizes_of_covers Invocation.reads Invocation.covers,
    normalizes_of_covers Target.reads Target.covers,
    normalizes_of_covers TargetPair.reads TargetPair.covers,
    normalizes_of_covers Task.reads Task.covers, normalizes_of_covers Filter.reads Filter.covers⟩

/-- Another order, spaces, an escape, an unknown member and two spellings of an absent argument. -/
theorem dataModel_normalizes_spelled :
    let text := "\x7b \"signature\": [ \x7b\"none\" :null\x7d, \"none\"], \"x\": [[\x7b\x7d]],\n" ++
      "\"oper\\u0061tor\": \"dense\" \x7d"
    let again := "\x7b\"operator\":\"dense\",\"signature\":[\"none\",\"none\"]\x7d"
    rewrite? Invocation.ofJson? Invocation.toJson text = some again ∧ nesting again ≤ 127 ∧
      rewrite? Invocation.ofJson? Invocation.toJson again = some again := by
  intro text again
  have wrote : rewrite? Invocation.ofJson? Invocation.toJson text = some again := by decide +kernel
  obtain ⟨-, -, invocations, -⟩ := dataModel_normalizes
  exact ⟨wrote, invocations.nests text again wrote, invocations.settles text again wrote⟩

end Json

end TuningTasks
