import TuningTasks.Json.Decode
import TuningTasks.Proofs.JsonText

/-!
The JSON forms of the data model, read back. Each reader gives the value for which a form was written
as long as its budget covers the nesting of the form, and refuses it otherwise (`Json.Reads`). So each
of the seven sorts of data survives being written and read exactly up to the nesting that a reader
allows (`Json.dataModel_roundTrips`).
-/
namespace TuningTasks

namespace Json

variable {α β : Type}

def within (depth budget : Nat) (value : α) : Option α := if depth ≤ budget then some value else none

/-- The form stands for the value, and costs a reader as much as it nests. -/
def Reads (read : Nat → Json → Option α) (json : Json) (value : α) : Prop :=
  ∀ budget, read budget json = within json.depth budget value

theorem within_zero (budget : Nat) (value : α) : within 0 budget value = some value := rfl

theorem within_none (depth : Nat) (value : α) : within (1 + depth) 0 value = none :=
  if_neg (by omega)

theorem within_succ (depth budget : Nat) (value : α) :
    within (1 + depth) (budget + 1) value = within depth budget value := by
  by_cases covered : depth ≤ budget
  · rw [within, within, if_pos covered, if_pos (by omega)]
  · rw [within, within, if_neg covered, if_neg (by omega)]

/-- What is read in turn costs as much as the deepest part. -/
theorem within_bind {first later budget : Nat} {value : α} {result : β} {rest : α → Option β}
    (next : rest value = within later budget result) :
    (within first budget value).bind rest = within (max first later) budget result := by
  by_cases covered : first ≤ budget
  · rw [within, if_pos covered, Option.bind_some, next]
    by_cases enough : later ≤ budget
    · rw [within, within, if_pos enough, if_pos (by omega)]
    · rw [within, within, if_neg enough, if_neg (by omega)]
  · rw [within, if_neg covered, Option.bind_none, within, if_neg (by omega)]

theorem within_map (depth budget : Nat) (value : α) (f : α → β) :
    (within depth budget value).map f = within depth budget (f value) := by
  by_cases covered : depth ≤ budget
  · simp only [within, if_pos covered, Option.map_some]
  · simp only [within, if_neg covered, Option.map_none]

theorem within_bind_some (depth budget : Nat) (value : α) (f : α → β) :
    ((within depth budget value).bind fun value => some (f value)) = within depth budget (f value) := by
  rw [← within_map, Option.map_eq_bind]
  rfl

/-! ### Parts of a form -/

theorem reads_text (text : String) : Reads (fun _ => text?) (Json.text text) text := fun _ => rfl

theorem reads_bool (value : Bool) : Reads (fun _ => bool?) (Json.bool value) value := fun _ => rfl

theorem reads_int64 (value : Int64) : Reads (fun _ => int64?) (integer value.toInt) value := by
  intro budget
  have low : Int64.minValue.toInt ≤ value.toInt := Int64.le_iff_toInt_le.mp (Int64.minValue_le value)
  have high : value.toInt ≤ Int64.maxValue.toInt := Int64.le_iff_toInt_le.mp (Int64.le_maxValue value)
  have inside : (decide (Int64.minValue.toInt ≤ value.toInt) &&
      decide (value.toInt ≤ Int64.maxValue.toInt)) = true := by
    rw [decide_eq_true low, decide_eq_true high]
    rfl
  change (if decide (Int64.minValue.toInt ≤ value.toInt) && decide (value.toInt ≤ Int64.maxValue.toInt)
    then some (Int64.ofInt value.toInt) else none) = some value
  rw [if_pos inside, Int64.ofInt_toInt]

theorem reads_uint64 (value : UInt64) : Reads (fun _ => uint64?) (integer value.toNat) value := by
  intro budget
  have bound : value.toNat < UInt64.size := value.toNat_lt_size
  change (if 0 ≤ (value.toNat : Int) && (value.toNat : Int).toNat < UInt64.size then
    some (UInt64.ofNat (value.toNat : Int).toNat) else none) = some value
  simp [bound]

theorem reads_given {read : Nat → Json → Option α} {json : Json} {value : α}
    (reads : Reads read json value) (shown : json ≠ null) :
    Reads (fun budget json => optionalField? (read budget) (some json)) json (some value) := by
  intro budget
  have given : optionalField? (read budget) (some json) = (read budget json).map some := by
    cases json with
    | null => exact absurd rfl shown
    | _ => rfl
  exact given.trans ((congrArg _ (reads budget)).trans (within_map _ budget value some))

theorem reads_optional {read : Nat → Json → Option α} {write : α → Json}
    (reads : ∀ value, Reads read (write value) value) (shown : ∀ value, write value ≠ null) :
    ∀ value : Option α, Reads (fun budget json => optionalField? (read budget) (some json))
      (ofOption write value) value
  | none => fun _ => rfl
  | some value => reads_given (reads value) (shown value)

theorem reads_mapM {read : Nat → Json → Option α} {write : α → Json} {values : List α}
    (reads : ∀ value ∈ values, Reads read (write value) value) (budget : Nat) :
    (values.map write).mapM (read budget) = within (itemsDepth (values.map write)) budget values := by
  induction values with
  | nil => rfl
  | cons value rest ih =>
      have here := reads value List.mem_cons_self budget
      have later := ih fun other member => reads other (List.mem_cons_of_mem value member)
      rw [List.map_cons, List.mapM_cons, here, later]
      exact within_bind (within_bind_some _ budget rest (value :: ·))

theorem reads_array {read : Nat → Json → Option α} {items : List Json} {values : List α}
    (each : ∀ budget, items.mapM (read budget) = within (itemsDepth items) budget values) :
    Reads (list? read) (array items) values := by
  intro budget
  cases budget with
  | zero => exact (within_none _ _).symm
  | succ budget => rw [list?, each, depth, within_succ]

theorem reads_list {read : Nat → Json → Option α} {write : α → Json} {values : List α}
    (reads : ∀ value ∈ values, Reads read (write value) value) :
    Reads (list? read) (array (values.map write)) values :=
  reads_array (reads_mapM reads)

theorem reads_entries {read : Nat → Json → Option α} {write : α → Json}
    (reads : ∀ value, Reads read (write value) value) (entries : List (String × α)) (budget : Nat) :
    (entries.map fun entry => (some entry.1, write entry.2)).mapM
        (fun member => do return (← member.1, ← read budget member.2)) =
      within (membersDepth (entries.map fun entry => (some entry.1, write entry.2))) budget
        entries := by
  induction entries with
  | nil => rfl
  | cons entry rest ih =>
      have here : (do return (← some entry.1, ← read budget (write entry.2))) =
          within (write entry.2).depth budget entry := by
        have value := reads entry.2 budget
        rw [Option.bind_eq_bind, Option.bind_some, value]
        exact within_bind_some _ budget entry.2 (entry.1, ·)
      rw [List.map_cons, List.mapM_cons, here, ih]
      exact within_bind (within_bind_some _ budget rest (entry :: ·))

theorem reads_table {read : Nat → Json → Option α} {write : α → Json}
    (reads : ∀ value, Reads read (write value) value) (table : NameTable α) :
    Reads (table? read) (record (table.entries.map fun entry => (entry.1, write entry.2))) table := by
  intro budget
  cases budget with
  | zero => exact (within_none _ _).symm
  | succ budget =>
      have built := within_bind_some (membersDepth
        (table.entries.map fun entry => (some entry.1, write entry.2))) budget table.entries
        NameTable.ofList
      rw [NameTable.ofList_entries] at built
      simp only [table?, record, List.map_map, Function.comp_def, reads_entries reads, depth]
      rw [within_succ]
      exact built

theorem names?_record (members : List (String × Json)) :
    names? (members.map fun member => (some member.1, member.2)) = some (members.map Prod.fst) := by
  induction members with
  | nil => rfl
  | cons member rest ih =>
      unfold names? at ih ⊢
      rw [List.map_cons, List.mapM_cons, ih]
      rfl

theorem find?_record {members : List (String × Json)} (distinct : (members.map Prod.fst).Nodup) :
    ∀ member ∈ members, ((members.map fun member => (some member.1, member.2)).find? fun other =>
      other.1 = some member.1).map Prod.snd = some member.2 := by
  induction members with
  | nil => exact fun _ none => nomatch none
  | cons head rest ih =>
      obtain ⟨apart, later⟩ := List.nodup_cons.mp distinct
      intro member inside
      rcases List.mem_cons.mp inside with rfl | inside
      · simp
      · have differ : head.1 ≠ member.1 := fun same => apart (same ▸ List.mem_map_of_mem inside)
        simpa [differ] using ih later member inside

/-- The fields of a structure that was written as an object are found in their order. -/
theorem fields?_record {names : List String} (members : List (String × Json))
    (given : members.map Prod.fst = names) (distinct : names.Nodup) :
    fields? names (record members) = some (members.map fun member => some member.2) := by
  subst given
  have single : ((members.map Prod.fst).any fun name =>
      1 < (members.map Prod.fst).count name) = false := by
    rw [List.any_eq_false]
    intro name _
    simpa using List.nodup_iff_count.mp distinct name
  simp only [fields?, record, names?_record, Option.bind_eq_bind, Option.bind_some, single,
    Bool.false_eq_true, ↓reduceIte, List.map_map]
  exact congrArg some (List.map_congr_left (find?_record distinct))

theorem depth_single (name : String) (value : Json) : (record [(name, value)]).depth = 1 + value.depth :=
  congrArg (1 + ·) (Nat.max_zero value.depth)

theorem reads_record {read : Nat → Json → Option α} {members : List (String × Json)} {value : α}
    (closed : read 0 (record members) = none)
    (opened : ∀ budget, read (budget + 1) (record members) =
      within (membersDepth (members.map fun member => (some member.1, member.2))) budget value) :
    Reads read (record members) value
  | 0 => closed.trans (within_none _ _).symm
  | budget + 1 => (opened budget).trans (within_succ _ budget value).symm

end Json

open Json

/-! ### The forms of the data model -/

theorem Argument.reads_tensor (shape : List Int64) (dtype : String) :
    Reads tensorOfJson?
      (record [("shape", array (shape.map fun dim => integer dim.toInt)), ("dtype", Json.text dtype)])
      (tensor shape dtype) := by
  refine reads_record rfl fun budget => ?_
  have dims := reads_list (fun dim (_ : dim ∈ shape) => reads_int64 dim) budget
  have type : (Json.text dtype).text? = within 0 budget dtype := rfl
  rw [tensorOfJson?, fields?_record]
  case given => rfl
  case distinct => decide
  simp only [Option.bind_eq_bind, Option.bind_some, List.map_cons, List.map_nil, dims, type]
  exact within_bind (within_bind rfl)

theorem Argument.listToJson_eq (items : List Argument) : listToJson items = items.map toJson := by
  induction items with
  | nil => rfl
  | cons head rest ih => rw [listToJson, List.map_cons, ih]

theorem Argument.reads_member {α : Type} {read : Nat → Json → Option α} {content : Json} {value : α}
    (reads : Reads read content value) (name : String) (make : α → Argument)
    (chosen : ∀ budget, ofJson? (budget + 1) (record [(name, content)]) =
      (read budget content).map make) :
    Reads ofJson? (record [(name, content)]) (make value) := by
  intro budget
  rw [depth_single]
  cases budget with
  | zero =>
      rw [within_none]
      simp [record, ofJson?]
  | succ budget => rw [chosen, reads budget, within_map, within_succ]

mutual
theorem Argument.reads : ∀ argument : Argument, Reads ofJson? argument.toJson argument
  | .tensor shape dtype => by
      refine reads_member (reads_tensor shape dtype) "tensor" id fun budget => ?_
      unfold ofJson?
      simp [record]
  | .int value => by
      refine reads_member (reads_int64 value) "int" int fun budget => ?_
      unfold ofJson?
      simp [record]
  | .float bits => by
      refine reads_member (reads_uint64 bits) "float" float fun budget => ?_
      unfold ofJson?
      simp [record]
  | .str text => by
      refine reads_member (reads_text text) "str" str fun budget => ?_
      unfold ofJson?
      simp [record]
  | .bool value => by
      refine reads_member (reads_bool value) "bool" bool fun budget => ?_
      unfold ofJson?
      simp [record]
  | .tuple items => by
      refine reads_member (reads_array (reads_items items)) "tuple" tuple fun budget => ?_
      unfold ofJson?
      cases budget <;> simp [record, list?]
  | .absent => fun budget => by simp [toJson, ofJson?, Json.text, depth, within_zero]

theorem Argument.reads_items : ∀ (items : List Argument) (budget : Nat),
    (listToJson items).mapM (ofJson? budget) = within (itemsDepth (listToJson items)) budget items
  | [], _ => rfl
  | head :: rest, budget => by
      have here := reads head budget
      have later := reads_items rest budget
      rw [listToJson, List.mapM_cons, here, later]
      exact within_bind (within_bind_some _ budget rest (head :: ·))
end

theorem Signature.reads (signature : Signature) : Reads ofJson? signature.toJson signature := by
  intro budget
  have items := reads_list (fun argument (_ : argument ∈ signature.arguments) => argument.reads) budget
  rw [ofJson?, toJson, Argument.listToJson_eq, items, within_map]

theorem Invocation.reads (invocation : Invocation) :
    Reads ofJson? invocation.toJson invocation := by
  refine reads_record rfl fun budget => ?_
  have operator : (Json.text invocation.operator).text? = within 0 budget invocation.operator := rfl
  have signature := invocation.signature.reads budget
  rw [ofJson?, fields?_record]
  case given => rfl
  case distinct => decide
  simp only [Option.bind_eq_bind, Option.bind_some, List.map_cons, List.map_nil, operator, signature]
  exact within_bind (within_bind rfl)

theorem Target.reads_members (spec : TargetSpec) (host : Option Target) {form : Json}
    (reads : Reads (fun budget json => optionalField? (ofJson? budget) (some json)) form host) :
    Reads ofJson? (spec.members form) (ofSpec spec host) := by
  refine reads_record rfl fun budget => ?_
  have kind : (Json.text spec.kind).text? = within 0 budget spec.kind := rfl
  have device := reads_optional reads_text (fun _ => Json.noConfusion) spec.device budget
  have keys := reads_list (fun key (_ : key ∈ spec.keys) => reads_text key) budget
  have attrs := reads_table reads_text spec.attrs budget
  have host := reads budget
  rw [ofJson?, fields?_record]
  case given => rfl
  case distinct => decide
  simp only [Option.bind_eq_bind, Option.bind_some, List.map_cons, List.map_nil, kind, device, keys,
    attrs, host]
  exact within_bind (within_bind (within_bind (within_bind (within_bind rfl))))

theorem Target.toJson_ne_null : ∀ target : Target, target.toJson ≠ null
  | alone _ => Json.noConfusion
  | hosted _ _ => Json.noConfusion

theorem Target.reads : ∀ target : Target, Reads ofJson? target.toJson target
  | alone spec => reads_members spec none fun _ => rfl
  | hosted spec host => reads_members spec (some host) (reads_given host.reads host.toJson_ne_null)

theorem TargetPair.reads (pair : TargetPair) : Reads ofJson? pair.toJson pair := by
  refine reads_record rfl fun budget => ?_
  have target := pair.target.reads budget
  have host := reads_optional Target.reads Target.toJson_ne_null pair.host budget
  rw [ofJson?, fields?_record]
  case given => rfl
  case distinct => decide
  simp only [Option.bind_eq_bind, Option.bind_some, List.map_cons, List.map_nil, target, host]
  exact within_bind (within_bind rfl)

theorem Task.reads (task : Task) : Reads ofJson? task.toJson task := by
  refine reads_record rfl fun budget => ?_
  have name : (Json.text task.name).text? = within 0 budget task.name := rfl
  have args := task.args.reads budget
  have target := task.target.reads budget
  have template := reads_optional reads_text (fun _ => Json.noConfusion) task.template budget
  rw [ofJson?, fields?_record]
  case given => rfl
  case distinct => decide
  simp only [Option.bind_eq_bind, Option.bind_some, List.map_cons, List.map_nil, name, args, target,
    template]
  exact within_bind (within_bind (within_bind (within_bind rfl)))

theorem Filter.reads (filter : Filter) : Reads ofJson? filter.toJson filter := by
  refine reads_record rfl fun budget => ?_
  have operators := reads_list
    (fun name (_ : name ∈ filter.operators.names) => reads_text name) budget
  have listed : ofList filter.operators.names = filter :=
    congrArg Filter.mk (NameSet.ofList_names filter.operators)
  rw [ofJson?, fields?_record]
  case given => rfl
  case distinct => decide
  simp only [Option.bind_eq_bind, Option.bind_some, List.map_cons, List.map_nil, operators]
  exact within_bind (congrArg some listed)

namespace Json

/-- Each value is read back from its own text as long as this text opens at most 127 containers inside
each other, and is refused otherwise. -/
def RoundTrips {α : Type} (ofJson? : Nat → Json → Option α) (toJson : α → Json) : Prop :=
  ∀ value, decode? ofJson? (toJson value).write =
    if nesting (toJson value).write ≤ 127 then some value else none

theorem roundTrips_of_reads {α : Type} {ofJson? : Nat → Json → Option α} {toJson : α → Json}
    (reads : ∀ value, Reads ofJson? (toJson value) value) : RoundTrips ofJson? toJson := by
  intro value
  rw [decode?, read_write, Option.bind_some, reads value depthLimit, nesting_write]
  rfl

theorem dataModel_roundTrips :
    RoundTrips Argument.ofJson? Argument.toJson ∧ RoundTrips Signature.ofJson? Signature.toJson ∧
      RoundTrips Invocation.ofJson? Invocation.toJson ∧ RoundTrips Target.ofJson? Target.toJson ∧
      RoundTrips TargetPair.ofJson? TargetPair.toJson ∧ RoundTrips Task.ofJson? Task.toJson ∧
      RoundTrips Filter.ofJson? Filter.toJson :=
  ⟨roundTrips_of_reads Argument.reads, roundTrips_of_reads Signature.reads,
    roundTrips_of_reads Invocation.reads, roundTrips_of_reads Target.reads,
    roundTrips_of_reads TargetPair.reads, roundTrips_of_reads Task.reads,
    roundTrips_of_reads Filter.reads⟩

end Json

end TuningTasks
