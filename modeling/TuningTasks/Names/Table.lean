import TuningTasks.Names.Sorted

/-!
Tables from names to values and sets of names, both kept in increasing order of the names by code
point, so that equal contents are equal tables and every listing is sorted.
-/
namespace TuningTasks

open Names

structure NameTable (β : Type) where
  entries : List (String × β)
  increasing : Increasing Prod.fst entries
deriving DecidableEq

namespace NameTable

variable {β : Type}

def empty : NameTable β := ⟨[], List.Pairwise.nil⟩

instance : Inhabited (NameTable β) := ⟨empty⟩

def insert (table : NameTable β) (name : String) (value : β) : NameTable β :=
  ⟨put Prod.fst (name, value) table.entries, put_increasing Prod.fst _ table.increasing⟩

/-- Later entries win over earlier ones of the same name. -/
def ofList (pairs : List (String × β)) : NameTable β :=
  pairs.foldl (fun table pair => table.insert pair.1 pair.2) empty

def find? (table : NameTable β) (name : String) : Option β :=
  (table.entries.find? fun entry => entry.1 = name).map Prod.snd

def size (table : NameTable β) : Nat := table.entries.length

theorem ext {left right : NameTable β} (same : left.entries = right.entries) : left = right := by
  cases left
  cases right
  cases same
  rfl

theorem foldl_insert_entries (table : NameTable β) (pairs : List (String × β)) :
    (pairs.foldl (fun table pair => table.insert pair.1 pair.2) table).entries =
      pairs.foldl (fun entries pair => put Prod.fst pair entries) table.entries := by
  induction pairs generalizing table with
  | nil => rfl
  | cons pair rest ih => exact ih (table.insert pair.1 pair.2)

theorem ofList_entries (table : NameTable β) : ofList table.entries = table := by
  have order : Increasing Prod.fst ([] ++ table.entries) := table.increasing
  exact ext ((foldl_insert_entries empty table.entries).trans (foldl_put Prod.fst order))

theorem mem_of_mem_insert {table : NameTable β} {name : String} {value : β} {entry : String × β}
    (member : entry ∈ (table.insert name value).entries) :
    entry = (name, value) ∨ entry ∈ table.entries :=
  mem_put_of_mem Prod.fst member

theorem mem_of_mem_ofList {pairs : List (String × β)} {entry : String × β}
    (member : entry ∈ (ofList pairs).entries) : entry ∈ pairs := by
  have grown : ∀ table : NameTable β,
      entry ∈ (pairs.foldl (fun table pair => table.insert pair.1 pair.2) table).entries →
        entry ∈ pairs ∨ entry ∈ table.entries := by
    clear member
    induction pairs with
    | nil => exact fun _ held => Or.inr held
    | cons pair rest ih =>
        intro table held
        rcases ih (table.insert pair.1 pair.2) held with later | inserted
        · exact Or.inl (List.mem_cons_of_mem pair later)
        · rcases mem_of_mem_insert inserted with here | old
          · exact Or.inl (here ▸ List.mem_cons_self)
          · exact Or.inr old
  exact (grown empty member).resolve_right List.not_mem_nil

end NameTable

structure NameSet where
  names : List String
  increasing : Increasing id names
deriving DecidableEq

namespace NameSet

def empty : NameSet := ⟨[], List.Pairwise.nil⟩

instance : Inhabited NameSet := ⟨empty⟩

def insert (set : NameSet) (name : String) : NameSet :=
  ⟨put id name set.names, put_increasing id _ set.increasing⟩

def insertAll (set : NameSet) (names : List String) : NameSet := names.foldl insert set

def ofList (names : List String) : NameSet := empty.insertAll names

def contains (set : NameSet) (name : String) : Bool := set.names.contains name

def size (set : NameSet) : Nat := set.names.length

theorem contains_insert (set : NameSet) (name other : String) :
    (set.insert name).contains other = (decide (other = name) || set.contains other) := by
  have member := @mem_put String id name other set.names set.increasing
  rw [Bool.eq_iff_iff]
  simp only [contains, insert, List.contains_iff_mem, member, id_eq, Bool.or_eq_true,
    decide_eq_true_eq]
  by_cases same : other = name <;> simp [same]

theorem contains_insertAll (set : NameSet) (names : List String) (other : String) :
    (set.insertAll names).contains other = (names.contains other || set.contains other) := by
  induction names generalizing set with
  | nil => simp [insertAll]
  | cons name rest ih =>
      show ((set.insert name).insertAll rest).contains other = _
      rw [ih, contains_insert]
      by_cases same : other = name <;> simp [same]

theorem contains_ofList (names : List String) (other : String) :
    (ofList names).contains other = names.contains other := by
  rw [ofList, contains_insertAll]
  simp [empty, contains]

theorem ext {left right : NameSet} (same : left.names = right.names) : left = right := by
  cases left
  cases right
  cases same
  rfl

theorem insertAll_names (set : NameSet) (names : List String) :
    (set.insertAll names).names = names.foldl (fun held name => put id name held) set.names := by
  induction names generalizing set with
  | nil => rfl
  | cons name rest ih => exact ih (set.insert name)

theorem ofList_names (set : NameSet) : ofList set.names = set := by
  have order : Increasing id ([] ++ set.names) := set.increasing
  exact ext ((insertAll_names empty set.names).trans (foldl_put id order))

end NameSet

end TuningTasks
