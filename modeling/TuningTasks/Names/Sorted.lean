/-!
Lists in strictly increasing order of a text key. `put` adds an item at its place and takes the
place of an item with the same key; `put_increasing` and `mem_put` say that it keeps the order and
changes nothing else, so a list that is in order is what putting its items one by one makes.
-/
namespace TuningTasks.Names

variable {α : Type} (key : α → String)

def Increasing (items : List α) : Prop := items.Pairwise fun a b => key a < key b

def put (item : α) : List α → List α
  | [] => [item]
  | head :: rest =>
      if key item < key head then item :: head :: rest
      else if key head < key item then head :: put item rest
      else item :: rest

theorem eq_of_not_lt {a b : String} (notBelow : ¬a < b) (notAbove : ¬b < a) : a = b :=
  String.le_antisymm (String.not_lt.mp notAbove) (String.not_lt.mp notBelow)

theorem mem_put_of_mem {item other : α} {items : List α} (member : other ∈ put key item items) :
    other = item ∨ other ∈ items := by
  induction items with
  | nil => simpa [put] using member
  | cons head rest ih =>
      simp only [put] at member
      split at member
      · simpa using member
      · split at member
        · rcases List.mem_cons.mp member with here | later
          · simp [here]
          · rcases ih later with new | old
            · exact Or.inl new
            · exact Or.inr (List.mem_cons_of_mem head old)
        · rcases List.mem_cons.mp member with here | later
          · exact Or.inl here
          · exact Or.inr (List.mem_cons_of_mem head later)

theorem put_increasing (item : α) {items : List α} (order : Increasing key items) :
    Increasing key (put key item items) := by
  induction items with
  | nil => simp [put, Increasing]
  | cons head rest ih =>
      obtain ⟨above, tail⟩ := List.pairwise_cons.mp order
      simp only [put]
      split
      · rename_i below
        refine List.pairwise_cons.mpr ⟨fun other member => ?_, order⟩
        rcases List.mem_cons.mp member with here | later
        · simpa [here] using below
        · exact String.lt_trans below (above other later)
      · split
        · rename_i headBelow
          refine List.pairwise_cons.mpr ⟨fun other member => ?_, ih tail⟩
          rcases mem_put_of_mem key member with new | old
          · simpa [new] using headBelow
          · exact above other old
        · rename_i notBelow notAbove
          have same := eq_of_not_lt notBelow notAbove
          exact List.pairwise_cons.mpr ⟨fun other member => same ▸ above other member, tail⟩

theorem mem_put {item other : α} {items : List α} (order : Increasing key items) :
    other ∈ put key item items ↔ other = item ∨ (other ∈ items ∧ key other ≠ key item) := by
  induction items with
  | nil => simp [put]
  | cons head rest ih =>
      obtain ⟨above, tail⟩ := List.pairwise_cons.mp order
      simp only [put]
      split
      · rename_i below
        have apart : ∀ x ∈ head :: rest, key x ≠ key item := by
          intro x member same
          rcases List.mem_cons.mp member with here | later
          · subst here
            exact String.lt_irrefl _ (same ▸ below)
          · exact String.lt_irrefl _ (same ▸ String.lt_trans below (above x later))
        constructor
        · intro member
          rcases List.mem_cons.mp member with new | old
          · exact Or.inl new
          · exact Or.inr ⟨old, apart other old⟩
        · rintro (new | old)
          · simp [new]
          · exact List.mem_cons_of_mem _ old.1
      · split
        · rename_i headBelow
          rw [List.mem_cons, ih tail]
          have headApart : key head ≠ key item := fun same =>
            String.lt_irrefl _ (same ▸ headBelow)
          constructor
          · rintro (here | new | old)
            · exact Or.inr ⟨by simp [here], here ▸ headApart⟩
            · exact Or.inl new
            · exact Or.inr ⟨List.mem_cons_of_mem _ old.1, old.2⟩
          · rintro (new | ⟨old, apart⟩)
            · exact Or.inr (Or.inl new)
            · rcases List.mem_cons.mp old with here | later
              · exact Or.inl here
              · exact Or.inr (Or.inr ⟨later, apart⟩)
        · rename_i notBelow notAbove
          have same := eq_of_not_lt notBelow notAbove
          constructor
          · intro member
            rcases List.mem_cons.mp member with new | later
            · exact Or.inl new
            · exact Or.inr ⟨List.mem_cons_of_mem _ later, fun equal =>
                String.lt_irrefl _ (same.symm.trans equal.symm ▸ above other later)⟩
          · rintro (new | ⟨old, apart⟩)
            · simp [new]
            · rcases List.mem_cons.mp old with here | later
              · exact absurd (here ▸ same.symm) apart
              · exact List.mem_cons_of_mem _ later

theorem put_last {item : α} {items : List α} (above : ∀ other ∈ items, key other < key item) :
    put key item items = items ++ [item] := by
  induction items with
  | nil => rfl
  | cons head rest ih =>
      have headBelow := above head List.mem_cons_self
      have later := ih fun other member => above other (List.mem_cons_of_mem head member)
      rw [put, if_neg (String.lt_asymm headBelow), if_pos headBelow, later, List.cons_append]

/-- Two increasing lists with the same items are the same list. -/
theorem increasing_ext {left right : List α} (leftOrder : Increasing key left)
    (rightOrder : Increasing key right) (same : ∀ x, x ∈ left ↔ x ∈ right) : left = right := by
  induction left generalizing right with
  | nil =>
      cases right with
      | nil => rfl
      | cons head rest => exact absurd ((same head).mpr (by simp)) (by simp)
  | cons head rest ih =>
      cases right with
      | nil => exact absurd ((same head).mp (by simp)) (by simp)
      | cons other more =>
          obtain ⟨aboveHead, restOrder⟩ := List.pairwise_cons.mp leftOrder
          obtain ⟨aboveOther, moreOrder⟩ := List.pairwise_cons.mp rightOrder
          have heads : head = other := by
            rcases List.mem_cons.mp ((same head).mp (by simp)) with here | later
            · exact here
            · rcases List.mem_cons.mp ((same other).mpr (by simp)) with there | deeper
              · exact there.symm
              · exact absurd (aboveHead other deeper) (String.lt_asymm (aboveOther head later))
          subst heads
          congr 1
          refine ih restOrder moreOrder fun x => ⟨fun member => ?_, fun member => ?_⟩
          · rcases List.mem_cons.mp ((same x).mp (List.mem_cons_of_mem _ member)) with here | later
            · exact absurd (here ▸ aboveHead x member) (String.lt_irrefl _)
            · exact later
          · rcases List.mem_cons.mp ((same x).mpr (List.mem_cons_of_mem _ member)) with here | later
            · exact absurd (here ▸ aboveOther x member) (String.lt_irrefl _)
            · exact later

theorem foldl_put {first rest : List α} (order : Increasing key (first ++ rest)) :
    rest.foldl (fun items item => put key item items) first = first ++ rest := by
  induction rest generalizing first with
  | nil => simp
  | cons item rest ih =>
      have above : ∀ other ∈ first, key other < key item := fun other member =>
        (List.pairwise_append.mp order).2.2 other member item List.mem_cons_self
      rw [List.append_cons] at order
      rw [List.foldl_cons, put_last key above, ih order, List.append_cons first item rest]

end TuningTasks.Names
