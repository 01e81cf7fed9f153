/-!
Blank characters, and texts cut at separators. `parts_append` says how a list of parts grows at
the front, which is all that is needed to read back a text whose parts were joined.
-/
namespace TuningTasks.Text

/-- The twenty-five code points with the White_Space property. -/
def isBlank (c : Char) : Bool :=
  let point := c.toNat
  (0x9 ≤ point && point ≤ 0xd) || point == 0x20 || point == 0x85 || point == 0xa0 ||
    point == 0x1680 || (0x2000 ≤ point && point ≤ 0x200a) || point == 0x2028 || point == 0x2029 ||
    point == 0x202f || point == 0x205f || point == 0x3000

/-- The stretches between separators, empty ones included. -/
def stretches (isSeparator : Char → Bool) : List Char → List (List Char)
  | [] => [[]]
  | c :: rest =>
      if isSeparator c then [] :: stretches isSeparator rest
      else match stretches isSeparator rest with
        | [] => [[c]]
        | first :: others => (c :: first) :: others

def parts (isSeparator : Char → Bool) (text : List Char) : List (List Char) :=
  (stretches isSeparator text).filter fun part => !part.isEmpty

def words : List Char → List (List Char) := parts isBlank

def trim (text : List Char) : List Char :=
  ((text.dropWhile isBlank).reverse.dropWhile isBlank).reverse

variable {isSeparator : Char → Bool}

theorem stretches_ne_nil (text : List Char) : stretches isSeparator text ≠ [] := by
  cases text with
  | nil => simp [stretches]
  | cons c rest =>
      simp only [stretches]
      split
      · simp
      · split <;> simp

theorem stretches_append {part : List Char} (plain : ∀ c ∈ part, isSeparator c = false)
    (rest : List Char) :
    stretches isSeparator (part ++ rest) =
      match stretches isSeparator rest with
      | [] => [part]
      | first :: others => (part ++ first) :: others := by
  induction part with
  | nil =>
      cases h : stretches isSeparator rest with
      | nil => exact absurd h (stretches_ne_nil rest)
      | cons first others => simp [h]
  | cons c tail ih =>
      have head := plain c (by simp)
      have below := ih fun d member => plain d (List.mem_cons_of_mem c member)
      rw [List.cons_append, stretches, below]
      cases stretches isSeparator rest <;> simp [head]

theorem parts_append {part : List Char} (nonempty : part ≠ [])
    (plain : ∀ c ∈ part, isSeparator c = false) {separator : Char}
    (separates : isSeparator separator = true) (rest : List Char) :
    parts isSeparator (part ++ separator :: rest) = part :: parts isSeparator rest := by
  have head : part.isEmpty = false := by cases part <;> simp_all
  simp [parts, stretches_append plain, stretches, separates, head]

theorem parts_single {part : List Char} (nonempty : part ≠ [])
    (plain : ∀ c ∈ part, isSeparator c = false) : parts isSeparator part = [part] := by
  have head : part.isEmpty = false := by cases part <;> simp_all
  have whole := stretches_append plain []
  simp only [List.append_nil, stretches] at whole
  simp [parts, whole, head]

theorem parts_separator {separator : Char} (separates : isSeparator separator = true)
    (rest : List Char) : parts isSeparator (separator :: rest) = parts isSeparator rest := by
  simp [parts, stretches, separates]

theorem parts_intercalate {separator : Char} (separates : isSeparator separator = true)
    {pieces : List (List Char)}
    (plain : ∀ piece ∈ pieces, piece ≠ [] ∧ ∀ c ∈ piece, isSeparator c = false) :
    parts isSeparator ([separator].intercalate pieces) = pieces := by
  induction pieces with
  | nil => rfl
  | cons piece rest ih =>
      obtain ⟨nonempty, unbroken⟩ := plain piece List.mem_cons_self
      have later := ih fun other member => plain other (List.mem_cons_of_mem piece member)
      cases rest with
      | nil => simpa [List.intercalate] using parts_single nonempty unbroken
      | cons next others =>
          have joined : [separator].intercalate (piece :: next :: others) =
              piece ++ separator :: [separator].intercalate (next :: others) := by
            simp [List.intercalate]
          rw [joined, parts_append nonempty unbroken separates, later]

theorem mem_of_mem_parts {text part : List Char} {c : Char} (inside : c ∈ part)
    (member : part ∈ parts isSeparator text) : c ∈ text := by
  have stretch := (List.mem_filter.mp member).1
  clear member
  induction text generalizing part with
  | nil =>
      rw [List.mem_singleton.mp stretch] at inside
      exact inside
  | cons d rest ih =>
      simp only [stretches] at stretch
      split at stretch
      · rcases List.mem_cons.mp stretch with here | later
        · exact absurd (here ▸ inside) List.not_mem_nil
        · exact List.mem_cons_of_mem d (ih inside later)
      · split at stretch
        · rename_i none
          exact absurd none (stretches_ne_nil rest)
        · rename_i first others cut
          rcases List.mem_cons.mp stretch with here | later
          · rw [here] at inside
            rcases List.mem_cons.mp inside with head | tail
            · exact head ▸ List.mem_cons_self
            · exact List.mem_cons_of_mem d (ih tail (by simp [cut]))
          · exact List.mem_cons_of_mem d (ih inside (by simp [cut, later]))

theorem mem_parts {text part : List Char} (member : part ∈ parts isSeparator text) :
    part ≠ [] ∧ ∀ c ∈ part, isSeparator c = false := by
  obtain ⟨inside, nonempty⟩ := List.mem_filter.mp member
  refine ⟨fun empty => by simp [empty] at nonempty, ?_⟩
  clear nonempty member
  induction text generalizing part with
  | nil => simp [stretches] at inside; simp [inside]
  | cons c rest ih =>
      simp only [stretches] at inside
      split at inside
      · rcases List.mem_cons.mp inside with here | later
        · simp [here]
        · exact ih later
      · rename_i plain
        split at inside
        · rename_i none
          exact absurd none (stretches_ne_nil rest)
        · rename_i first others cut
          rcases List.mem_cons.mp inside with here | later
          · subst here
            intro d member
            rcases List.mem_cons.mp member with head | tail
            · simpa [head] using plain
            · exact ih (by simp [cut]) d tail
          · exact ih (by simp [cut, later])

end TuningTasks.Text
