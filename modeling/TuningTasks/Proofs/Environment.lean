import Mathlib.Data.List.Forall2
import Mathlib.Data.Nat.Digits.Defs
import TuningTasks.Settings

/-!
What an environment says. Which values switch log suppression and which set a stack size is said of their
characters alone: the blanks around, capital letters, a sign and decimal places. Reading an environment
comes to exactly that, and to a word about the first variable whose value says nothing
(`Settings.ofLookup_exact`).
-/
namespace TuningTasks

namespace Text

/-! ### Blanks around -/

/-- The text without the blanks at both of its ends. -/
inductive Trims : List Char → List Char → Prop
  | between {before core after : List Char} (ahead : ∀ c ∈ before, isBlank c = true)
      (behind : ∀ c ∈ after, isBlank c = true) (first : ∀ c ∈ core.head?, isBlank c = false)
      (last : ∀ c ∈ core.getLast?, isBlank c = false) : Trims (before ++ (core ++ after)) core

theorem dropWhile_gap {p : Char → Bool} {gap rest : List Char} (passes : ∀ c ∈ gap, p c = true)
    (stops : ∀ c ∈ rest.head?, p c = false) : (gap ++ rest).dropWhile p = rest := by
  rw [List.dropWhile_append_of_pos passes]
  cases rest with
  | nil => rfl
  | cons c tail =>
      have stop := stops c rfl
      simp [stop]

theorem Trims.trim_eq {text core : List Char} (trims : Trims text core) : trim text = core := by
  cases trims with
  | @between before core after ahead behind first last =>
      cases core with
      | nil =>
          -- Nothing stands between the two gaps, so the first pass takes both.
          have blank : ∀ c ∈ before ++ after, isBlank c = true := fun c member =>
            (List.mem_append.mp member).elim (ahead c) (behind c)
          have nothing : (before ++ after ++ []).dropWhile isBlank = [] :=
            dropWhile_gap blank fun _ none => nomatch none
          rw [List.append_nil] at nothing
          rw [trim, List.nil_append, nothing]
          rfl
      | cons c tail =>
          have front : (before ++ (c :: tail ++ after)).dropWhile isBlank = c :: tail ++ after :=
            dropWhile_gap ahead first
          have back : (after.reverse ++ (c :: tail).reverse).dropWhile isBlank = (c :: tail).reverse :=
            dropWhile_gap (fun d member => behind d (List.mem_reverse.mp member))
              fun d final => last d (List.head?_reverse ▸ final)
          rw [trim, front, List.reverse_append, back, List.reverse_reverse]

theorem trims_trim (text : List Char) : Trims text (trim text) := by
  have passes (part : List Char) : ∀ c ∈ part.takeWhile isBlank, isBlank c = true :=
    List.all_eq_true.mp List.all_takeWhile
  have stops (part : List Char) : ∀ c ∈ (part.dropWhile isBlank).head?, isBlank c = false := by
    intro c first
    have stop := List.head?_dropWhile_not isBlank part
    rw [Option.mem_def.mp first] at stop
    simpa using stop
  let rest := text.dropWhile isBlank
  have front : text.takeWhile isBlank ++ rest = text := List.takeWhile_append_dropWhile
  have back : trim text ++ (rest.reverse.takeWhile isBlank).reverse = rest := by
    rw [trim, ← List.reverse_append, List.takeWhile_append_dropWhile, List.reverse_reverse]
  have behind : ∀ c ∈ (rest.reverse.takeWhile isBlank).reverse, isBlank c = true := fun c member =>
    passes rest.reverse c (List.mem_reverse.mp member)
  have first : ∀ c ∈ (trim text).head?, isBlank c = false := by
    intro c first
    refine stops text c ?_
    change c ∈ rest.head?
    rw [← back, List.head?_append, Option.mem_def.mp first]
    rfl
  have last : ∀ c ∈ (trim text).getLast?, isBlank c = false := by
    intro c final
    rw [trim, List.getLast?_reverse] at final
    exact stops rest.reverse c final
  have trims := Trims.between (passes text) behind first last
  rwa [back, front] at trims

theorem trim_eq_iff {text core : List Char} : trim text = core ↔ Trims text core :=
  ⟨fun same => same ▸ trims_trim text, Trims.trim_eq⟩

/-! ### Capital letters -/

/-- An ASCII capital becomes the small letter, and any other character stays. -/
inductive Uncapitalized : Char → Char → Prop
  | capital {c d : Char} (letter : 'A' ≤ c ∧ c ≤ 'Z') (small : d.toNat = c.toNat + 32) : Uncapitalized c d
  | other {c : Char} (plain : ¬('A' ≤ c ∧ c ≤ 'Z')) : Uncapitalized c c

theorem uncapitalized_iff {c d : Char} : Uncapitalized c d ↔ c.toLower = d := by
  by_cases letter : 'A' ≤ c ∧ c ≤ 'Z'
  · have within : c.toNat ≤ 90 := UInt32.le_iff_toNat_le.mp letter.2
    have small : c.toLower.toNat = c.toNat + 32 := by
      -- Far from the end of the 32 bits, so the sum does not wrap.
      have shifted : c.toLower.val = c.val + 32 := congrArg Char.val (dif_pos letter)
      have sum : (c.val + 32).toNat = (c.toNat + 32) % 2 ^ 32 := UInt32.toNat_add c.val 32
      rw [Char.toNat, shifted, sum]
      omega
    constructor
    · rintro (⟨-, same⟩ | plain)
      · exact Char.toNat_inj.mp (small.trans same.symm)
      · exact absurd letter plain
    · rintro rfl
      exact .capital letter small
  · have kept : c.toLower = c := dif_neg letter
    rw [kept]
    constructor
    · rintro (⟨capital, -⟩ | -)
      · exact absurd capital letter
      · rfl
    · rintro rfl
      exact .other letter

theorem map_toLower_eq_iff {text word : List Char} :
    text.map Char.toLower = word ↔ List.Forall₂ Uncapitalized text word := by
  have same : Uncapitalized = fun c d => c.toLower = d := by
    funext c d
    exact propext uncapitalized_iff
  rw [same, ← List.forall₂_map_left_iff, List.forall₂_eq_eq_eq]

/-! ### Decimal places -/

/-- One or more ASCII digits spell the number, the last for the ones, the one before for the tens. -/
structure Spells (digits : List Char) (number : Nat) : Prop where
  nonempty : digits ≠ []
  decimal : ∀ c ∈ digits, '0' ≤ c ∧ c ≤ '9'
  value : number = Nat.ofDigits 10 (digits.reverse.map fun c => c.toNat - '0'.toNat)

theorem ofDigitChars_eq_ofDigits (digits : List Char) :
    Nat.ofDigitChars 10 digits 0 = Nat.ofDigits 10 (digits.reverse.map fun c => c.toNat - '0'.toNat) := by
  rw [Nat.ofDigitChars_eq_foldl, Nat.ofDigits_eq_foldr, List.map_reverse, List.foldr_reverse, List.foldl_map]
  simp only [Nat.add_comm, Nat.cast_id]

theorem isDigit_iff {c : Char} : c.isDigit = true ↔ '0' ≤ c ∧ c ≤ '9' := by
  simp [Char.isDigit, Char.le_def]

theorem digitsValue?_eq_some {digits : List Char} {number : Nat} :
    digitsValue? digits = some number ↔ Spells digits number := by
  have decimal : (digits.isEmpty || !digits.all Char.isDigit) = false ↔
      digits ≠ [] ∧ ∀ c ∈ digits, '0' ≤ c ∧ c ≤ '9' := by
    simp [isDigit_iff]
  rw [digitsValue?, ofDigitChars_eq_ofDigits]
  constructor
  · intro read
    split at read
    · cases read
    · rename_i fine
      obtain ⟨nonempty, each⟩ := decimal.mp (Bool.eq_false_of_not_eq_true fine)
      exact ⟨nonempty, each, (Option.some.inj read).symm⟩
  · rintro ⟨nonempty, each, rfl⟩
    have fine := decimal.mpr ⟨nonempty, each⟩
    rw [if_neg (Bool.not_eq_true _ ▸ fine)]

end Text

namespace Settings

/-! ### What a variable may say -/

inductive WritesSwitch (value : String) : Bool → Prop
  | on {core : List Char} {word : String} (trims : Text.Trims value.toList core)
      (small : List.Forall₂ Text.Uncapitalized core word.toList) (listed : word ∈ ["1", "true", "yes", "on"]) :
      WritesSwitch value true
  | off {core : List Char} {word : String} (trims : Text.Trims value.toList core)
      (small : List.Forall₂ Text.Uncapitalized core word.toList) (listed : word ∈ ["0", "false", "no", "off"]) :
      WritesSwitch value false

/-- The value is a positive number of at most 64 bits, in digits after at most one plus sign. -/
structure WritesSize (value : String) (size : Nat) : Prop where
  spelled : ∃ sign digits, Text.Trims value.toList (sign ++ digits) ∧ (sign = [] ∨ sign = ['+']) ∧
    Text.Spells digits size
  least : 1 ≤ size
  most : size ≤ 2 ^ 64 - 1

theorem readSwitch_eq {value word : String} {core : List Char} (trims : Text.Trims value.toList core)
    (small : List.Forall₂ Text.Uncapitalized core word.toList) :
    readSwitch value =
      if word ∈ ["1", "true", "yes", "on"] then some true
      else if word ∈ ["0", "false", "no", "off"] then some false
      else none := by
  rw [readSwitch, Text.trim_eq_iff.mpr trims, Text.map_toLower_eq_iff.mpr small, String.ofList_toList]

theorem readSwitch_eq_some {value : String} {on : Bool} :
    readSwitch value = some on ↔ WritesSwitch value on := by
  constructor
  · intro read
    let word := String.ofList ((Text.trim value.toList).map Char.toLower)
    have small : List.Forall₂ Text.Uncapitalized (Text.trim value.toList) word.toList :=
      Text.map_toLower_eq_iff.mp String.toList_ofList.symm
    have trims : Text.Trims value.toList (Text.trim value.toList) := Text.trim_eq_iff.mp rfl
    rw [readSwitch_eq trims small] at read
    split at read
    · rename_i listed
      cases read
      exact .on trims small listed
    · split at read
      · rename_i listed
        cases read
        exact .off trims small listed
      · cases read
  · intro writes
    have apart : ∀ word ∈ ["0", "false", "no", "off"], word ∉ ["1", "true", "yes", "on"] := by decide
    cases writes with
    | on trims small listed => rw [readSwitch_eq trims small, if_pos listed]
    | off trims small listed => rw [readSwitch_eq trims small, if_neg (apart _ listed), if_pos listed]

theorem readSize_eq_some {value : String} {size : Nat} : readSize value = some size ↔ WritesSize value size := by
  have fits : (decide (0 < size) && decide (size < UInt64.size)) = true ↔ 1 ≤ size ∧ size ≤ 2 ^ 64 - 1 := by
    rw [Bool.and_eq_true, decide_eq_true_eq, decide_eq_true_eq, UInt64.size]
    omega
  simp only [readSize, Option.filter_eq_some_iff, Text.digitsValue?_eq_some, fits]
  constructor
  · rintro ⟨spells, least, most⟩
    have trims : Text.Trims value.toList (Text.trim value.toList) := Text.trim_eq_iff.mp rfl
    split at spells
    · rename_i digits signed
      rw [signed] at trims
      exact ⟨⟨['+'], digits, trims, .inr rfl, spells⟩, least, most⟩
    · exact ⟨⟨[], _, trims, .inl rfl, spells⟩, least, most⟩
  · rintro ⟨⟨sign, digits, trims, rfl | rfl, spells⟩, least, most⟩
    · refine ⟨?_, least, most⟩
      rw [Text.trim_eq_iff.mpr trims]
      split
      · rename_i rest signed
        have plus := spells.decimal '+' (List.nil_append digits ▸ signed ▸ List.mem_cons_self)
        exact absurd plus (by decide)
      · exact spells
    · refine ⟨?_, least, most⟩
      rw [Text.trim_eq_iff.mpr trims]
      exact spells

/-! ### What an environment says -/

/-- What is told of a variable that is there and says nothing of what it may say. -/
inductive Misread {α : Type} (Writes : String → α → Prop) (name : String) : Option String → Failure → Prop
  | senseless {value : String} (unwritten : ∀ found, ¬Writes value found) :
      Misread Writes name (some value)
        { kind := .invalidInput, message := "invalid value '" ++ value ++ "' for " ++ name }

def setting? {α : Type} (name : String) (read : String → Option α) : Option String → Except Failure (Option α)
  | none => .ok none
  | some value => match read value with
    | some found => .ok (some found)
    | none => .error (invalid name value)

section

variable {α : Type} {name : String} {read : String → Option α} {Writes : String → α → Prop}
  {given : Option String} {failure : Failure}

variable (name) in
theorem setting?_ok (exact : ∀ {value found}, read value = some found ↔ Writes value found)
    {found : Option α} : setting? name read given = .ok found ↔ Option.Rel Writes given found := by
  cases given with
  | none =>
      constructor
      · rintro ⟨⟩
        exact .none
      · rintro ⟨⟩
        rfl
  | some value =>
      rw [setting?]
      constructor
      · intro read
        split at read
        · rename_i reads
          cases read
          exact .some (exact.mp reads)
        · cases read
      · rintro (writes | -)
        rw [exact.mpr writes]

variable (name) in
theorem setting?_error (exact : ∀ {value found}, read value = some found ↔ Writes value found) :
    setting? name read given = .error failure ↔ Misread Writes name given failure := by
  cases given with
  | none =>
      constructor
      · rintro ⟨⟩
      · rintro ⟨⟩
  | some value =>
      rw [setting?]
      constructor
      · intro refused
        split at refused
        · cases refused
        · rename_i unread
          cases refused
          exact .senseless fun found writes => nomatch unread.symm.trans (exact.mpr writes)
      · rintro ⟨unwritten⟩
        have unread : read value = none :=
          Option.eq_none_iff_forall_ne_some.mpr fun found reads => unwritten found (exact.mp reads)
        rw [unread]
        rfl

theorem exists_rel : (∃ found, Option.Rel Writes given found) ↔ ∀ value ∈ given, ∃ found, Writes value found := by
  constructor
  · rintro ⟨-, writes | -⟩ value ⟨⟩
    exact ⟨_, writes⟩
  · intro each
    cases given with
    | none => exact ⟨none, .none⟩
    | some value =>
        obtain ⟨found, writes⟩ := each value rfl
        exact ⟨some found, .some writes⟩

end

theorem ofLookup_eq (lookup : String → Option String) : ofLookup lookup = do
    let switch ← setting? suppressVariable readSwitch (lookup suppressVariable)
    let size ← setting? stackVariable readSize (lookup stackVariable)
    return { suppressLogs := switch.getD true, stackSize := size } := by
  rw [ofLookup]
  cases lookup suppressVariable with
  | none =>
      cases lookup stackVariable with
      | none => rfl
      | some number =>
          simp only [setting?]
          cases readSize number <;> rfl
  | some word =>
      cases lookup stackVariable with
      | none =>
          simp only [setting?]
          cases readSwitch word <;> rfl
      | some number =>
          simp only [setting?]
          cases readSwitch word with
          | none => rfl
          | some on => cases readSize number <;> rfl

variable {lookup : String → Option String}

theorem ofLookup_ok {settings : Settings} : ofLookup lookup = .ok settings ↔
    ∃ switch size, Option.Rel WritesSwitch (lookup suppressVariable) switch ∧
      Option.Rel WritesSize (lookup stackVariable) size ∧
      settings = { suppressLogs := switch.getD true, threadPrefix := "tunex-lower", stackSize := size,
                   templates := .empty } := by
  rw [ofLookup_eq]
  simp only [← setting?_ok suppressVariable readSwitch_eq_some,
    ← setting?_ok stackVariable readSize_eq_some]
  constructor
  · intro read
    cases switched : setting? suppressVariable readSwitch (lookup suppressVariable) with
    | error failure =>
        rw [switched] at read
        cases read
    | ok switch =>
        cases sized : setting? stackVariable readSize (lookup stackVariable) with
        | error failure =>
            rw [switched, sized] at read
            cases read
        | ok size =>
            rw [switched, sized] at read
            cases read
            exact ⟨switch, size, rfl, rfl, rfl⟩
  · rintro ⟨switch, size, switched, sized, rfl⟩
    rw [switched, sized]
    rfl

theorem ofLookup_error {failure : Failure} : ofLookup lookup = .error failure ↔
    Misread WritesSwitch suppressVariable (lookup suppressVariable) failure ∨
      (∃ switch, Option.Rel WritesSwitch (lookup suppressVariable) switch) ∧
        Misread WritesSize stackVariable (lookup stackVariable) failure := by
  rw [ofLookup_eq]
  simp only [← setting?_ok suppressVariable readSwitch_eq_some,
    ← setting?_error suppressVariable readSwitch_eq_some,
    ← setting?_error stackVariable readSize_eq_some]
  cases switched : setting? suppressVariable readSwitch (lookup suppressVariable) with
  | error told =>
      constructor
      · rintro ⟨⟩
        exact .inl rfl
      · rintro (⟨⟨⟩⟩ | ⟨⟨-, ⟨⟩⟩, -⟩)
        rfl
  | ok switch =>
      cases sized : setting? stackVariable readSize (lookup stackVariable) with
      | error told =>
          constructor
          · rintro ⟨⟩
            exact .inr ⟨⟨switch, rfl⟩, rfl⟩
          · rintro (⟨⟨⟩⟩ | ⟨-, ⟨⟨⟩⟩⟩)
            rfl
      | ok size =>
          constructor
          · rintro ⟨⟩
          · rintro (⟨⟨⟩⟩ | ⟨-, ⟨⟨⟩⟩⟩)

/-- Which environments are read and as what, what is told of the others, and that no variable but these two
counts. -/
theorem ofLookup_exact (lookup : String → Option String) :
    ((∃ settings, ofLookup lookup = .ok settings) ↔
      (∀ value ∈ lookup suppressVariable, ∃ on, WritesSwitch value on) ∧
        ∀ value ∈ lookup stackVariable, ∃ size, WritesSize value size) ∧
    (∀ settings, ofLookup lookup = .ok settings ↔
      ∃ switch size, Option.Rel WritesSwitch (lookup suppressVariable) switch ∧
        Option.Rel WritesSize (lookup stackVariable) size ∧
        settings = { suppressLogs := switch.getD true, threadPrefix := "tunex-lower", stackSize := size,
                     templates := .empty }) ∧
    (∀ failure, ofLookup lookup = .error failure ↔
      Misread WritesSwitch suppressVariable (lookup suppressVariable) failure ∨
        (∀ value ∈ lookup suppressVariable, ∃ on, WritesSwitch value on) ∧
          Misread WritesSize stackVariable (lookup stackVariable) failure) ∧
    ∀ other : String → Option String, other suppressVariable = lookup suppressVariable →
      other stackVariable = lookup stackVariable → ofLookup other = ofLookup lookup := by
  refine ⟨?_, fun _ => ofLookup_ok, fun _ => ?_, ?_⟩
  · rw [← exists_rel, ← exists_rel]
    constructor
    · rintro ⟨settings, read⟩
      obtain ⟨switch, size, switched, sized, -⟩ := ofLookup_ok.mp read
      exact ⟨⟨switch, switched⟩, size, sized⟩
    · rintro ⟨⟨switch, switched⟩, size, sized⟩
      exact ⟨_, ofLookup_ok.mpr ⟨switch, size, switched, sized, rfl⟩⟩
  · rw [ofLookup_error, exists_rel]
  · intro other sameSwitch sameSize
    rw [ofLookup_eq, ofLookup_eq, sameSwitch, sameSize]

theorem ofLookup_exact_greatest :
    let environment (others : Option String) : String → Option String := fun name =>
      if name = "TUNEX_SUPPRESS_LOGS" then some "\tOfF\n"
      else if name = "TUNEX_LOWERING_STACK_SIZE" then some "\u3000+0018446744073709551615 "
      else others
    ofLookup (environment (some "1")) =
        .ok { suppressLogs := false, stackSize := some 18446744073709551615 } ∧
      ofLookup (environment none) = ofLookup (environment (some "1")) := by
  intro environment
  exact ⟨by decide +kernel, (ofLookup_exact (environment (some "1"))).2.2.2 (environment none) rfl rfl⟩

end Settings

end TuningTasks
