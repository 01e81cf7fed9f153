import TuningTasks.Target.Text

/-!
What the text form of targets can say. Reading a text leaves a target of a certain form, and every
target of that form is read back from its own display. So the targets that some text stands for are
those that survive being shown and read again (`Target.parse_display_iff`).
-/
namespace TuningTasks

def Text.Unbroken (text : String) : Prop := ∀ c ∈ text.toList, Text.isBlank c = false

instance (text : String) : Decidable (Text.Unbroken text) :=
  List.decidableBAll _ text.toList

/-- Every field is one that a word of a text can give. -/
structure TargetSpec.Textual (spec : TargetSpec) : Prop where
  named : spec.kind ≠ ""
  undashed : spec.kind.toList.head? ≠ some '-'
  kind : Text.Unbroken spec.kind
  device : ∀ device ∈ spec.device, Text.Unbroken device
  keys : spec.keys = defaultKeys spec.kind spec.device ∨
    ∀ key ∈ spec.keys, key ≠ "" ∧ ',' ∉ key.toList ∧ Text.Unbroken key
  names : ∀ entry ∈ spec.attrs.entries,
    entry.1 ≠ "" ∧ '=' ∉ entry.1.toList ∧ Text.Unbroken entry.1
  unreserved : ∀ entry ∈ spec.attrs.entries, entry.1 ≠ "device" ∧ entry.1 ≠ "keys"
  values : ∀ entry ∈ spec.attrs.entries, Text.Unbroken entry.2

structure Target.Textual (target : Target) : Prop where
  alone : target.host = none
  spec : target.spec.Textual

/-! ### Options and their tokens -/

namespace TargetOption

variable {option : TargetOption} {options : List TargetOption} {name : String}

def Named (option : TargetOption) : Prop := option.name ≠ "" ∧ '=' ∉ option.name.toList

def Unbroken (option : TargetOption) : Prop :=
  Text.Unbroken option.name ∧ Text.Unbroken option.value

theorem token_toList (option : TargetOption) :
    option.token.toList = '-' :: (option.name.toList ++ '=' :: option.value.toList) := by
  simp [token]

theorem ofToken_token (named : option.Named) : ofToken option.token.toList = .ok option := by
  obtain ⟨nonempty, plain⟩ := named
  have passes : ∀ c ∈ option.name.toList, decide (c ≠ '=') = true := by
    intro c member
    rw [decide_eq_true_eq]
    rintro rfl
    exact plain member
  have name : (option.name.toList ++ '=' :: option.value.toList).takeWhile (· ≠ '=') =
      option.name.toList := by
    rw [List.takeWhile_append_of_pos passes]
    simp
  have rest : (option.name.toList ++ '=' :: option.value.toList).dropWhile (· ≠ '=') =
      '=' :: option.value.toList := by
    rw [List.dropWhile_append_of_pos passes]
    simp
  rw [token_toList, ofToken, name, rest]
  simp [nonempty]

theorem named_of_ofToken {word : List Char} (read : ofToken word = .ok option) : option.Named := by
  unfold ofToken at read
  split at read
  · rename_i body
    simp only at read
    split at read
    · cases read
    · rename_i nonempty
      cases read
      refine ⟨fun empty => nonempty ?_, fun equals => ?_⟩
      · simpa using empty
      · rw [String.toList_ofList] at equals
        have stays := (List.all_eq_true.mp List.all_takeWhile) '=' equals
        simp at stays
  · cases read

theorem unbroken_of_ofToken {word : List Char} (plain : ∀ c ∈ word, Text.isBlank c = false)
    (read : ofToken word = .ok option) : option.Unbroken := by
  unfold ofToken at read
  split at read
  · rename_i body
    simp only at read
    split at read
    · cases read
    · cases read
      constructor
      · intro c member
        rw [String.toList_ofList] at member
        exact plain c (List.mem_cons_of_mem _ ((List.takeWhile_sublist _).subset member))
      · intro c member
        cases cut : body.dropWhile (· ≠ '=') with
        | nil =>
            have plain : Text.Unbroken "true" := by decide
            simp only [cut] at member
            exact plain c member
        | cons sign value =>
            simp only [cut, String.toList_ofList] at member
            have inside : c ∈ body.dropWhile (· ≠ '=') := cut ▸ List.mem_cons_of_mem sign member
            exact plain c (List.mem_cons_of_mem _ ((List.dropWhile_sublist _).subset inside))
  · cases read

theorem token_unbroken (unbroken : option.Unbroken) :
    ∀ c ∈ option.token.toList, Text.isBlank c = false := by
  intro c member
  rw [token_toList] at member
  simp only [List.mem_cons, List.mem_append] at member
  rcases member with rfl | name | rfl | value
  · decide
  · exact unbroken.1 c name
  · decide
  · exact unbroken.2 c value

theorem mapM_tokens (named : ∀ option ∈ options, option.Named) :
    (options.map fun option => option.token.toList).mapM ofToken = .ok options := by
  induction options with
  | nil => rfl
  | cons option rest ih =>
      have here := ofToken_token (named option List.mem_cons_self)
      have later := ih fun other member => named other (List.mem_cons_of_mem option member)
      rw [List.map_cons, List.mapM_cons, here, later]
      rfl

theorem mem_of_mapM {words : List (List Char)} (read : words.mapM ofToken = .ok options) :
    ∀ option ∈ options, ∃ word ∈ words, ofToken word = .ok option := by
  induction words generalizing options with
  | nil =>
      cases read
      exact fun _ none => nomatch none
  | cons word rest ih =>
      rw [List.mapM_cons] at read
      cases first : ofToken word with
      | error fault =>
          rw [first] at read
          cases read
      | ok option =>
          cases others : rest.mapM ofToken with
          | error fault =>
              rw [first, others] at read
              cases read
          | ok later =>
              rw [first, others] at read
              cases read
              intro other member
              rcases List.mem_cons.mp member with rfl | member
              · exact ⟨word, List.mem_cons_self, first⟩
              · obtain ⟨found, inside, same⟩ := ih others other member
                exact ⟨found, List.mem_cons_of_mem word inside, same⟩

/-! ### The last value of a name -/

theorem lastValue_append (first rest : List TargetOption) :
    lastValue name (first ++ rest) = (lastValue name rest).or (lastValue name first) := by
  simp only [lastValue, List.reverse_append, List.find?_append]
  cases rest.reverse.find? fun option => option.name = name <;> rfl

theorem lastValue_single : lastValue name [option] =
    if option.name = name then some option.value else none := by
  by_cases same : option.name = name
  · simp [lastValue, same]
  · simp [lastValue, same]

theorem lastValue_none (other : ∀ option ∈ options, option.name ≠ name) :
    lastValue name options = none := by
  simpa [lastValue] using other

theorem mem_of_lastValue {value : String} (last : lastValue name options = some value) :
    ∃ option ∈ options, option.value = value := by
  obtain ⟨option, found, same⟩ := Option.map_eq_some_iff.mp last
  exact ⟨option, List.mem_reverse.mp (List.mem_of_find?_eq_some found), same⟩

end TargetOption

/-! ### What is read has the form -/

namespace TargetSpec

open TargetOption

variable {spec : TargetSpec}

theorem keyList_intercalate {keys : List String}
    (plain : ∀ key ∈ keys, key ≠ "" ∧ ',' ∉ key.toList) : keyList (",".intercalate keys) = keys := by
  have pieces : ∀ piece ∈ keys.map String.toList,
      piece ≠ [] ∧ ∀ c ∈ piece, decide (c = ',') = false := by
    intro piece member
    obtain ⟨key, inside, rfl⟩ := List.mem_map.mp member
    obtain ⟨nonempty, whole⟩ := plain key inside
    refine ⟨by simpa using nonempty, fun c here => decide_eq_false ?_⟩
    rintro rfl
    exact whole here
  have comma : decide (',' = ',') = true := rfl
  have read := Text.parts_intercalate comma pieces
  simp only [keyList, String.toList_intercalate, String.reduceToList, read, List.map_map]
  exact List.map_id'' (fun _ => String.ofList_toList) keys

theorem mem_keyList {value key : String} (unbroken : Text.Unbroken value) (member : key ∈ keyList value) :
    key ≠ "" ∧ ',' ∉ key.toList ∧ Text.Unbroken key := by
  obtain ⟨part, inside, rfl⟩ := List.mem_map.mp member
  obtain ⟨nonempty, plain⟩ := Text.mem_parts inside
  refine ⟨by simpa using nonempty, fun comma => ?_, fun c here => ?_⟩
  · have := plain ',' (by simpa using comma)
    simp at this
  · exact unbroken c (Text.mem_of_mem_parts (by simpa using here) inside)

theorem textual_ofOptions {kind : String} {options : List TargetOption} (named : kind ≠ "")
    (undashed : kind.toList.head? ≠ some '-') (plain : Text.Unbroken kind)
    (each : ∀ option ∈ options, option.Named ∧ option.Unbroken) :
    (ofOptions kind options).Textual := by
  have attributes : ∀ entry ∈ (ofOptions kind options).attrs.entries,
      ∃ option ∈ options, option.isAttribute = true ∧ entry = (option.name, option.value) := by
    intro entry member
    obtain ⟨option, held, rfl⟩ := List.mem_map.mp (NameTable.mem_of_mem_ofList member)
    obtain ⟨inside, plain⟩ := List.mem_filter.mp held
    exact ⟨option, inside, plain, rfl⟩
  constructor
  case named => exact named
  case undashed => exact undashed
  case kind => exact plain
  case device =>
    intro device given
    obtain ⟨option, inside, rfl⟩ := mem_of_lastValue given
    exact (each option inside).2.2
  case keys =>
    simp only [ofOptions]
    cases explicit : lastValue "keys" options with
    | none => exact Or.inl rfl
    | some value =>
        obtain ⟨option, inside, rfl⟩ := mem_of_lastValue explicit
        exact Or.inr fun key member => mem_keyList (each option inside).2.2 member
  case names =>
    intro entry member
    obtain ⟨option, inside, -, rfl⟩ := attributes entry member
    obtain ⟨⟨nonempty, whole⟩, unbroken⟩ := each option inside
    exact ⟨nonempty, whole, unbroken.1⟩
  case unreserved =>
    intro entry member
    obtain ⟨option, -, unreserved, rfl⟩ := attributes entry member
    simpa [isAttribute] using unreserved
  case values =>
    intro entry member
    obtain ⟨option, inside, -, rfl⟩ := attributes entry member
    exact (each option inside).2.2

theorem textual_ofWords {words : List (List Char)}
    (plain : ∀ word ∈ words, word ≠ [] ∧ ∀ c ∈ word, Text.isBlank c = false)
    (read : ofWords words = .ok spec) : spec.Textual := by
  cases words with
  | nil => cases read
  | cons kind tokens =>
      obtain ⟨nonempty, unbroken⟩ := plain kind List.mem_cons_self
      rw [ofWords] at read
      split at read
      · cases read
      · rename_i undashed
        cases tokensRead : tokens.mapM ofToken with
        | error fault =>
            rw [tokensRead] at read
            cases read
        | ok options =>
            rw [tokensRead] at read
            cases read
            apply textual_ofOptions
            · simpa using nonempty
            · simpa using undashed
            · simpa [Text.Unbroken] using unbroken
            · intro option member
              obtain ⟨word, inside, token⟩ := mem_of_mapM tokensRead option member
              have whole := (plain word (List.mem_cons_of_mem kind inside)).2
              exact ⟨named_of_ofToken token, unbroken_of_ofToken whole token⟩

/-! ### What has the form is read back -/

def keyOptions (spec : TargetSpec) : List TargetOption :=
  if spec.keys = defaultKeys spec.kind spec.device then [] else [⟨"keys", ",".intercalate spec.keys⟩]

theorem mem_keyOptions {option : TargetOption} (member : option ∈ spec.keyOptions) :
    spec.keys ≠ defaultKeys spec.kind spec.device ∧ option = ⟨"keys", ",".intercalate spec.keys⟩ := by
  unfold keyOptions at member
  split at member
  · cases member
  · rename_i listed
    exact ⟨listed, List.mem_singleton.mp member⟩

def attributeOptions (spec : TargetSpec) : List TargetOption :=
  spec.attrs.entries.map fun entry => ⟨entry.1, entry.2⟩

theorem options_eq (spec : TargetSpec) : spec.options =
    (spec.device.toList.map fun device => ⟨"device", device⟩) ++ spec.keyOptions ++
      spec.attributeOptions := rfl

theorem mem_options {option : TargetOption} (member : option ∈ spec.options) :
    (∃ device ∈ spec.device, option = ⟨"device", device⟩) ∨
      (spec.keys ≠ defaultKeys spec.kind spec.device ∧
        option = ⟨"keys", ",".intercalate spec.keys⟩) ∨
      ∃ entry ∈ spec.attrs.entries, option = ⟨entry.1, entry.2⟩ := by
  rw [options_eq, List.mem_append, List.mem_append] at member
  rcases member with (device | keys) | extra
  · obtain ⟨value, given, rfl⟩ := List.mem_map.mp device
    exact Or.inl ⟨value, by simpa using given, rfl⟩
  · exact Or.inr (Or.inl (mem_keyOptions keys))
  · obtain ⟨entry, inside, rfl⟩ := List.mem_map.mp extra
    exact Or.inr (Or.inr ⟨entry, inside, rfl⟩)

namespace Textual

theorem listedKeys (textual : spec.Textual) (listed : spec.keys ≠ defaultKeys spec.kind spec.device) :
    ∀ key ∈ spec.keys, key ≠ "" ∧ ',' ∉ key.toList ∧ Text.Unbroken key :=
  textual.keys.resolve_left listed

theorem joinedKeys (textual : spec.Textual) (listed : spec.keys ≠ defaultKeys spec.kind spec.device) :
    Text.Unbroken (",".intercalate spec.keys) := by
  have plain := textual.listedKeys listed
  revert plain
  clear listed
  -- The comma between two keys is no blank either.
  induction spec.keys with
  | nil =>
      intro _ c none
      simp at none
  | cons key rest ih =>
      intro plain c member
      have here := (plain key List.mem_cons_self).2.2
      have later := ih fun other inside => plain other (List.mem_cons_of_mem key inside)
      cases rest with
      | nil => exact here c (by simpa using member)
      | cons next others =>
          rw [String.intercalate_cons_cons, String.toList_append, String.toList_append] at member
          simp only [String.reduceToList, List.mem_append, List.mem_singleton] at member
          rcases member with (inside | rfl) | inside
          · exact here c inside
          · decide
          · exact later c inside

theorem options (textual : spec.Textual) :
    ∀ option ∈ spec.options, option.Named ∧ option.Unbroken := by
  have device : ("device" ≠ "" ∧ '=' ∉ "device".toList) ∧ Text.Unbroken "device" := by decide
  have keys : ("keys" ≠ "" ∧ '=' ∉ "keys".toList) ∧ Text.Unbroken "keys" := by decide
  intro option member
  rcases mem_options member with ⟨value, given, rfl⟩ | ⟨listed, rfl⟩ | ⟨entry, inside, rfl⟩
  · exact ⟨device.1, device.2, textual.device value given⟩
  · exact ⟨keys.1, keys.2, textual.joinedKeys listed⟩
  · obtain ⟨nonempty, whole, unbroken⟩ := textual.names entry inside
    exact ⟨⟨nonempty, whole⟩, unbroken, textual.values entry inside⟩

theorem lastDevice (textual : spec.Textual) : lastValue "device" spec.options = spec.device := by
  have attributes : lastValue "device" spec.attributeOptions = none := by
    apply lastValue_none
    intro option member
    obtain ⟨entry, inside, rfl⟩ := List.mem_map.mp member
    exact (textual.unreserved entry inside).1
  have keys : lastValue "device" spec.keyOptions = none := by
    apply lastValue_none
    intro option member
    rw [(mem_keyOptions member).2]
    exact fun same : "keys" = "device" => absurd same (by decide)
  rw [options_eq, lastValue_append, lastValue_append, attributes, keys, Option.none_or, Option.none_or]
  cases spec.device with
  | none => rfl
  | some device => simp [lastValue_single]

theorem lastKeys (textual : spec.Textual) : lastValue "keys" spec.options =
    if spec.keys = defaultKeys spec.kind spec.device then none
    else some (",".intercalate spec.keys) := by
  have attributes : lastValue "keys" spec.attributeOptions = none := by
    apply lastValue_none
    intro option member
    obtain ⟨entry, inside, rfl⟩ := List.mem_map.mp member
    exact (textual.unreserved entry inside).2
  have device : lastValue "keys"
      (spec.device.toList.map fun device => (⟨"device", device⟩ : TargetOption)) = none := by
    apply lastValue_none
    intro option member
    obtain ⟨device, -, rfl⟩ := List.mem_map.mp member
    exact fun same : "device" = "keys" => absurd same (by decide)
  rw [options_eq, lastValue_append, lastValue_append, attributes, device, Option.none_or, Option.or_none,
    keyOptions]
  split
  · rfl
  · simp [lastValue_single]

theorem attributes (textual : spec.Textual) :
    ((spec.options.filter isAttribute).map fun option => (option.name, option.value)) =
      spec.attrs.entries := by
  have device : (spec.device.toList.map fun device =>
      (⟨"device", device⟩ : TargetOption)).filter isAttribute = [] := by
    cases spec.device <;> rfl
  have keys : spec.keyOptions.filter isAttribute = [] := by
    apply List.filter_eq_nil_iff.mpr
    intro option member
    rw [(mem_keyOptions member).2]
    simp [isAttribute]
  have rest : spec.attributeOptions.filter isAttribute = spec.attributeOptions := by
    apply List.filter_eq_self.mpr
    intro option member
    obtain ⟨entry, inside, rfl⟩ := List.mem_map.mp member
    simpa [isAttribute] using textual.unreserved entry inside
  rw [options_eq, List.filter_append, List.filter_append, device, keys, rest, List.nil_append,
    List.nil_append, attributeOptions, List.map_map]
  exact List.map_id _

theorem ofOptions_options (textual : spec.Textual) : ofOptions spec.kind spec.options = spec := by
  simp only [ofOptions, textual.lastDevice, textual.lastKeys, textual.attributes,
    NameTable.ofList_entries]
  by_cases usual : spec.keys = defaultKeys spec.kind spec.device
  · rw [if_pos usual]
    simp only [← usual]
  · have plain : ∀ key ∈ spec.keys, key ≠ "" ∧ ',' ∉ key.toList := fun key member =>
      ⟨(textual.listedKeys usual key member).1, (textual.listedKeys usual key member).2.1⟩
    rw [if_neg usual]
    simp only [keyList_intercalate plain]

theorem words_display (textual : spec.Textual) : Text.words spec.display.toList =
    spec.kind.toList :: spec.options.map fun option => option.token.toList := by
  have pieces : ∀ piece ∈ (spec.kind :: spec.options.map token).map String.toList,
      piece ≠ [] ∧ ∀ c ∈ piece, Text.isBlank c = false := by
    intro piece member
    obtain ⟨word, inside, rfl⟩ := List.mem_map.mp member
    rcases List.mem_cons.mp inside with rfl | inside
    · exact ⟨by simpa using textual.named, textual.kind⟩
    · obtain ⟨option, held, rfl⟩ := List.mem_map.mp inside
      exact ⟨by simp [token_toList], token_unbroken (textual.options option held).2⟩
  have space : Text.isBlank ' ' = true := by decide
  have read := Text.parts_intercalate space pieces
  rw [display, String.toList_intercalate]
  exact read.trans (by simp)

theorem ofWords_display (textual : spec.Textual) :
    ofWords (Text.words spec.display.toList) = .ok spec := by
  have options := mapM_tokens fun option member => (textual.options option member).1
  rw [textual.words_display, ofWords, if_neg textual.undashed, options]
  simp only [String.ofList_toList]
  exact congrArg Except.ok textual.ofOptions_options

end Textual

end TargetSpec

namespace Target

theorem textual_of_parse {text : String} {target : Target} (read : parse text = .ok target) :
    target.Textual := by
  unfold parse at read
  split at read
  · rename_i spec words
    cases read
    exact ⟨rfl, TargetSpec.textual_ofWords (fun word member => Text.mem_parts member) words⟩
  · cases read

theorem Textual.parse_display {target : Target} (textual : target.Textual) :
    parse target.display = .ok target := by
  cases target with
  | hosted spec host => cases textual.alone
  | alone spec =>
      have read : TargetSpec.ofWords (Text.words (Target.alone spec).display.toList) = .ok spec :=
        textual.spec.ofWords_display
      simp only [parse, read]

/-- A target survives being shown and read again exactly if some text stands for it, that is, if it has
the form. -/
theorem parse_display_iff (target : Target) :
    (parse target.display = .ok target ↔ ∃ text, parse text = .ok target) ∧
      ((∃ text, parse text = .ok target) ↔ target.Textual) := by
  have form : (∃ text, parse text = .ok target) → target.Textual := fun ⟨_, read⟩ =>
    textual_of_parse read
  have back : target.Textual → parse target.display = .ok target := Textual.parse_display
  exact ⟨⟨fun read => ⟨_, read⟩, fun found => back (form found)⟩,
    form, fun textual => ⟨_, back textual⟩⟩

/-- Keys and values may be empty, a name may start with a dash, and a value may hold an equals sign. -/
example : (parse "c -device= -keys= --x= -y=a=b").toOption.map display =
    some "c -device= -keys= --x= -y=a=b" := by
  decide +kernel

end Target

end TuningTasks
