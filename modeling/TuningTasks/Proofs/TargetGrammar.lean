import Mathlib.Data.List.Forall2
import Mathlib.Data.List.Induction
import TuningTasks.Proofs.TargetText

/-!
The grammar of target texts and what they mean. Which texts are read, which fault is told of the others and
what a target holds are said of the characters and of the options alone, without the functions that read
them (`Target.parse_meaning`). So the order of options with different names is free, and so are blanks.
-/
namespace TuningTasks

/-! ### Cutting at separators -/

/-- The text is made of the parts, which hold no separator, with at least one separator between two and any
number of them around. -/
inductive Text.Splits (isSeparator : Char → Bool) : List Char → List (List Char) → Prop
  | gap {gap : List Char} (separates : ∀ c ∈ gap, isSeparator c = true) : Splits isSeparator gap []
  | part {gap part rest : List Char} {parts : List (List Char)}
      (separates : ∀ c ∈ gap, isSeparator c = true) (nonempty : part ≠ [])
      (plain : ∀ c ∈ part, isSeparator c = false)
      (ends : ∀ c ∈ rest.head?, isSeparator c = true) (later : Splits isSeparator rest parts) :
      Splits isSeparator (gap ++ (part ++ rest)) (part :: parts)

namespace Text

variable {isSeparator : Char → Bool} {gap text : List Char} {found : List (List Char)}

theorem parts_gap (separates : ∀ c ∈ gap, isSeparator c = true) (rest : List Char) :
    parts isSeparator (gap ++ rest) = parts isSeparator rest := by
  induction gap with
  | nil => rfl
  | cons c more ih =>
      have later := ih fun d member => separates d (List.mem_cons_of_mem c member)
      rw [List.cons_append, parts_separator (separates c List.mem_cons_self), later]

namespace Splits

theorem parts_eq (splits : Splits isSeparator text found) : parts isSeparator text = found := by
  induction splits with
  | @gap gap separates =>
      have all := parts_gap separates []
      rwa [List.append_nil] at all
  | @part gap part rest others separates nonempty plain ends later ih =>
      rw [parts_gap separates]
      cases rest with
      | nil =>
          rw [List.append_nil, parts_single nonempty plain, ← ih]
          rfl
      | cons c tail =>
          have separator := ends c rfl
          rw [parts_append nonempty plain separator, ← parts_separator separator, ih]

theorem separator {c : Char} (separates : isSeparator c = true)
    (splits : Splits isSeparator text found) : Splits isSeparator (c :: text) found := by
  have first {gap : List Char} (all : ∀ d ∈ gap, isSeparator d = true) :
      ∀ d ∈ c :: gap, isSeparator d = true := List.forall_mem_cons.mpr ⟨separates, all⟩
  cases splits with
  | gap all => exact .gap (first all)
  | part all nonempty plain ends later => exact .part (first all) nonempty plain ends later

theorem first {part rest : List Char} (nonempty : part ≠ []) (plain : ∀ c ∈ part, isSeparator c = false)
    (ends : ∀ c ∈ rest.head?, isSeparator c = true) (later : Splits isSeparator rest found) :
    Splits isSeparator (part ++ rest) (part :: found) :=
  @Splits.part _ [] part rest found (List.forall_mem_nil _) nonempty plain ends later

theorem character {c : Char} (plain : isSeparator c = false) (splits : Splits isSeparator text found) :
    ∃ parts, Splits isSeparator (c :: text) parts := by
  have alone : ∀ d ∈ [c], isSeparator d = false := by simpa using plain
  have begins (ends : ∀ d ∈ text.head?, isSeparator d = true) :
      ∃ parts, Splits isSeparator (c :: text) parts :=
    ⟨[c] :: found, first (List.cons_ne_nil c []) alone ends splits⟩
  cases splits with
  | gap separates => exact begins fun d first => separates d (List.mem_of_mem_head? first)
  | @part gap part rest others separates nonempty whole ends later =>
      cases gap with
      | nil =>
          have longer : ∀ d ∈ c :: part, isSeparator d = false := List.forall_mem_cons.mpr ⟨plain, whole⟩
          exact ⟨(c :: part) :: others, first (List.cons_ne_nil c part) longer ends later⟩
      | cons d more =>
          refine begins fun e first => separates e ?_
          obtain rfl : d = e := by simpa using first
          exact List.mem_cons_self

end Splits

variable (isSeparator) in
theorem exists_splits (text : List Char) : ∃ parts, Splits isSeparator text parts := by
  induction text with
  | nil => exact ⟨[], .gap (List.forall_mem_nil _)⟩
  | cons c rest ih =>
      obtain ⟨parts, splits⟩ := ih
      cases kind : isSeparator c with
      | true => exact ⟨parts, splits.separator kind⟩
      | false => exact splits.character kind

/-- A text is made of parts in one way only, which is how it is cut. -/
theorem splits_iff : Splits isSeparator text found ↔ parts isSeparator text = found := by
  refine ⟨Splits.parts_eq, ?_⟩
  rintro rfl
  obtain ⟨parts, splits⟩ := exists_splits isSeparator text
  rwa [splits.parts_eq]

end Text

/-! ### Tokens -/

/-- The token writes the option: a dash and the name, and then an equals sign and the value unless that is
`true`. -/
inductive TargetOption.Written : List Char → TargetOption → Prop
  | switch {name : List Char} (named : name ≠ []) (whole : '=' ∉ name) :
      Written ('-' :: name) ⟨String.ofList name, "true"⟩
  | setting {name value : List Char} (named : name ≠ []) (whole : '=' ∉ name) :
      Written ('-' :: (name ++ '=' :: value)) ⟨String.ofList name, String.ofList value⟩

inductive TargetFault.OfToken : List Char → TargetFault → Prop
  | stray {token : List Char} (undashed : token.head? ≠ some '-') :
      OfToken token (.stray (String.ofList token))
  | bare : OfToken ['-'] .nameless
  | nameless {value : List Char} : OfToken ('-' :: '=' :: value) .nameless

namespace TargetOption

variable {token : List Char} {option : TargetOption} {tokens : List (List Char)}
  {options : List TargetOption}

theorem cut_name {name rest : List Char} (whole : '=' ∉ name) (ends : ∀ c ∈ rest.head?, c = '=') :
    (name ++ rest).takeWhile (· ≠ '=') = name ∧ (name ++ rest).dropWhile (· ≠ '=') = rest := by
  have passes : ∀ c ∈ name, decide (c ≠ '=') = true := fun c member =>
    decide_eq_true fun same => whole (same ▸ member)
  rw [List.takeWhile_append_of_pos passes, List.dropWhile_append_of_pos passes]
  cases rest with
  | nil => simp
  | cons c tail =>
      obtain rfl := ends c rfl
      simp

theorem exists_cut (body : List Char) : ∃ name rest, body = name ++ rest ∧ '=' ∉ name ∧
    ∀ c ∈ rest.head?, c = '=' := by
  refine ⟨_, _, (List.takeWhile_append_dropWhile (p := fun c => decide (c ≠ '='))).symm, fun equals => ?_,
    fun c first => ?_⟩
  · have stays := (List.all_eq_true.mp List.all_takeWhile) '=' equals
    simp at stays
  · have stops := List.head?_dropWhile_not (fun c => decide (c ≠ '=')) body
    rw [Option.mem_def] at first
    rw [first] at stops
    simpa using stops

theorem Written.ofToken_eq (written : Written token option) : ofToken token = .ok option := by
  cases written with
  | @switch name named whole =>
      obtain ⟨before, after⟩ := @cut_name name [] whole fun _ none => nomatch none
      rw [List.append_nil] at before after
      rw [ofToken, before, after, if_neg (by simpa using named)]
  | @setting name value named whole =>
      have ends : ∀ c ∈ ('=' :: value).head?, c = '=' := by simp
      obtain ⟨before, after⟩ := cut_name whole ends
      rw [ofToken, before, after, if_neg (by simpa using named)]

end TargetOption

theorem TargetFault.OfToken.ofToken_eq {token : List Char} {fault : TargetFault}
    (wrong : fault.OfToken token) : TargetOption.ofToken token = .error fault := by
  cases wrong with
  | stray undashed =>
      rw [TargetOption.ofToken]
      rintro body rfl
      exact undashed rfl
  | bare => rfl
  | nameless => rfl

namespace TargetOption

variable {token : List Char} {option : TargetOption} {tokens : List (List Char)}
  {options : List TargetOption} {fault : TargetFault}

theorem written_or_wrong (token : List Char) :
    (∃ option, Written token option) ∨ ∃ fault, TargetFault.OfToken token fault := by
  by_cases dashed : token.head? = some '-'
  · obtain ⟨body, rfl⟩ := List.head?_eq_some_iff.mp dashed
    obtain ⟨name, rest, rfl, whole, ends⟩ := exists_cut body
    by_cases named : name = []
    · subst named
      cases rest with
      | nil => exact .inr ⟨_, .bare⟩
      | cons c value =>
          obtain rfl := ends c rfl
          exact .inr ⟨_, .nameless⟩
    · cases rest with
      | nil =>
          rw [List.append_nil]
          exact .inl ⟨_, .switch named whole⟩
      | cons c value =>
          obtain rfl := ends c rfl
          exact .inl ⟨_, .setting named whole⟩
  · exact .inr ⟨_, .stray dashed⟩

theorem ofToken_ok : ofToken token = .ok option ↔ Written token option := by
  refine ⟨fun read => ?_, Written.ofToken_eq⟩
  rcases written_or_wrong token with ⟨other, written⟩ | ⟨fault, wrong⟩
  · cases written.ofToken_eq.symm.trans read
    exact written
  · cases wrong.ofToken_eq.symm.trans read

theorem ofToken_error : ofToken token = .error fault ↔ fault.OfToken token := by
  refine ⟨fun read => ?_, TargetFault.OfToken.ofToken_eq⟩
  rcases written_or_wrong token with ⟨option, written⟩ | ⟨other, wrong⟩
  · cases written.ofToken_eq.symm.trans read
  · cases wrong.ofToken_eq.symm.trans read
    exact wrong

theorem mapM_cons (token : List Char) (tokens : List (List Char)) :
    (token :: tokens).mapM ofToken = match ofToken token, tokens.mapM ofToken with
      | .error fault, _ => .error fault
      | .ok _, .error fault => .error fault
      | .ok option, .ok options => .ok (option :: options) := by
  rw [List.mapM_cons]
  cases ofToken token with
  | error fault => rfl
  | ok option => cases tokens.mapM ofToken <;> rfl

theorem mapM_ok : tokens.mapM ofToken = .ok options ↔ List.Forall₂ Written tokens options := by
  induction tokens generalizing options with
  | nil =>
      rw [List.forall₂_nil_left_iff]
      exact ⟨fun read => by cases read; rfl, fun none => none ▸ rfl⟩
  | cons token rest ih =>
      rw [mapM_cons, List.forall₂_cons_left_iff]
      constructor
      · intro read
        cases here : ofToken token with
        | error fault =>
            rw [here] at read
            cases read
        | ok option =>
            cases later : rest.mapM ofToken with
            | error fault =>
                rw [here, later] at read
                cases read
            | ok others =>
                rw [here, later] at read
                cases read
                exact ⟨option, others, ofToken_ok.mp here, ih.mp later, rfl⟩
      · rintro ⟨option, others, written, each, rfl⟩
        rw [written.ofToken_eq, ih.mpr each]

theorem mapM_error : tokens.mapM ofToken = .error fault ↔
    ∃ before token after, tokens = before ++ token :: after ∧
      (∀ other ∈ before, ∃ option, Written other option) ∧ fault.OfToken token := by
  induction tokens with
  | nil =>
      constructor
      · intro read
        cases read
      · rintro ⟨before, token, after, none, -⟩
        simp at none
  | cons token rest ih =>
      rw [mapM_cons]
      constructor
      · intro read
        cases here : ofToken token with
        | error other =>
            rw [here] at read
            cases read
            exact ⟨[], token, rest, rfl, List.forall_mem_nil _, ofToken_error.mp here⟩
        | ok option =>
            cases later : rest.mapM ofToken with
            | ok others =>
                rw [here, later] at read
                cases read
            | error other =>
                rw [here, later] at read
                cases read
                obtain ⟨before, bad, after, rfl, fine, wrong⟩ := ih.mp later
                exact ⟨token :: before, bad, after, rfl,
                  List.forall_mem_cons.mpr ⟨⟨option, ofToken_ok.mp here⟩, fine⟩, wrong⟩
      · rintro ⟨before, bad, after, same, fine, wrong⟩
        cases before with
        | nil =>
            cases same
            rw [wrong.ofToken_eq]
        | cons first others =>
            cases same
            obtain ⟨option, written⟩ := fine token List.mem_cons_self
            have later := ih.mpr ⟨others, bad, after, rfl, fun other member =>
              fine other (List.mem_cons_of_mem token member), wrong⟩
            rw [written.ofToken_eq, later]

end TargetOption

/-- The first fault of the words, from the left. -/
inductive TargetFault.First : List (List Char) → TargetFault → Prop
  | empty : First [] .empty
  | kindNotFirst {kind : List Char} {tokens : List (List Char)} (dashed : kind.head? = some '-') :
      First (kind :: tokens) .kindNotFirst
  | token {kind : List Char} {before : List (List Char)} {token : List Char} {after : List (List Char)}
      {fault : TargetFault} (undashed : kind.head? ≠ some '-')
      (fine : ∀ other ∈ before, ∃ option, TargetOption.Written other option) (wrong : fault.OfToken token) :
      First (kind :: (before ++ token :: after)) fault

/-! ### What options mean -/

def TargetOption.Last (options : List TargetOption) (name value : String) : Prop :=
  ∃ before after, options = before ++ ⟨name, value⟩ :: after ∧ ∀ option ∈ after, option.name ≠ name

/-- What a target of that kind with these options holds. -/
structure Target.Means (target : Target) (kind : String) (options : List TargetOption) : Prop where
  named : target.spec.kind = kind
  device : ∀ value, target.device = some value ↔ TargetOption.Last options "device" value
  attrs : ∀ name value, target.attr name = some value ↔
    name ≠ "device" ∧ name ≠ "keys" ∧ TargetOption.Last options name value
  listed : ∀ value, TargetOption.Last options "keys" value →
    Text.Splits (· = ',') value.toList (target.spec.keys.map String.toList)
  unlisted : (∀ value, ¬ TargetOption.Last options "keys" value) →
    target.spec.keys = defaultKeys kind target.device
  alone : target.host = none

namespace NameTable

variable {β : Type} {table : NameTable β} {name : String} {value : β}

theorem find?_increasing {entries : List (String × β)} (order : Names.Increasing Prod.fst entries)
    {entry : String × β} (member : entry ∈ entries) :
    entries.find? (fun other => other.1 = entry.1) = some entry := by
  induction entries with
  | nil => cases member
  | cons head rest ih =>
      obtain ⟨above, tail⟩ := List.pairwise_cons.mp order
      rcases List.mem_cons.mp member with rfl | later
      · simp
      · have differ : head.1 ≠ entry.1 := String.ne_of_lt (above entry later)
        rw [List.find?_cons_of_neg (by simpa using differ), ih tail later]

theorem find?_eq_some : table.find? name = some value ↔ (name, value) ∈ table.entries := by
  rw [find?, Option.map_eq_some_iff]
  constructor
  · rintro ⟨entry, found, rfl⟩
    have same : entry.1 = name := by simpa using List.find?_some found
    exact same ▸ List.mem_of_find?_eq_some found
  · intro member
    exact ⟨_, find?_increasing table.increasing member, rfl⟩

theorem find?_insert (table : NameTable β) (name other : String) (value : β) :
    (table.insert name value).find? other = if other = name then some value else table.find? other := by
  have member := @Names.mem_put _ Prod.fst (name, value)
  ext held
  rw [find?_eq_some, insert, member table.increasing]
  by_cases same : other = name
  · simp [same, eq_comm]
  · simp [same, find?_eq_some]

theorem ext_find? {left right : NameTable β} (same : ∀ name, left.find? name = right.find? name) :
    left = right := by
  refine ext (Names.increasing_ext Prod.fst left.increasing right.increasing fun entry => ?_)
  rw [← find?_eq_some, ← find?_eq_some, same]

theorem ofList_concat (pairs : List (String × β)) (pair : String × β) :
    ofList (pairs ++ [pair]) = (ofList pairs).insert pair.1 pair.2 := by
  simp only [ofList, List.foldl_append, List.foldl_cons, List.foldl_nil]

end NameTable

namespace TargetOption

variable {options : List TargetOption} {name value : String}

theorem lastValue_eq_some : lastValue name options = some value ↔ Last options name value := by
  rw [lastValue, Option.map_eq_some_iff]
  constructor
  · rintro ⟨option, found, rfl⟩
    obtain ⟨same, later, before, split, none⟩ := List.find?_eq_some_iff_append.mp found
    obtain rfl : option.name = name := by simpa using same
    refine ⟨before.reverse, later.reverse, ?_, fun other member => ?_⟩
    · simpa using congrArg List.reverse split
    · simpa using none other (List.mem_reverse.mp member)
  · rintro ⟨before, after, rfl, none⟩
    refine ⟨⟨name, value⟩, List.find?_eq_some_iff_append.mpr ⟨by simp, after.reverse, before.reverse, by simp,
      fun other member => ?_⟩, rfl⟩
    simpa using none other (List.mem_reverse.mp member)

theorem find?_attributes (options : List TargetOption) (name : String) :
    (NameTable.ofList
        ((options.filter isAttribute).map fun option => (option.name, option.value))).find? name =
      if name = "device" ∨ name = "keys" then none else lastValue name options := by
  induction options using List.reverseRecOn with
  | nil => simp [NameTable.ofList, NameTable.find?, NameTable.empty, lastValue]
  | append_singleton options option ih =>
      rw [List.filter_append, lastValue_append, lastValue_single]
      cases kind : option.isAttribute with
      | true =>
          have plain : option.name ≠ "device" ∧ option.name ≠ "keys" := by
            simpa [isAttribute] using kind
          rw [List.filter_cons_of_pos kind, List.filter_nil, List.map_append, List.map_singleton,
            NameTable.ofList_concat, NameTable.find?_insert, ih]
          by_cases same : name = option.name
          · simp [same, plain]
          · simp [same, Ne.symm same]
      | false =>
          have reserved : option.name = "device" ∨ option.name = "keys" := by
            simpa [isAttribute, or_iff_not_imp_left] using kind
          rw [List.filter_cons_of_neg (by simp [kind]), List.filter_nil, List.append_nil, ih]
          by_cases same : option.name = name
          · simp [← same, reserved]
          · simp [same]

end TargetOption

namespace Target

open TargetOption

variable {kind : String} {options other : List TargetOption} {target : Target}

theorem means_ofOptions (kind : String) (options : List TargetOption) :
    (alone (.ofOptions kind options)).Means kind options where
  named := rfl
  device _ := lastValue_eq_some
  attrs name value := by
    have found : (alone (.ofOptions kind options)).attr name =
        if name = "device" ∨ name = "keys" then none else lastValue name options :=
      find?_attributes options name
    rw [found]
    by_cases reserved : name = "device" ∨ name = "keys"
    · rw [if_pos reserved]
      exact ⟨fun none => (nomatch none), fun ⟨device, keys, _⟩ =>
        absurd reserved (not_or.mpr ⟨device, keys⟩)⟩
    · rw [if_neg reserved, lastValue_eq_some]
      exact ⟨fun last => ⟨(not_or.mp reserved).1, (not_or.mp reserved).2, last⟩, fun ⟨_, _, last⟩ => last⟩
  listed value last := by
    have read : lastValue "keys" options = some value := lastValue_eq_some.mpr last
    have keys : (TargetSpec.ofOptions kind options).keys = TargetSpec.keyList value := by
      simp only [TargetSpec.ofOptions, read]
    change Text.Splits _ _ ((TargetSpec.ofOptions kind options).keys.map String.toList)
    rw [keys, TargetSpec.keyList, List.map_map]
    exact Text.splits_iff.mpr (List.map_id'' (fun _ => String.toList_ofList) _).symm
  unlisted never := by
    have read : lastValue "keys" options = none :=
      Option.eq_none_iff_forall_ne_some.mpr fun value last => never value (lastValue_eq_some.mp last)
    change (TargetSpec.ofOptions kind options).keys = _
    simp only [TargetSpec.ofOptions, read]
    rfl
  alone := rfl

theorem Means.eq {left right : Target} (first : left.Means kind options) (second : right.Means kind options) :
    left = right := by
  have device : left.device = right.device := by
    ext value
    rw [first.device, second.device]
  have attrs : left.spec.attrs = right.spec.attrs := by
    refine NameTable.ext_find? fun name => ?_
    ext value
    exact (first.attrs name value).trans (second.attrs name value).symm
  have keys : left.spec.keys = right.spec.keys := by
    by_cases given : ∃ value, Last options "keys" value
    · obtain ⟨value, last⟩ := given
      have same := (first.listed value last).parts_eq.symm.trans (second.listed value last).parts_eq
      exact List.map_injective_iff.mpr (fun _ _ equal => String.toList_inj.mp equal) same
    · have never := not_exists.mp given
      rw [first.unlisted never, second.unlisted never, device]
  cases left with
  | hosted spec host => cases first.alone
  | alone spec =>
      cases right with
      | hosted spec host => cases second.alone
      | alone spec' =>
          congr 1
          cases spec
          cases spec'
          simp only [Target.device, Target.spec] at device attrs keys
          have named := first.named.trans second.named.symm
          simp only [Target.spec] at named
          subst named device attrs keys
          rfl

theorem Means.congr (means : target.Means kind options)
    (same : ∀ name value, Last options name value ↔ Last other name value) : target.Means kind other where
  named := means.named
  device value := (means.device value).trans (same _ _)
  attrs name value := by rw [means.attrs, same]
  listed value last := means.listed value ((same _ _).mpr last)
  unlisted never := means.unlisted fun value last => never value ((same _ _).mp last)
  alone := means.alone

end Target

namespace TargetSpec

open TargetOption

variable {words : List (List Char)} {spec : TargetSpec} {fault : TargetFault}

theorem ofWords_error : ofWords words = .error fault ↔ fault.First words := by
  cases words with
  | nil =>
      constructor
      · intro read
        cases read
        exact .empty
      · rintro ⟨⟩
        rfl
  | cons kind tokens =>
      rw [ofWords]
      split
      · rename_i dashed
        constructor
        · intro read
          cases read
          exact .kindNotFirst dashed
        · rintro (_ | _ | ⟨undashed, _, _⟩)
          · rfl
          · exact absurd dashed undashed
      · rename_i undashed
        have handed : (do return ofOptions (String.ofList kind) (← tokens.mapM ofToken) :
            Except TargetFault TargetSpec) = .error fault ↔ tokens.mapM ofToken = .error fault := by
          cases tokens.mapM ofToken with
          | error other => exact Iff.rfl.trans (by simp [bind, Except.bind])
          | ok options => simp [bind, Except.bind, pure, Except.pure]
        rw [handed, mapM_error]
        constructor
        · rintro ⟨before, token, after, rfl, fine, wrong⟩
          exact .token undashed fine wrong
        · rintro (_ | dashed | ⟨-, fine, wrong⟩)
          · exact absurd dashed undashed
          · exact ⟨_, _, _, rfl, fine, wrong⟩

theorem ofWords_ok : ofWords words = .ok spec ↔ ∃ kind tokens options, words = kind :: tokens ∧
    kind.head? ≠ some '-' ∧ List.Forall₂ Written tokens options ∧
      spec = ofOptions (String.ofList kind) options := by
  cases words with
  | nil =>
      constructor
      · intro read
        cases read
      · rintro ⟨kind, tokens, options, none, -⟩
        cases none
  | cons kind tokens =>
      rw [ofWords]
      constructor
      · intro read
        split at read
        · cases read
        · rename_i undashed
          cases tokensRead : tokens.mapM ofToken with
          | error fault =>
              rw [tokensRead] at read
              cases read
          | ok options =>
              rw [tokensRead] at read
              cases read
              exact ⟨kind, tokens, options, rfl, undashed, mapM_ok.mp tokensRead, rfl⟩
      · rintro ⟨kind, tokens, options, same, undashed, each, rfl⟩
        cases same
        rw [if_neg undashed, mapM_ok.mpr each]
        rfl

end TargetSpec

/-! ### The order of options -/

def Text.optionName (token : List Char) : List Char := (token.drop 1).takeWhile (· ≠ '=')

namespace TargetOption

variable {token : List Char} {option : TargetOption} {tokens reordered : List (List Char)}
  {options : List TargetOption}

theorem Written.optionName_eq (written : Written token option) :
    Text.optionName token = option.name.toList := by
  cases written with
  | @switch name named whole =>
      have before := (@cut_name name [] whole fun _ none => nomatch none).1
      rw [List.append_nil] at before
      rw [Text.optionName, List.drop_one, List.tail_cons, before, String.toList_ofList]
  | @setting name value named whole =>
      have before := (@cut_name name ('=' :: value) whole (by simp)).1
      rw [Text.optionName, List.drop_one, List.tail_cons, before, String.toList_ofList]

theorem written_filter (each : List.Forall₂ Written tokens options) (name : String) :
    List.Forall₂ Written (tokens.filter fun token => Text.optionName token = name.toList)
      (options.filter fun option => option.name = name) := by
  induction each with
  | nil => exact .nil
  | @cons token option tokens options written _ ih =>
      have alike : Text.optionName token = name.toList ↔ option.name = name := by
        rw [written.optionName_eq, String.toList_inj]
      by_cases same : option.name = name
      · rw [List.filter_cons_of_pos (by simpa using alike.mpr same),
          List.filter_cons_of_pos (by simpa using same)]
        exact .cons written ih
      · rw [List.filter_cons_of_neg (by simpa using mt alike.mp same),
          List.filter_cons_of_neg (by simpa using same)]
        exact ih

theorem exists_written : (∃ options, List.Forall₂ Written tokens options) ↔
    ∀ token ∈ tokens, ∃ option, Written token option := by
  constructor
  · rintro ⟨options, each⟩
    induction each with
    | nil => exact List.forall_mem_nil _
    | cons written _ ih => exact List.forall_mem_cons.mpr ⟨⟨_, written⟩, ih⟩
  · intro fine
    cases read : tokens.mapM ofToken with
    | ok options => exact ⟨options, mapM_ok.mp read⟩
    | error fault =>
        obtain ⟨before, token, after, rfl, -, wrong⟩ := mapM_error.mp read
        obtain ⟨option, written⟩ := fine token (by simp)
        cases written.ofToken_eq.symm.trans wrong.ofToken_eq

theorem lastValue_filter (name : String) (options : List TargetOption) :
    lastValue name (options.filter fun option => option.name = name) = lastValue name options := by
  rw [lastValue, lastValue, ← List.filter_reverse, List.find?_filter]
  simp

/-- Tokens in an order that keeps those of each name in theirs write options with the same last values. -/
theorem exists_reordered (each : List.Forall₂ Written tokens options)
    (order : ∀ name, reordered.filter (fun token => Text.optionName token = name) =
      tokens.filter fun token => Text.optionName token = name) :
    ∃ others, List.Forall₂ Written reordered others ∧
      ∀ name value, Last options name value ↔ Last others name value := by
  have inside : ∀ token ∈ reordered, token ∈ tokens := by
    intro token member
    have kept : token ∈ reordered.filter fun other => Text.optionName other = Text.optionName token :=
      List.mem_filter.mpr ⟨member, by simp⟩
    rw [order] at kept
    exact (List.mem_filter.mp kept).1
  obtain ⟨others, written⟩ := exists_written.mpr fun token member =>
    exists_written.mp ⟨options, each⟩ token (inside token member)
  refine ⟨others, written, fun name value => ?_⟩
  have same : options.filter (fun option => option.name = name) =
      others.filter fun option => option.name = name := by
    have first := mapM_ok.mpr (written_filter each name)
    have second := mapM_ok.mpr (written_filter written name)
    rw [order, first] at second
    exact Except.ok.inj second
  rw [← lastValue_eq_some, ← lastValue_eq_some, ← lastValue_filter, same, lastValue_filter]

end TargetOption

namespace Target

open TargetOption

theorem parse_ok {text : String} {target : Target} : parse text = .ok target ↔
    ∃ kind tokens options, Text.Splits Text.isBlank text.toList (kind :: tokens) ∧ kind.head? ≠ some '-' ∧
      List.Forall₂ Written tokens options ∧ target.Means (String.ofList kind) options := by
  constructor
  · intro read
    rw [parse] at read
    split at read
    · rename_i spec words
      cases read
      obtain ⟨kind, tokens, options, cut, undashed, each, rfl⟩ := TargetSpec.ofWords_ok.mp words
      exact ⟨kind, tokens, options, Text.splits_iff.mpr cut, undashed, each, means_ofOptions _ _⟩
    · cases read
  · rintro ⟨kind, tokens, options, splits, undashed, each, means⟩
    have words : TargetSpec.ofWords (Text.words text.toList) = .ok (.ofOptions (String.ofList kind) options) :=
      TargetSpec.ofWords_ok.mpr ⟨kind, tokens, options, splits.parts_eq, undashed, each, rfl⟩
    rw [parse, words, means.eq (means_ofOptions _ _)]

theorem parse_error {text : String} {failure : Failure} : parse text = .error failure ↔
    ∃ words, ∃ fault : TargetFault, Text.Splits Text.isBlank text.toList words ∧ fault.First words ∧
      failure = fault.failure text := by
  constructor
  · intro read
    rw [parse] at read
    split at read
    · cases read
    · rename_i fault words
      cases read
      exact ⟨_, fault, Text.splits_iff.mpr rfl, TargetSpec.ofWords_error.mp words, rfl⟩
  · rintro ⟨words, fault, splits, first, rfl⟩
    have read : TargetSpec.ofWords (Text.words text.toList) = .error fault := by
      rw [Text.words, splits.parts_eq]
      exact TargetSpec.ofWords_error.mpr first
    rw [parse, read]

/-- Which texts are read and as what, which fault is told of the others, and what a text may be changed in
without a change of its target: the blanks, and the order of options with different names. -/
theorem parse_meaning (text : String) :
    ((∃ target, parse text = .ok target) ↔
      ∃ kind tokens, Text.Splits Text.isBlank text.toList (kind :: tokens) ∧ kind.head? ≠ some '-' ∧
        ∀ token ∈ tokens, ∃ option, Written token option) ∧
    (∀ failure, parse text = .error failure ↔
      ∃ words, ∃ fault : TargetFault, Text.Splits Text.isBlank text.toList words ∧ fault.First words ∧
        failure = fault.failure text) ∧
    (∀ target, parse text = .ok target ↔
      ∃ kind tokens options, Text.Splits Text.isBlank text.toList (kind :: tokens) ∧ kind.head? ≠ some '-' ∧
        List.Forall₂ Written tokens options ∧ target.Means (String.ofList kind) options) ∧
    ∀ other kind tokens reordered, Text.Splits Text.isBlank text.toList (kind :: tokens) →
      Text.Splits Text.isBlank other.toList (kind :: reordered) →
      (∀ name, reordered.filter (fun token => Text.optionName token = name) =
        tokens.filter fun token => Text.optionName token = name) →
      ∀ target, parse text = .ok target → parse other = .ok target := by
  refine ⟨?_, fun _ => parse_error, fun _ => parse_ok, ?_⟩
  · constructor
    · rintro ⟨target, read⟩
      obtain ⟨kind, tokens, options, splits, undashed, each, -⟩ := parse_ok.mp read
      exact ⟨kind, tokens, splits, undashed, exists_written.mp ⟨options, each⟩⟩
    · rintro ⟨kind, tokens, splits, undashed, fine⟩
      obtain ⟨options, each⟩ := exists_written.mpr fine
      exact ⟨_, parse_ok.mpr ⟨kind, tokens, options, splits, undashed, each, means_ofOptions _ _⟩⟩
  · intro other kind tokens reordered splits otherSplits order target read
    obtain ⟨kind', tokens', options, splits', undashed, each, means⟩ := parse_ok.mp read
    obtain ⟨rfl, rfl⟩ := List.cons.inj (splits.parts_eq.symm.trans splits'.parts_eq)
    obtain ⟨others, written, same⟩ := exists_reordered each order
    exact parse_ok.mpr ⟨kind, reordered, others, otherSplits, undashed, written, means.congr same⟩

theorem parse_meaning_reordered :
    (∃ target, parse "llvm -device=arm_cpu -mcpu=a53" = .ok target) ∧
      parse "  llvm -mcpu=a53   -device=arm_cpu" = parse "llvm -device=arm_cpu -mcpu=a53" := by
  obtain ⟨target, read⟩ : ∃ target, parse "llvm -device=arm_cpu -mcpu=a53" = .ok target :=
    ⟨_, by rfl⟩
  refine ⟨⟨target, read⟩, ?_⟩
  rw [read]
  refine (parse_meaning _).2.2.2 _ "llvm".toList ["-device=arm_cpu".toList, "-mcpu=a53".toList]
    ["-mcpu=a53".toList, "-device=arm_cpu".toList] (Text.splits_iff.mpr (by decide +kernel))
    (Text.splits_iff.mpr (by decide +kernel)) (fun name => ?_) target read
  have different : Text.optionName "-device=arm_cpu".toList ≠ Text.optionName "-mcpu=a53".toList := by
    decide +kernel
  simp only [List.filter_cons, List.filter_nil, decide_eq_true_eq]
  split
  · rename_i cpu
    rw [if_neg (cpu ▸ different), if_neg (cpu ▸ different)]
  · rfl

end Target

end TuningTasks
