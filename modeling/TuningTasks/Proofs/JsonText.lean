import TuningTasks.Json.Reader
import TuningTasks.Json.Writer

/-!
Reading gives back what was written (`Json.read_write`), so different values have different texts. The
scanner is followed token by token: a text that is written in front of a rest takes the builder to where
the value is complete, and leaves the rest. `nesting` counts the brackets of a text that stand outside
its strings; a written text nests as deep as its value (`Json.nesting_write`).
-/
namespace TuningTasks.Json

/-! ### From token to token -/

namespace Reader

/-- What is read in the end if the text comes next. -/
def value? (reader : Reader) (text : List Char) : Option Json := (reader.run text).bind finish

theorem value?_cons (reader : Reader) (c : Char) (rest : List Char) :
    reader.value? (c :: rest) = (reader.step c).bind fun next => next.value? rest := by
  simp only [value?, run, List.foldlM_cons]
  cases reader.step c <;> rfl

theorem value?_quiet {scan : Scan} {c : Char} (next : Scan) (step : scan.step c = some (next, []))
    (build : Build) (rest : List Char) :
    value? ⟨scan, build⟩ (c :: rest) = value? ⟨next, build⟩ rest := by
  rw [value?_cons, Reader.step, step]
  rfl

theorem value?_token {scan : Scan} {c : Char} {token : Token}
    (step : scan.step c = some (.between, [token])) (build : Build) (rest : List Char) :
    value? ⟨scan, build⟩ (c :: rest) =
      (build.accept token).bind fun next => value? ⟨.between, next⟩ rest := by
  rw [value?_cons, Reader.step, step]
  cases taken : build.accept token <;> simp [taken]

end Reader

open Reader

def Delimits (c : Char) : Prop := c = ',' ∨ c = ']' ∨ c = '\x7d'

inductive Delimited : List Char → Prop
  | nil : Delimited []
  | cons {c : Char} (mark : Delimits c) (rest : List Char) : Delimited (c :: rest)

theorem value?_ended {scan : Scan} {token : Token} (ended : scan.ended = some [token])
    (stops : ∀ c, Delimits c → scan.step c = scan.restart c) (build : Build)
    {rest : List Char} (delimited : Delimited rest) :
    value? ⟨scan, build⟩ rest =
      (build.accept token).bind fun next => value? ⟨.between, next⟩ rest := by
  cases delimited with
  | nil =>
      change finish ⟨scan, build⟩ = (build.accept token).bind fun next => finish ⟨.between, next⟩
      rw [finish, ended]
      cases taken : build.accept token with
      | none => simp [taken]
      | some next =>
          simp only [Option.bind_eq_bind, Option.bind_some, List.foldlM_cons, taken, List.foldlM_nil]
          cases next <;> rfl
  | cons mark rest =>
      rename_i c
      have restarted := stops c mark
      rw [value?_cons, Reader.step, restarted, Scan.restart, ended]
      cases begun : Scan.start c with
      | none =>
          cases build.accept token with
          | none => rfl
          | some next => simp [value?_cons, Reader.step, Scan.step, begun]
      | some started =>
          cases taken : build.accept token with
          | none => simp [taken]
          | some next => simp [value?_cons, Reader.step, Scan.step, begun, taken]

/-! ### Numbers -/

theorem value?_lexeme {lexeme : List Char} (plain : ∀ c ∈ lexeme, isNumeralChar c = true)
    (past : List Char) (build : Build) (rest : List Char) :
    value? ⟨.numeral past, build⟩ (lexeme ++ rest) =
      value? ⟨.numeral (lexeme.reverse ++ past), build⟩ rest := by
  induction lexeme generalizing past with
  | nil => rfl
  | cons c others ih =>
      have here := plain c List.mem_cons_self
      have later := ih fun d member => plain d (List.mem_cons_of_mem c member)
      have step : (Scan.numeral past).step c = some (.numeral (c :: past), []) := by
        simp only [Scan.step, here, ↓reduceIte]
      rw [List.cons_append, value?_quiet _ step, later]
      simp

theorem start_of_digit {c : Char} (digit : c.isDigit = true) :
    Scan.start c = some (.numeral [c], []) := by
  -- A digit is none of the marks that have a case of their own, and no space.
  unfold Scan.start
  split
  case h_8 =>
    have apart : isSpace c = false := by
      simp only [isSpace, Bool.or_eq_false_iff, beq_eq_false_iff_ne, ne_eq]
      refine ⟨⟨⟨?_, ?_⟩, ?_⟩, ?_⟩
      all_goals
        rintro rfl
        simp at digit
    simp [apart, digit]
  all_goals simp at digit

theorem value?_numeral {c : Char} {others : List Char}
    (begins : Scan.start c = some (.numeral [c], []))
    (plain : ∀ d ∈ others, isNumeralChar d = true) {value : Option Int}
    (spells : numeral? (c :: others) = some value) (build : Build) {rest : List Char}
    (delimited : Delimited rest) :
    value? ⟨.between, build⟩ (c :: (others ++ rest)) =
      (build.accept (.number value)).bind fun next => value? ⟨.between, next⟩ rest := by
  have ended : (Scan.numeral (others.reverse ++ [c])).ended = some [.number value] := by
    simp [Scan.ended, spells]
  have stops : ∀ d, Delimits d →
      (Scan.numeral (others.reverse ++ [c])).step d = (Scan.numeral (others.reverse ++ [c])).restart d := by
    rintro d (rfl | rfl | rfl)
    all_goals rfl
  have first : Scan.between.step c = some (.numeral [c], []) := begins
  rw [value?_quiet _ first, value?_lexeme plain]
  exact value?_ended ended stops build delimited

theorem toDigits_isDigit (n : Nat) : ∀ c ∈ Nat.toDigits 10 n, c.isDigit = true := fun _ member =>
  Nat.isDigit_of_mem_toDigits (by decide) (by decide) member

theorem digitChar_zero : ∀ n < 10, n.digitChar = '0' → n = 0 := by decide

theorem toDigits_head (n : Nat) : (Nat.toDigits 10 n).head? = some '0' → n = 0 := by
  induction n using Nat.strongRecOn with
  | ind n ih =>
      intro zero
      by_cases small : n < 10
      · rw [Nat.toDigits_of_lt_base small] at zero
        exact digitChar_zero n small (by simpa using zero)
      · have first : (Nat.toDigits 10 n).head? = (Nat.toDigits 10 (n / 10)).head? := by
          rw [Nat.toDigits_of_base_le (by decide) (by omega), List.head?_append]
          cases cut : Nat.toDigits 10 (n / 10) with
          | nil => exact absurd cut Nat.toDigits_ne_nil
          | cons _ _ => rfl
        have shorter := ih (n / 10) (by omega) (first ▸ zero)
        omega

theorem isWhole_toDigits (n : Nat) : isWhole (Nat.toDigits 10 n) = true := by
  have nonempty : (Nat.toDigits 10 n).isEmpty = false := by simp
  rw [isWhole, nonempty]
  by_cases zero : (Nat.toDigits 10 n).head? = some '0'
  · simp [toDigits_head n zero]
  · simp [zero]

/-- An integer is read from its digits, with a dash before them if it is negative. -/
theorem numeral_digits (n : Nat) (negative : Bool) (apart : negative = true → n ≠ 0) :
    numeral? ((if negative then ['-'] else []) ++ Nat.toDigits 10 n) =
      some (some (if negative then -(n : Int) else n)) := by
  have digits := toDigits_isDigit n
  have taken : (Nat.toDigits 10 n ++ []).takeWhile Char.isDigit = Nat.toDigits 10 n ++ [] :=
    List.takeWhile_append_of_pos digits
  have dropped : (Nat.toDigits 10 n ++ []).dropWhile Char.isDigit = [] :=
    List.dropWhile_append_of_pos digits
  rw [List.append_nil] at taken dropped
  have whole := isWhole_toDigits n
  cases negative with
  | true =>
      have positive : n ≠ 0 := apart rfl
      simp [numeral?, taken, dropped, whole, isFraction, isExponent, positive,
        Nat.ofDigitChars_ten_toDigits]
  | false =>
      have unsigned : (Nat.toDigits 10 n).head? ≠ some '-' := by
        intro dash
        have digit := digits '-' (List.mem_of_mem_head? dash)
        simp at digit
      simp [numeral?, taken, dropped, whole, isFraction, isExponent, unsigned,
        Nat.ofDigitChars_ten_toDigits]

theorem value?_number (value : Option Int) (build : Build) {rest : List Char}
    (delimited : Delimited rest) :
    value? ⟨.between, build⟩ (numberOnto value rest) =
      (build.accept (.number value)).bind fun next => value? ⟨.between, next⟩ rest := by
  have plain : ∀ n, ∀ c ∈ Nat.toDigits 10 n, isNumeralChar c = true := by
    intro n c member
    simp [isNumeralChar, toDigits_isDigit n c member]
  match value with
  | none =>
      have zero : ∀ d ∈ ['0'], isNumeralChar d = true := List.all_eq_true.mp rfl
      exact value?_numeral rfl zero (by decide) build delimited
  | some (.ofNat n) =>
      have spells := numeral_digits n false (by simp)
      cases cut : Nat.toDigits 10 n with
      | nil => exact absurd cut Nat.toDigits_ne_nil
      | cons c others =>
          have first : c.isDigit = true := toDigits_isDigit n c (cut ▸ List.mem_cons_self)
          have after : ∀ d ∈ others, isNumeralChar d = true := fun d member =>
            plain n d (cut ▸ List.mem_cons_of_mem c member)
          rw [cut] at spells
          simp only [numberOnto, cut, List.cons_append]
          exact value?_numeral (start_of_digit first) after spells build delimited
  | some (.negSucc n) =>
      have spells := numeral_digits (n + 1) true (by simp)
      exact value?_numeral rfl (plain (n + 1)) spells build delimited

/-! ### Strings -/

theorem hexValue_digitChar : ∀ n < 16, hexValue? n.digitChar = some n := by decide

theorem hexValue_hexDigit (n : Nat) : hexValue? (hexDigit n) = some (n % 16) :=
  hexValue_digitChar (n % 16) (Nat.mod_lt n (by decide))

theorem value?_unit {c : Char} (small : c.toNat < 0x20) (pieces : List Piece) (build : Build)
    (rest : List Char) :
    value? ⟨.inside pieces, build⟩
        ('\\' :: 'u' :: '0' :: '0' :: hexDigit (c.toNat / 16) :: hexDigit c.toNat :: rest) =
      value? ⟨.inside (.unit c.toNat :: pieces), build⟩ rest := by
  have high : (Scan.unit pieces 0 2).step (hexDigit (c.toNat / 16)) =
      some (.unit pieces (c.toNat / 16) 3, []) := by
    have digit : c.toNat / 16 % 16 = c.toNat / 16 := by omega
    simp [Scan.step, hexValue_hexDigit, digit]
  have low : (Scan.unit pieces (c.toNat / 16) 3).step (hexDigit c.toNat) =
      some (.inside (.unit c.toNat :: pieces), []) := by
    have number : 16 * (c.toNat / 16) + c.toNat % 16 = c.toNat := by omega
    simp [Scan.step, hexValue_hexDigit, number]
  rw [value?_quiet (.escape pieces) rfl, value?_quiet (.unit pieces 0 0) rfl,
    value?_quiet (.unit pieces 0 1) rfl, value?_quiet (.unit pieces 0 2) rfl,
    value?_quiet _ high, value?_quiet _ low]

/-- A character is read as itself, from an escape or not, or by its number. -/
theorem value?_escapedChar (c : Char) : ∃ piece,
    (∀ pieces build rest, value? ⟨.inside pieces, build⟩ (escapedChar c ++ rest) =
      value? ⟨.inside (piece :: pieces), build⟩ rest) ∧
    ∀ others, textOf? (piece :: others) = (textOf? others).map (c :: ·) := by
  have named (letter plain : Char) (other : letter ≠ 'u') (escape : simpleEscape? letter = some plain) :
      ∃ piece, (∀ pieces build rest, value? ⟨.inside pieces, build⟩ (['\\', letter] ++ rest) =
          value? ⟨.inside (piece :: pieces), build⟩ rest) ∧
        ∀ others, textOf? (piece :: others) = (textOf? others).map (plain :: ·) := by
    refine ⟨.char plain, fun pieces build rest => ?_, fun others => by rw [textOf?]⟩
    have step : (Scan.escape pieces).step letter = some (.inside (.char plain :: pieces), []) := by
      simp only [Scan.step, other, ↓reduceIte, escape, Option.map_some]
    rw [List.cons_append, List.singleton_append, value?_quiet (.escape pieces) rfl, value?_quiet _ step]
  unfold escapedChar
  split
  case h_1 => exact named '"' '"' (by decide) rfl
  case h_2 => exact named '\\' '\\' (by decide) rfl
  case h_3 => exact named 'b' '\x08' (by decide) rfl
  case h_4 => exact named 't' '\t' (by decide) rfl
  case h_5 => exact named 'n' '\n' (by decide) rfl
  case h_6 => exact named 'f' '\x0c' (by decide) rfl
  case h_7 => exact named 'r' '\r' (by decide) rfl
  case h_8 quote backslash _ _ _ _ _ =>
    split
    · rename_i small
      refine ⟨.unit c.toNat, value?_unit small, fun others => ?_⟩
      have high : isHigh c.toNat = false := by
        simp [isHigh]
        omega
      have low : isLow c.toNat = false := by
        simp [isLow]
        omega
      rw [textOf?.eq_def]
      simp [high, low, Char.ofNat_toNat]
    · rename_i large
      refine ⟨.char c, fun pieces build rest => ?_, fun others => by rw [textOf?]⟩
      have step : (Scan.inside pieces).step c = some (.inside (.char c :: pieces), []) := by
        rw [Scan.step, if_neg quote, if_neg backslash, if_neg large]
      rw [List.singleton_append, value?_quiet _ step]

theorem value?_characters (characters : List Char) : ∃ pieces, textOf? pieces = some characters ∧
    ∀ past build rest, value? ⟨.inside past, build⟩ (characters.flatMap escapedChar ++ rest) =
      value? ⟨.inside (pieces.reverse ++ past), build⟩ rest := by
  induction characters with
  | nil => exact ⟨[], rfl, fun _ _ _ => rfl⟩
  | cons c others ih =>
      obtain ⟨piece, read, means⟩ := value?_escapedChar c
      obtain ⟨pieces, spells, later⟩ := ih
      refine ⟨piece :: pieces, by rw [means, spells]; rfl, fun past build rest => ?_⟩
      rw [List.flatMap_cons, List.append_assoc, read, later]
      simp

theorem value?_string (text : Option String) (build : Build) (rest : List Char) :
    value? ⟨.between, build⟩ (stringOnto text rest) =
      (build.accept (.string text)).bind fun next => value? ⟨.between, next⟩ rest := by
  have opens : Scan.between.step '"' = some (.inside [], []) := rfl
  cases text with
  | none =>
      -- The six characters are one unit, a high surrogate that nothing follows.
      have closes : (Scan.inside [.unit 0xd800]).step '"' = some (.between, [.string none]) := rfl
      simp only [stringOnto, List.cons_append, List.nil_append]
      rw [value?_quiet _ opens, value?_quiet (.escape []) rfl, value?_quiet (.unit [] 0 0) rfl,
        value?_quiet (.unit [] 0xd 1) rfl, value?_quiet (.unit [] 0xd8 2) rfl,
        value?_quiet (.unit [] 0xd80 3) rfl, value?_quiet (.inside [.unit 0xd800]) rfl,
        value?_token closes]
  | some text =>
      obtain ⟨pieces, spells, read⟩ := value?_characters text.toList
      have closes : (Scan.inside (pieces.reverse ++ [])).step '"' =
          some (.between, [.string (some text)]) := by
        simp [Scan.step, spells]
      rw [stringOnto, value?_quiet _ opens, read, value?_token closes]

/-! ### Values -/

/-- The builder takes the next token as the beginning of a value. -/
def Build.Awaits (build : Build) (frames : List Frame) : Prop :=
  ∀ token, token ≠ .closeArray → build.accept token = beginValue frames token

theorem awaits_value (frames : List Frame) : (Build.value frames).Awaits frames := fun _ _ => rfl

theorem awaits_firstItem (frames : List Frame) :
    (Build.firstItem frames).Awaits (.array [] :: frames) := by
  intro token other
  cases token <;> first | rfl | exact absurd rfl other

theorem value?_literal {c : Char} {letters : List Char} (begins : Scan.start c = some (.literal [c], []))
    (plain : ∀ d ∈ letters, d.isLower = true) {token : Token}
    (spells : literal? (c :: letters) = some token) (build : Build) {rest : List Char}
    (delimited : Delimited rest) :
    value? ⟨.between, build⟩ (c :: (letters ++ rest)) =
      (build.accept token).bind fun next => value? ⟨.between, next⟩ rest := by
  have run : ∀ past, value? ⟨.literal past, build⟩ (letters ++ rest) =
      value? ⟨.literal (letters.reverse ++ past), build⟩ rest := by
    clear spells
    induction letters with
    | nil => exact fun _ => rfl
    | cons d others ih =>
        intro past
        have later := ih (fun e member => plain e (List.mem_cons_of_mem d member)) (d :: past)
        have step : (Scan.literal past).step d = some (.literal (d :: past), []) := by
          simp only [Scan.step, plain d List.mem_cons_self, ↓reduceIte]
        rw [List.cons_append, value?_quiet _ step, later]
        simp
  have ended : (Scan.literal (letters.reverse ++ [c])).ended = some [token] := by
    simp [Scan.ended, spells]
  have stops : ∀ d, Delimits d →
      (Scan.literal (letters.reverse ++ [c])).step d = (Scan.literal (letters.reverse ++ [c])).restart d := by
    rintro d (rfl | rfl | rfl)
    all_goals rfl
  have first : Scan.between.step c = some (.literal [c], []) := begins
  rw [value?_quiet _ first, run]
  exact value?_ended ended stops build delimited

theorem Build.Awaits.scalar {build : Build} {frames : List Frame} (awaits : build.Awaits frames)
    {token : Token} {json : Json} (scalar : scalar? token = some json) {rest : List Char} :
    ((build.accept token).bind fun next => value? ⟨.between, next⟩ rest) =
      value? ⟨.between, .complete json frames⟩ rest := by
  have other : token ≠ .closeArray := by
    rintro rfl
    cases scalar
  have begun : beginValue frames token = (scalar? token).map fun json => complete json frames := by
    cases token <;> first | rfl | cases scalar
  rw [awaits token other, begun, scalar]
  rfl

def Build.AwaitsName (build : Build) (members : List (Option String × Json)) (frames : List Frame) :
    Prop :=
  ∀ name, build.accept (.string name) = some (.named members name frames)

mutual
/-- A written value is read as one, whatever is open around it. -/
theorem value?_onto : ∀ (json : Json) {build : Build} {frames : List Frame} {rest : List Char},
    build.Awaits frames → Delimited rest →
      value? ⟨.between, build⟩ (json.onto rest) = value? ⟨.between, .complete json frames⟩ rest
  | null, build, frames, rest, awaits, delimited => by
      have letters : ∀ d ∈ ['u', 'l', 'l'], d.isLower = true := List.all_eq_true.mp rfl
      have read := value?_literal (c := 'n') rfl letters rfl build delimited
      exact read.trans (awaits.scalar rfl)
  | bool true, build, frames, rest, awaits, delimited => by
      have letters : ∀ d ∈ ['r', 'u', 'e'], d.isLower = true := List.all_eq_true.mp rfl
      have read := value?_literal (c := 't') rfl letters rfl build delimited
      exact read.trans (awaits.scalar rfl)
  | bool false, build, frames, rest, awaits, delimited => by
      have letters : ∀ d ∈ ['a', 'l', 's', 'e'], d.isLower = true := List.all_eq_true.mp rfl
      have read := value?_literal (c := 'f') rfl letters rfl build delimited
      exact read.trans (awaits.scalar rfl)
  | number value, build, frames, rest, awaits, delimited =>
      (value?_number value build delimited).trans (awaits.scalar rfl)
  | string text, build, frames, rest, awaits, _ =>
      (value?_string text build rest).trans (awaits.scalar rfl)
  | array items, build, frames, rest, awaits, _ => by
      have opens : Scan.between.step '[' = some (.between, [.openArray]) := rfl
      have closes : Scan.between.step ']' = some (.between, [.closeArray]) := rfl
      rw [onto, value?_token opens, awaits _ Token.noConfusion]
      cases items with
      | nil => exact value?_token closes (.firstItem frames) rest
      | cons item others =>
          exact value?_itemsOnto (item :: others) (List.cons_ne_nil _ _) (awaits_firstItem frames)
  | object members, build, frames, rest, awaits, _ => by
      have opens : Scan.between.step '\x7b' = some (.between, [.openObject]) := rfl
      have closes : Scan.between.step '\x7d' = some (.between, [.closeObject]) := rfl
      have names : (Build.firstMember frames).AwaitsName [] frames := fun _ => rfl
      rw [onto, value?_token opens, awaits _ Token.noConfusion]
      cases members with
      | nil => exact value?_token closes (.firstMember frames) rest
      | cons member others => exact value?_membersOnto (member :: others) (List.cons_ne_nil _ _) names

theorem value?_itemsOnto : ∀ (items : List Json), items ≠ [] → ∀ {held : List Json} {build : Build}
    {frames : List Frame} {rest : List Char}, build.Awaits (.array held :: frames) →
      value? ⟨.between, build⟩ (itemsOnto items (']' :: rest)) =
        value? ⟨.between, .complete (.array (held.reverse ++ items)) frames⟩ rest
  | [], nonempty, _, _, _, _, _ => absurd rfl nonempty
  | [only], _, held, build, frames, rest, awaits => by
      have closes : Scan.between.step ']' = some (.between, [.closeArray]) := rfl
      rw [itemsOnto, value?_onto only awaits (.cons (Or.inr (Or.inl rfl)) rest), Build.complete,
        value?_token closes]
      simp [Build.accept]
  | item :: next :: others, _, held, build, frames, rest, awaits => by
      have parts : Scan.between.step ',' = some (.between, [.comma]) := rfl
      have later : value? ⟨.between, .value (.array (item :: held) :: frames)⟩
          (itemsOnto (next :: others) (']' :: rest)) = _ :=
        value?_itemsOnto (next :: others) (List.cons_ne_nil _ _) (awaits_value _)
      rw [itemsOnto, value?_onto item awaits (.cons (Or.inl rfl) _), Build.complete,
        value?_token parts]
      refine later.trans ?_
      simp

theorem value?_membersOnto : ∀ (members : List (Option String × Json)), members ≠ [] →
    ∀ {held : List (Option String × Json)} {build : Build} {frames : List Frame} {rest : List Char},
      build.AwaitsName held frames →
        value? ⟨.between, build⟩ (membersOnto members ('\x7d' :: rest)) =
          value? ⟨.between, .complete (.object (held.reverse ++ members)) frames⟩ rest
  | [], nonempty, _, _, _, _, _ => absurd rfl nonempty
  | [(name, value)], _, held, build, frames, rest, awaits => by
      have colon : Scan.between.step ':' = some (.between, [.colon]) := rfl
      have closes : Scan.between.step '\x7d' = some (.between, [.closeObject]) := rfl
      have read := value?_onto value (awaits_value (.object held name :: frames))
        (.cons (Or.inr (Or.inr rfl)) rest)
      rw [membersOnto, value?_string, awaits name, Option.bind_some, value?_token colon]
      refine read.trans ?_
      rw [Build.complete, value?_token closes]
      simp [Build.accept]
  | (name, value) :: next :: others, _, held, build, frames, rest, awaits => by
      have colon : Scan.between.step ':' = some (.between, [.colon]) := rfl
      have parts : Scan.between.step ',' = some (.between, [.comma]) := rfl
      have names : (Build.member ((name, value) :: held) frames).AwaitsName
          ((name, value) :: held) frames := fun _ => rfl
      have later : value? ⟨.between, .member ((name, value) :: held) frames⟩
          (membersOnto (next :: others) ('\x7d' :: rest)) = _ :=
        value?_membersOnto (next :: others) (List.cons_ne_nil _ _) names
      have read := value?_onto value (awaits_value (.object held name :: frames))
        (.cons (Or.inl rfl) (membersOnto (next :: others) ('\x7d' :: rest)))
      rw [membersOnto, value?_string, awaits name, Option.bind_some, value?_token colon]
      refine read.trans ?_
      rw [Build.complete, value?_token parts]
      refine later.trans ?_
      simp
end

/-- Every value is read back from its text. -/
theorem read_write (json : Json) : read? json.write = some json := by
  have read := value?_onto json (awaits_value []) .nil
  rw [read?, write, String.toList_ofList]
  exact read

theorem write_injective {left right : Json} (same : left.write = right.write) : left = right := by
  have read := read_write left
  rw [same, read_write] at read
  exact (Option.some.inj read).symm

/-! ### Nesting -/

/-- Where in a text a character stands: outside every string, inside one, or after a backslash there. -/
inductive Place
  | outside
  | inside
  | escaped

/-- The largest number of brackets that are open at once, of which some are open before the text. -/
def nestingFrom : Place → (opened : Nat) → List Char → Nat
  | _, opened, [] => opened
  | .outside, opened, c :: rest =>
      if c = '"' then nestingFrom .inside opened rest
      else if c = '[' ∨ c = '\x7b' then nestingFrom .outside (opened + 1) rest
      else if c = ']' ∨ c = '\x7d' then max opened (nestingFrom .outside (opened - 1) rest)
      else nestingFrom .outside opened rest
  | .inside, opened, c :: rest =>
      if c = '"' then nestingFrom .outside opened rest
      else if c = '\\' then nestingFrom .escaped opened rest
      else nestingFrom .inside opened rest
  | .escaped, opened, _ :: rest => nestingFrom .inside opened rest

def nesting (text : String) : Nat := nestingFrom .outside 0 text.toList

theorem le_nestingFrom (place : Place) (opened : Nat) (text : List Char) :
    opened ≤ nestingFrom place opened text := by
  fun_induction nestingFrom place opened text with
  | case1 => exact Nat.le_refl _
  | case3 opened c rest _ _ ih => omega
  | case4 => exact Nat.le_max_left _ _
  | case2 | case5 | case6 | case7 | case8 | case9 => assumption

def Unmarked (c : Char) : Prop :=
  c ≠ '"' ∧ (c ≠ '[' ∧ c ≠ '\x7b') ∧ c ≠ ']' ∧ c ≠ '\x7d'

theorem nestingFrom_unmarked {text : List Char} (plain : ∀ c ∈ text, Unmarked c) (opened : Nat)
    (rest : List Char) :
    nestingFrom .outside opened (text ++ rest) = nestingFrom .outside opened rest := by
  induction text with
  | nil => rfl
  | cons c others ih =>
      obtain ⟨quote, ⟨array, object⟩, closeArray, closeObject⟩ := plain c List.mem_cons_self
      rw [List.cons_append, nestingFrom]
      simp only [quote, array, object, closeArray, closeObject, or_self, ↓reduceIte]
      exact ih fun d member => plain d (List.mem_cons_of_mem c member)

theorem unmarked_of_digit {c : Char} (digit : c.isDigit = true) : Unmarked c := by
  refine ⟨?_, ⟨?_, ?_⟩, ?_, ?_⟩
  all_goals
    rintro rfl
    simp at digit

theorem nestingFrom_number (value : Option Int) (opened : Nat) (rest : List Char) :
    nestingFrom .outside opened (numberOnto value rest) = nestingFrom .outside opened rest := by
  have digits : ∀ n, ∀ c ∈ Nat.toDigits 10 n, Unmarked c := fun n c member =>
    unmarked_of_digit (toDigits_isDigit n c member)
  match value with
  | none => rfl
  | some (.ofNat n) => exact nestingFrom_unmarked (digits n) opened rest
  | some (.negSucc n) => exact nestingFrom_unmarked (digits (n + 1)) opened rest

theorem nestingFrom_escapedChar (c : Char) (opened : Nat) (rest : List Char) :
    nestingFrom .inside opened (escapedChar c ++ rest) = nestingFrom .inside opened rest := by
  unfold escapedChar
  split
  case h_8 quote backslash _ _ _ _ _ =>
    split
    · have digit (n : Nat) : hexDigit n ≠ '"' ∧ hexDigit n ≠ '\\' := by
        have each : ∀ n < 16, n.digitChar ≠ '"' ∧ n.digitChar ≠ '\\' := by decide
        exact each (n % 16) (Nat.mod_lt n (by decide))
      simp [nestingFrom, digit]
    · rw [List.singleton_append, nestingFrom, if_neg quote, if_neg backslash]
  all_goals rfl

theorem nestingFrom_string (text : Option String) (opened : Nat) (rest : List Char) :
    nestingFrom .outside opened (stringOnto text rest) = nestingFrom .outside opened rest := by
  have inside : ∀ characters : List Char,
      nestingFrom .inside opened (characters.flatMap escapedChar ++ '"' :: rest) =
        nestingFrom .outside opened rest := by
    intro characters
    induction characters with
    | nil => rfl
    | cons c others ih => rw [List.flatMap_cons, List.append_assoc, nestingFrom_escapedChar, ih]
  cases text with
  | none => rfl
  | some text => exact inside text.toList

mutual
theorem nestingFrom_onto : ∀ (json : Json) (opened : Nat) (rest : List Char),
    nestingFrom .outside opened (json.onto rest) =
      max (opened + json.depth) (nestingFrom .outside opened rest)
  | null, opened, rest => by
      have least := le_nestingFrom .outside opened rest
      exact (Nat.max_eq_right least).symm
  | bool true, opened, rest => by
      have least := le_nestingFrom .outside opened rest
      exact (Nat.max_eq_right least).symm
  | bool false, opened, rest => by
      have least := le_nestingFrom .outside opened rest
      exact (Nat.max_eq_right least).symm
  | number value, opened, rest => by
      have least := le_nestingFrom .outside opened rest
      exact (nestingFrom_number value opened rest).trans (Nat.max_eq_right least).symm
  | string text, opened, rest => by
      have least := le_nestingFrom .outside opened rest
      exact (nestingFrom_string text opened rest).trans (Nat.max_eq_right least).symm
  | array items, opened, rest => by
      have least := le_nestingFrom .outside opened rest
      have inner := nestingFrom_itemsOnto items (opened + 1) (']' :: rest)
      simp only [onto, nestingFrom, depth] at inner ⊢
      simp at inner ⊢
      omega
  | object members, opened, rest => by
      have least := le_nestingFrom .outside opened rest
      have inner := nestingFrom_membersOnto members (opened + 1) ('\x7d' :: rest)
      simp only [onto, nestingFrom, depth] at inner ⊢
      simp at inner ⊢
      omega

theorem nestingFrom_itemsOnto : ∀ (items : List Json) (opened : Nat) (rest : List Char),
    nestingFrom .outside opened (itemsOnto items rest) =
      max (opened + itemsDepth items) (nestingFrom .outside opened rest)
  | [], opened, rest => by
      have least := le_nestingFrom .outside opened rest
      exact (Nat.max_eq_right least).symm
  | [only], opened, rest => by
      have here := nestingFrom_onto only opened rest
      simp only [itemsOnto, itemsDepth]
      omega
  | item :: next :: others, opened, rest => by
      have later := nestingFrom_itemsOnto (next :: others) opened rest
      have here := nestingFrom_onto item opened (',' :: itemsOnto (next :: others) rest)
      have comma : nestingFrom .outside opened (',' :: itemsOnto (next :: others) rest) =
          nestingFrom .outside opened (itemsOnto (next :: others) rest) := rfl
      have deepest : itemsDepth (item :: next :: others) =
          max item.depth (itemsDepth (next :: others)) := rfl
      rw [itemsOnto, here, comma, later, deepest]
      omega

theorem nestingFrom_membersOnto : ∀ (members : List (Option String × Json)) (opened : Nat)
    (rest : List Char), nestingFrom .outside opened (membersOnto members rest) =
      max (opened + membersDepth members) (nestingFrom .outside opened rest)
  | [], opened, rest => by
      have least := le_nestingFrom .outside opened rest
      exact (Nat.max_eq_right least).symm
  | [(name, value)], opened, rest => by
      have here := nestingFrom_onto value opened rest
      have colon : nestingFrom .outside opened (':' :: value.onto rest) =
          nestingFrom .outside opened (value.onto rest) := rfl
      rw [membersOnto, nestingFrom_string, colon, here, membersDepth, membersDepth]
      omega
  | (name, value) :: next :: others, opened, rest => by
      have later := nestingFrom_membersOnto (next :: others) opened rest
      have here := nestingFrom_onto value opened (',' :: membersOnto (next :: others) rest)
      have colon : nestingFrom .outside opened
            (':' :: value.onto (',' :: membersOnto (next :: others) rest)) =
          nestingFrom .outside opened (value.onto (',' :: membersOnto (next :: others) rest)) := rfl
      have comma : nestingFrom .outside opened (',' :: membersOnto (next :: others) rest) =
          nestingFrom .outside opened (membersOnto (next :: others) rest) := rfl
      have deepest : membersDepth ((name, value) :: next :: others) =
          max value.depth (membersDepth (next :: others)) := rfl
      rw [membersOnto, nestingFrom_string, colon, here, comma, later, deepest]
      omega
end

/-- A text nests as deep as the value that it was written for. -/
theorem nesting_write (json : Json) : nesting json.write = json.depth := by
  have deep := nestingFrom_onto json 0 []
  rw [nesting, write, String.toList_ofList, deep, nestingFrom]
  omega

end TuningTasks.Json
