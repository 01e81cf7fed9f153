import TuningTasks.Json.Basic
import TuningTasks.Text.Digits

/-!
The tokens of a JSON text, cut from it one character at a time. `Scan` is what the scanner knows
between two characters; a step may complete tokens.
-/
namespace TuningTasks.Json

inductive Token
  | openArray
  | closeArray
  | openObject
  | closeObject
  | comma
  | colon
  | null
  | bool (value : Bool)
  | number (value : Option Int)
  | string (text : Option String)
deriving DecidableEq

/-- What stands in a string: a character, or a 16-bit unit given by its four hexadecimal digits. -/
inductive Piece
  | char (c : Char)
  | unit (value : Nat)
deriving DecidableEq

def isHigh (unit : Nat) : Bool := 0xd800 ≤ unit && unit < 0xdc00

def isLow (unit : Nat) : Bool := 0xdc00 ≤ unit && unit < 0xe000

/-- A high surrogate has to be followed by a low one; a low one does not stand elsewhere. -/
def textOf? : List Piece → Option (List Char)
  | [] => some []
  | .char c :: rest => (textOf? rest).map (c :: ·)
  | .unit high :: rest =>
      if isHigh high then
        match rest with
        | .unit low :: rest =>
            if isLow low then
              (textOf? rest).map (Char.ofNat (0x10000 + (high - 0xd800) * 0x400 + (low - 0xdc00)) :: ·)
            else none
        | _ => none
      else if isLow high then none
      else (textOf? rest).map (Char.ofNat high :: ·)

def isWhole (digits : List Char) : Bool :=
  !digits.isEmpty && (digits.head? != some '0' || digits.length == 1)

def isExponent : List Char → Bool
  | [] => true
  | mark :: rest =>
      (mark == 'e' || mark == 'E') &&
        (Text.digitsValue? (match rest with
          | '+' :: digits => digits
          | '-' :: digits => digits
          | digits => digits)).isSome

def isFraction : List Char → Bool
  | '.' :: rest =>
      !(rest.takeWhile Char.isDigit).isEmpty && isExponent (rest.dropWhile Char.isDigit)
  | rest => isExponent rest

/-- The integer that a numeral spells, if it is one; minus zero is none. -/
def numeral? (lexeme : List Char) : Option (Option Int) :=
  let negative := lexeme.head? == some '-'
  let body := if negative then lexeme.tail else lexeme
  let whole := body.takeWhile Char.isDigit
  let rest := body.dropWhile Char.isDigit
  let value := Nat.ofDigitChars 10 whole 0
  if !isWhole whole || !isFraction rest then none
  else if !rest.isEmpty || (negative && value == 0) then some none
  else some (some (if negative then -(value : Int) else value))

def literal? (letters : List Char) : Option Token :=
  if letters = ['n', 'u', 'l', 'l'] then some .null
  else if letters = ['t', 'r', 'u', 'e'] then some (.bool true)
  else if letters = ['f', 'a', 'l', 's', 'e'] then some (.bool false)
  else none

inductive Scan
  | between
  | literal (letters : List Char)
  | numeral (lexeme : List Char)
  | inside (pieces : List Piece)
  | escape (pieces : List Piece)
  | unit (pieces : List Piece) (value digits : Nat)
deriving DecidableEq

def isSpace (c : Char) : Bool := c == ' ' || c == '\t' || c == '\n' || c == '\r'

def isNumeralChar (c : Char) : Bool :=
  c.isDigit || c == '-' || c == '+' || c == '.' || c == 'e' || c == 'E'

def hexValue? (c : Char) : Option Nat :=
  if c.isDigit then some (c.toNat - '0'.toNat)
  else if 'a' ≤ c && c ≤ 'f' then some (c.toNat - 'a'.toNat + 10)
  else if 'A' ≤ c && c ≤ 'F' then some (c.toNat - 'A'.toNat + 10)
  else none

def simpleEscape? (c : Char) : Option Char :=
  match c with
  | '"' => some '"'
  | '\\' => some '\\'
  | '/' => some '/'
  | 'b' => some '\x08'
  | 'f' => some '\x0c'
  | 'n' => some '\n'
  | 'r' => some '\r'
  | 't' => some '\t'
  | _ => none

namespace Scan

def start (c : Char) : Option (Scan × List Token) :=
  match c with
  | '[' => some (between, [.openArray])
  | ']' => some (between, [.closeArray])
  | '\x7b' => some (between, [.openObject])
  | '\x7d' => some (between, [.closeObject])
  | ',' => some (between, [.comma])
  | ':' => some (between, [.colon])
  | '"' => some (inside [], [])
  | _ =>
      if isSpace c then some (between, [])
      else if c.isDigit || c == '-' then some (numeral [c], [])
      else if c.isLower then some (literal [c], [])
      else none

def ended : Scan → Option (List Token)
  | between => some []
  | literal letters => (literal? letters.reverse).map ([·])
  | numeral lexeme => (numeral? lexeme.reverse).map ([.number ·])
  | _ => none

def restart (scan : Scan) (c : Char) : Option (Scan × List Token) := do
  let before ← scan.ended
  let (next, tokens) ← start c
  return (next, before ++ tokens)

def step (scan : Scan) (c : Char) : Option (Scan × List Token) :=
  match scan with
  | between => start c
  | literal letters => if c.isLower then some (literal (c :: letters), []) else scan.restart c
  | numeral lexeme => if isNumeralChar c then some (numeral (c :: lexeme), []) else scan.restart c
  | inside pieces =>
      if c = '"' then some (between, [.string ((textOf? pieces.reverse).map String.ofList)])
      else if c = '\\' then some (escape pieces, [])
      else if c.toNat < 0x20 then none
      else some (inside (.char c :: pieces), [])
  | escape pieces =>
      if c = 'u' then some (unit pieces 0 0, [])
      else (simpleEscape? c).map fun plain => (inside (.char plain :: pieces), [])
  | unit pieces value digits =>
      (hexValue? c).map fun digit =>
        if digits = 3 then (inside (.unit (16 * value + digit) :: pieces), [])
        else (unit pieces (16 * value + digit) (digits + 1), [])

end Scan

end TuningTasks.Json
