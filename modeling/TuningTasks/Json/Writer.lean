import TuningTasks.Json.Basic

/-!
Compact JSON text. Inside a string only the quote, the backslash and the control characters below
U+0020 are escaped. Every function writes in front of a given rest.
-/
namespace TuningTasks.Json

def hexDigit (n : Nat) : Char := Nat.digitChar (n % 16)

def escapedChar (c : Char) : List Char :=
  match c with
  | '"' => ['\\', '"']
  | '\\' => ['\\', '\\']
  | '\x08' => ['\\', 'b']
  | '\t' => ['\\', 't']
  | '\n' => ['\\', 'n']
  | '\x0c' => ['\\', 'f']
  | '\r' => ['\\', 'r']
  | other =>
      if other.toNat < 0x20 then
        ['\\', 'u', '0', '0', hexDigit (other.toNat / 16), hexDigit other.toNat]
      else [other]

/-- A string without a text is written as a surrogate on its own. -/
def stringOnto (text : Option String) (rest : List Char) : List Char :=
  let inside := match text with
    | some value => value.toList.flatMap escapedChar
    | none => ['\\', 'u', 'd', '8', '0', '0']
  '"' :: (inside ++ '"' :: rest)

/-- A number without an integer value is written as minus zero, which is no integer. -/
def numberOnto (value : Option Int) (rest : List Char) : List Char :=
  match value with
  | none => '-' :: '0' :: rest
  | some (.ofNat n) => Nat.toDigits 10 n ++ rest
  | some (.negSucc n) => '-' :: (Nat.toDigits 10 (n + 1) ++ rest)

mutual
def onto : Json → List Char → List Char
  | null, rest => 'n' :: 'u' :: 'l' :: 'l' :: rest
  | bool true, rest => 't' :: 'r' :: 'u' :: 'e' :: rest
  | bool false, rest => 'f' :: 'a' :: 'l' :: 's' :: 'e' :: rest
  | number value, rest => numberOnto value rest
  | string text, rest => stringOnto text rest
  | array items, rest => '[' :: itemsOnto items (']' :: rest)
  | object members, rest => '\x7b' :: membersOnto members ('\x7d' :: rest)

def itemsOnto : List Json → List Char → List Char
  | [], rest => rest
  | [only], rest => only.onto rest
  | item :: next :: others, rest => item.onto (',' :: itemsOnto (next :: others) rest)

def membersOnto : List (Option String × Json) → List Char → List Char
  | [], rest => rest
  | [(name, value)], rest => stringOnto name (':' :: value.onto rest)
  | (name, value) :: next :: others, rest =>
      stringOnto name (':' :: value.onto (',' :: membersOnto (next :: others) rest))
end

def write (json : Json) : String := String.ofList (json.onto [])

end TuningTasks.Json
