import TuningTasks.Text.Properties

/-!
Quoted display of a text: double quotes around it, escapes for the quote, the backslash and what
would not show as a glyph of its own. A single quote stays as it is.
-/
namespace TuningTasks.Text

def hexDigits (n : Nat) : List Char := Nat.toDigits 16 n

def showsItself (c : Char) : Bool :=
  let point := c.toNat
  (0x20 ≤ point && point ≤ 0x7e) || !(within glyphless point || within extending point)

def quotedChar (c : Char) : List Char :=
  match c with
  | '\x00' => ['\\', '0']
  | '\t' => ['\\', 't']
  | '\n' => ['\\', 'n']
  | '\r' => ['\\', 'r']
  | '"' => ['\\', '"']
  | '\\' => ['\\', '\\']
  | other =>
      if showsItself other then [other]
      else ['\\', 'u', '\x7b'] ++ hexDigits other.toNat ++ ['\x7d']

def quoted (text : String) : String :=
  String.ofList ('"' :: text.toList.flatMap quotedChar ++ ['"'])

end TuningTasks.Text
