/-!
Decimal digits and the numbers they stand for. Core's `Nat.toDigits 10` writes what
`digitsValue?` reads.
-/
namespace TuningTasks.Text

/-- The number that one or more ASCII digits spell, leading zeros allowed. -/
def digitsValue? (digits : List Char) : Option Nat :=
  if digits.isEmpty || !digits.all Char.isDigit then none else some (Nat.ofDigitChars 10 digits 0)

end TuningTasks.Text
