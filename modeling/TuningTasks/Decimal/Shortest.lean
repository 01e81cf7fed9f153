/-!
The decimal with the fewest digits that rounds to a given binary fraction. A value is `4 * m` quarter
units, and what rounds to it lies between two bounds on that scale; the coarsest power of ten with a
multiple between the bounds fixes the number of digits, and the nearer multiple wins.
-/
namespace TuningTasks.Decimal

structure Numeral where
  digits : Nat
  exponent : Int
deriving DecidableEq, Repr

/-- The reals that round to a value, in units of `2 ^ exponent`. -/
structure Interval where
  low : Nat
  value : Nat
  high : Nat
  exponent : Int
  closed : Bool

/-- `n * 2 ^ two / 10 ^ ten` as numerator and denominator. -/
def scaled (n : Nat) (two ten : Int) : Nat × Nat :=
  (n * (Nat.pow 10 (-ten).toNat <<< two.toNat), Nat.pow 10 ten.toNat <<< (-two).toNat)

def Interval.holds (i : Interval) (ten : Int) (digits : Nat) : Bool :=
  let low := scaled i.low i.exponent ten
  let high := scaled i.high i.exponent ten
  if i.closed then low.1 ≤ digits * low.2 && digits * high.2 ≤ high.1
  else low.1 < digits * low.2 && digits * high.2 < high.1

/-- Of the two multiples of `10 ^ ten` around the value, the nearer one inside; a tie goes up. -/
def Interval.pick (i : Interval) (ten : Int) : Option Numeral :=
  let value := scaled i.value i.exponent ten
  let below := value.1 / value.2
  let above := below + 1
  match i.holds ten below, i.holds ten above with
  | true, true =>
      if 2 * (value.1 - below * value.2) < value.2 then some ⟨below, ten⟩ else some ⟨above, ten⟩
  | true, false => some ⟨below, ten⟩
  | false, true => some ⟨above, ten⟩
  | false, false => none

def Interval.search (i : Interval) (start : Int) : Nat → Option Numeral
  | 0 => none
  | count + 1 => (i.pick start).orElse fun _ => i.search (start - 1) count

/-- An upper bound for the decimal exponent of `n * 2 ^ two`, since `log₁₀ 2 < 30103 / 100000`. -/
def magnitude (n : Nat) (two : Int) : Int :=
  ((Nat.log2 n + 1 : Int) + two) * 30103 / 100000 + 1

def Interval.shortest (i : Interval) : Numeral :=
  (i.search (magnitude i.value i.exponent) 24).getD ⟨0, 0⟩

/-- Positional notation: never an exponent, no point in a whole number. -/
def Numeral.positional (n : Numeral) : String :=
  let text := Nat.toDigits 10 n.digits
  if 0 ≤ n.exponent then String.ofList (text ++ List.replicate n.exponent.toNat '0')
  else
    let places := (-n.exponent).toNat
    let padded := List.replicate (places + 1 - text.length) '0' ++ text
    let whole := padded.length - places
    String.ofList (padded.take whole ++ '.' :: padded.drop whole)

end TuningTasks.Decimal
