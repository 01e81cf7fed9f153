import TuningTasks.Decimal.Shortest

/-!
Display of a 64-bit binary floating point number given by its bits: sign bit, eleven bits of biased
exponent, fifty-two bits of fraction.
-/
namespace TuningTasks.Decimal

structure Binary64 where
  negative : Bool
  biased : Nat
  fraction : Nat
deriving DecidableEq, Repr

def Binary64.ofBits (bits : UInt64) : Binary64 :=
  let n := bits.toNat
  ⟨n.testBit 63, (n >>> 52) % 2048, n % (1 <<< 52)⟩

/-- The gap below a power of two is half the gap above it. -/
def Binary64.interval (x : Binary64) : Interval :=
  let mantissa := if x.biased = 0 then x.fraction else (1 <<< 52) + x.fraction
  let exponent : Int := (if x.biased = 0 then 1 else x.biased : Nat) - 1075
  let below := if x.biased ≠ 0 ∧ x.fraction = 0 then 1 else 2
  ⟨4 * mantissa - below, 4 * mantissa, 4 * mantissa + 2, exponent - 2, mantissa % 2 == 0⟩

def Binary64.display (x : Binary64) : String :=
  let sign := if x.negative then "-" else ""
  if x.biased = 2047 then
    if x.fraction = 0 then sign ++ "inf" else "NaN"
  else if x.biased = 0 ∧ x.fraction = 0 then sign ++ "0"
  else sign ++ x.interval.shortest.positional

end TuningTasks.Decimal
