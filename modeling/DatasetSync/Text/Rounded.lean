/-!
# Rounded numbers

The integer nearest to a number; of two that are equally near, the even one.
-/

namespace DatasetSync.Text

/-- The integer nearest to a quotient, the even one of two. -/
def roundedQuotient (numerator denominator : Nat) : Nat :=
  let quotient := numerator / denominator
  let rest := numerator % denominator
  if denominator < 2 * rest ∨ (denominator = 2 * rest ∧ quotient % 2 = 1) then quotient + 1
  else quotient

/-- A finite number without its sign, as an integer and a power of two it is multiplied by. -/
def magnitude (value : Float) : Nat × Int :=
  let bits : Nat := value.toBits.toNat
  let exponent : Nat := bits / Nat.pow 2 52 % Nat.pow 2 11
  let fraction : Nat := bits % Nat.pow 2 52
  if exponent = 0 then (fraction, -1074) else (Nat.pow 2 52 + fraction, (exponent : Int) - 1075)

/-- A finite number rounded to an integer, in base ten; the sign of a zero is shown. -/
def rounded (value : Float) : String :=
  let (significand, power) := magnitude value
  let whole :=
    if 0 ≤ power then significand * Nat.pow 2 power.toNat
    else roundedQuotient significand (Nat.pow 2 power.natAbs)
  if Nat.pow 2 63 ≤ value.toBits.toNat then "-" ++ toString whole else toString whole

end DatasetSync.Text
