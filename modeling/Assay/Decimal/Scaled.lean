/-!
# Scaled numbers

The floating-point number nearest to a coefficient times a power of ten. The power may be written
with any number of digits, so one that is far out of range is not computed.
-/

namespace Assay.Decimal

/-- The number `coefficient * 10 ^ exponent`. -/
def scaled (coefficient : Nat) (exponent : Int) : Float :=
  let size := (Nat.toDigits 10 coefficient).length + exponent
  if coefficient = 0 || size < -400 then 0.0
  else if 400 < size then 1.0 / 0.0
  else Float.ofScientific coefficient (exponent < 0) exponent.natAbs

end Assay.Decimal
