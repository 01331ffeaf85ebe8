/-!
# Nearest binary fractions

The binary fraction nearest to a decimal, and infinity beyond the largest one.
-/
namespace Courier.Decimal

def infinity : Float := 1.0 / 0.0

/-- The binary fraction nearest to `digits * 10 ^ exponent`. Powers of ten that are out of reach are
not computed. -/
def nearest (digits : Nat) (exponent : Int) : Float :=
  let places : Int := (Nat.toDigits 10 digits).length
  if digits = 0 then 0.0
  else if 400 < places + exponent then infinity
  else if places + exponent < -400 then 0.0
  else Float.ofScientific digits (exponent < 0) exponent.natAbs

end Courier.Decimal
