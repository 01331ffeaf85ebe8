/-!
# Shortest decimals

The decimal with the fewest digits that a reader rounds back to a given binary fraction, and of
several such decimals the one nearest to it. All comparisons are exact.
-/
namespace Courier.Decimal

/-- A positive binary fraction, `mantissa * 2 ^ exponent`. -/
structure Binary where
  mantissa : Nat
  exponent : Int
  /-- The gap to the value below is half the gap to the value above. -/
  narrowBelow : Bool

/-- The magnitude of a finite value, from its bits. -/
def Binary.ofBits (bits : UInt64) : Binary :=
  let e := ((bits >>> 52) &&& 0x7FF).toNat
  let f := (bits &&& 0xFFFFFFFFFFFFF).toNat
  if e = 0 then ⟨f, -1074, false⟩ else ⟨0x10000000000000 + f, (e : Int) - 1075, f = 0 && 1 < e⟩

/-- A decimal, `digits * 10 ^ exponent`. -/
structure Scaled where
  digits : Nat
  exponent : Int
deriving DecidableEq

/-- Compares `a * 10 ^ i` with `n * 2 ^ j`. -/
def compareScaled (a : Nat) (i : Int) (n : Nat) (j : Int) : Ordering :=
  compare (a * Nat.pow 10 i.toNat * Nat.pow 2 (-j).toNat) (n * Nat.pow 2 j.toNat * Nat.pow 10 (-i).toNat)

/-- Whether a decimal lies among the reals that round to a binary fraction: between the midpoints to
its neighbours, and on one of them only if the mantissa is even. -/
def Binary.readsBack (x : Binary) (d : Scaled) : Bool :=
  let low := if x.narrowBelow then 4 * x.mantissa - 1 else 4 * x.mantissa - 2
  let high := 4 * x.mantissa + 2
  let even := x.mantissa % 2 = 0
  let fromLow := compareScaled d.digits d.exponent low (x.exponent - 2)
  let fromHigh := compareScaled d.digits d.exponent high (x.exponent - 2)
  (fromLow == .gt || (even && fromLow == .eq)) && (fromHigh == .lt || (even && fromHigh == .eq))

/-- The least power of ten above a binary fraction, found from below. -/
def Binary.scaleFrom (x : Binary) : Nat → Int → Int
  | 0, k => k
  | fuel + 1, k => if compareScaled 1 k x.mantissa x.exponent == .gt then k else x.scaleFrom fuel (k + 1)

/-- The least power of ten above a binary fraction. -/
def Binary.scale (x : Binary) : Int :=
  let log := (x.mantissa.log2 : Int) + x.exponent
  x.scaleFrom 4 (log * 30103 / 100000 - 1)

/-- The nearest decimal below or at a binary fraction on the grid of a power of ten. -/
def Binary.floorOn (x : Binary) (k : Int) : Nat :=
  (x.mantissa * Nat.pow 2 x.exponent.toNat * Nat.pow 10 (-k).toNat) /
    (Nat.pow 2 (-x.exponent).toNat * Nat.pow 10 k.toNat)

/-- Which of two equally near decimals is taken. -/
inductive Tie
  | toEven
  | up
deriving DecidableEq

/-- The decimal on a grid that reads back, if any: of two the nearer one, and on a tie the one that
the rule names. -/
def Binary.onGrid (x : Binary) (tie : Tie) (k : Int) : Option Scaled :=
  let below : Scaled := ⟨x.floorOn k, k⟩
  let above : Scaled := ⟨x.floorOn k + 1, k⟩
  match x.readsBack below, x.readsBack above with
  | true, true =>
    match compareScaled (below.digits + above.digits) k (2 * x.mantissa) x.exponent with
    | .gt => some below
    | .lt => some above
    | .eq => some (if tie = .toEven ∧ below.digits % 2 = 0 then below else above)
  | true, false => some below
  | false, true => some above
  | false, false => none

/-- The first grid, from coarse to fine, that has a decimal that reads back. -/
def Binary.search (x : Binary) (tie : Tie) (scale : Int) : Nat → Option Scaled
  | 0 => none
  | fuel + 1 => (x.onGrid tie (scale - (17 - fuel : Nat))).orElse (fun _ => x.search tie scale fuel)

def Scaled.trim (d : Scaled) : Nat → Scaled
  | 0 => d
  | fuel + 1 => if d.digits % 10 = 0 ∧ d.digits ≠ 0 then trim ⟨d.digits / 10, d.exponent + 1⟩ fuel else d

/-- The shortest decimal that reads back to a binary fraction; its exact value if none is found
within seventeen digits. -/
def Binary.shortest (x : Binary) (tie : Tie) : Scaled :=
  if x.mantissa = 0 then ⟨0, 0⟩
  else
    match x.search tie x.scale 17 with
    | some d => d.trim 20
    | none => ⟨x.mantissa * Nat.pow 2 x.exponent.toNat * Nat.pow 5 (-x.exponent).toNat, -((-x.exponent).toNat : Int)⟩

/-- Whether a value is neither an infinity nor undefined. -/
def isFinite (bits : UInt64) : Bool := (bits >>> 52) &&& 0x7FF ≠ 0x7FF

def isNegative (bits : UInt64) : Bool := bits >>> 63 ≠ 0

end Courier.Decimal
