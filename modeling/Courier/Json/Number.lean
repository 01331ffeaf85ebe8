import Courier.Json.Value
import Courier.Decimal.Shortest

/-!
# Numbers

The value of a spelled number, and the spelling of a value. A number without places and without a
power of ten is an integer if it fits 64 bits, and `-0` is not an integer. Any other number is a
binary fraction: the digits that fit 64 bits, then one multiplication by a power of ten.
-/
namespace Courier.Json

/-- The value of a number. -/
inductive Number
  | unsigned (n : Nat)
  /-- An integer below zero. -/
  | negative (i : Int)
  | float (f : Float)

/-- Digits written behind a number for as long as it stays below 2^64, and how many were left over. -/
def gather (value : Nat) : List Digit → Nat × Nat
  | [] => (value, 0)
  | d :: ds => if value * 10 + d.val < 0x10000000000000000 then gather (value * 10 + d.val) ds else (value, ds.length + 1)

def powerOfTen (n : Nat) : Float := Float.ofScientific 1 false n

/-- A binary fraction times a power of ten; none if that is infinite. Powers below the least one that
exists are applied in several steps. -/
def timesPowerOfTen (f : Float) (exponent : Int) : Nat → Option Float
  | 0 => some f
  | fuel + 1 =>
    if exponent.natAbs ≤ 308 then
      if 0 ≤ exponent then
        let product := f * powerOfTen exponent.natAbs
        if product.isInf then none else some product
      else some (f / powerOfTen exponent.natAbs)
    else if f == 0.0 then some f
    else if 0 ≤ exponent then none
    else timesPowerOfTen (f / powerOfTen 308) (exponent + 308) fuel

/-- The value of the digits of a power of ten, or none if it does not fit 31 bits. -/
def Exponent.value? (e : Exponent) : Option Int :=
  let size := e.digits.foldl (fun value d => value.bind (fun v =>
    if v * 10 + d.val < 0x80000000 then some (v * 10 + d.val) else none)) (some 0)
  size.map (fun n => if e.sign = some true then -(n : Int) else n)

/-- The value of a number that is no integer. -/
def Numeral.float? (n : Numeral) : Option Float :=
  let (whole, dropped) := gather 0 n.whole
  let (digits, left) := gather whole n.fraction
  let shift : Int := dropped - (n.fraction.length - left)
  let magnitude := match n.exponent with
    | none => timesPowerOfTen (Float.ofNat digits) shift 8
    | some e =>
      match e.value? with
      | some power => timesPowerOfTen (Float.ofNat digits) (shift + power) 8
      | none => if digits = 0 ∨ e.sign = some true then some 0.0 else none
  magnitude.map (fun f => if n.negative then -f else f)

/-- The value of a number, if it is within range. -/
def Numeral.value? (n : Numeral) : Option Number :=
  match n.fraction, n.exponent, gather 0 n.whole with
  | [], none, (value, 0) =>
    if !n.negative then some (.unsigned value)
    else if value = 0 ∨ 0x8000000000000000 < value then some (.float (-(Float.ofNat value)))
    else some (.negative (-(value : Int)))
  | _, _, _ => n.float?.map .float

/-- The last digit of a number. -/
def lastDigit (n : Nat) : Digit := ⟨n % 10, Nat.mod_lt n (by decide)⟩

/-- The digits of a number, most significant first, in front of others. -/
def digitsBefore (later : List Digit) (n : Nat) : Nat → List Digit
  | 0 => later
  | fuel + 1 =>
    let here := lastDigit n :: later
    if n < 10 then here else digitsBefore here (n / 10) fuel

def digitsOf (n : Nat) : List Digit := digitsBefore [] n (n + 1)

def Numeral.ofNat (n : Nat) : Numeral := ⟨false, digitsOf n, [], none⟩

/-- The spelling of a finite binary fraction by its shortest decimal: with a point for magnitudes from
10^-5 to below 10^16, with a signed power of ten otherwise. -/
def Numeral.ofFloat (f : Float) : Numeral :=
  let bits := f.toBits
  let d := (Decimal.Binary.ofBits bits).shortest .toEven
  let digits := digitsOf d.digits
  let point := (digits.length : Int) + d.exponent
  let sign := Decimal.isNegative bits
  let zero : Digit := ⟨0, by decide⟩
  if d.digits = 0 then ⟨sign, [zero], [zero], none⟩
  else if 16 < point ∨ point ≤ -5 then
    let power := point - 1
    ⟨sign, digits.take 1, digits.drop 1, some ⟨some (decide (power < 0)), digitsOf power.natAbs⟩⟩
  else if point ≤ 0 then ⟨sign, [zero], List.replicate (-point).toNat zero ++ digits, none⟩
  else if d.exponent < 0 then ⟨sign, digits.take point.toNat, digits.drop point.toNat, none⟩
  else ⟨sign, digits ++ List.replicate d.exponent.toNat zero, [zero], none⟩

/-- The value that stands for a binary fraction: one that is not finite has no spelling. -/
def Value.ofFloat (f : Float) : Value :=
  if Decimal.isFinite f.toBits then .number (.ofFloat f) else .null

/-! ## Characters -/

def digitByte (d : Digit) : UInt8 := 0x30 + d.val.toUInt8

def Exponent.bytes (e : Exponent) : List UInt8 :=
  let sign : List UInt8 := match e.sign with
    | none => []
    | some true => [0x2D]
    | some false => [0x2B]
  0x65 :: (sign ++ e.digits.map digitByte)

def Numeral.bytes (n : Numeral) : List UInt8 :=
  let sign : List UInt8 := if n.negative then [0x2D] else []
  let places : List UInt8 := if n.fraction.isEmpty then [] else 0x2E :: n.fraction.map digitByte
  let power : List UInt8 := match n.exponent with
    | none => []
    | some e => e.bytes
  sign ++ n.whole.map digitByte ++ places ++ power

def Numeral.text (n : Numeral) : String := String.ofList (n.bytes.map (fun b => Char.ofNat b.toNat))

end Courier.Json
