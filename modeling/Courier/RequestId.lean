import Courier.Digest

/-!
# Request ids

A request id that the library makes up itself is a random identifier of version 4: 122 random bits,
and six fixed ones that name the version and the variant.
-/
namespace Courier.RequestId

/-- Sixteen bytes in the groups of an identifier. -/
def grouped (digits : List Char) : String :=
  let part (start length : Nat) : String := String.ofList ((digits.drop start).take length)
  part 0 8 ++ "-" ++ part 8 4 ++ "-" ++ part 12 4 ++ "-" ++ part 16 4 ++ "-" ++ part 20 12

def ofRandom (bits : BitVec 128) : String :=
  let fixed := (bits &&& 0xFFFFFFFFFFFF0FFF3FFFFFFFFFFFFFFF#128) ||| 0x40008000000000000000#128
  grouped (Digest.hexText (Digest.bigEndian 16 fixed.toNat)).toList

/-- The order of request ids is the order of their texts. -/
def order (a b : String) : Ordering := compare a b

end Courier.RequestId
