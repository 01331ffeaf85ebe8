/-!
# Digests

The SHA-256 digest of a sequence of bytes, and its text in hexadecimal. Encoded messages are
recognised by their digest.
-/
namespace Courier.Digest

/-- The first thirty-two bits of the fractional parts of the cube roots of the first 64 primes. -/
def roundConstants : List UInt32 :=
  [0x428a2f98, 0x71374491, 0xb5c0fbcf, 0xe9b5dba5, 0x3956c25b, 0x59f111f1, 0x923f82a4, 0xab1c5ed5,
    0xd807aa98, 0x12835b01, 0x243185be, 0x550c7dc3, 0x72be5d74, 0x80deb1fe, 0x9bdc06a7, 0xc19bf174,
    0xe49b69c1, 0xefbe4786, 0x0fc19dc6, 0x240ca1cc, 0x2de92c6f, 0x4a7484aa, 0x5cb0a9dc, 0x76f988da,
    0x983e5152, 0xa831c66d, 0xb00327c8, 0xbf597fc7, 0xc6e00bf3, 0xd5a79147, 0x06ca6351, 0x14292967,
    0x27b70a85, 0x2e1b2138, 0x4d2c6dfc, 0x53380d13, 0x650a7354, 0x766a0abb, 0x81c2c92e, 0x92722c85,
    0xa2bfe8a1, 0xa81a664b, 0xc24b8b70, 0xc76c51a3, 0xd192e819, 0xd6990624, 0xf40e3585, 0x106aa070,
    0x19a4c116, 0x1e376c08, 0x2748774c, 0x34b0bcb5, 0x391c0cb3, 0x4ed8aa4a, 0x5b9cca4f, 0x682e6ff3,
    0x748f82ee, 0x78a5636f, 0x84c87814, 0x8cc70208, 0x90befffa, 0xa4506ceb, 0xbef9a3f7, 0xc67178f2]

/-- The eight words that a block is mixed into. -/
structure Words where
  a : UInt32
  b : UInt32
  c : UInt32
  d : UInt32
  e : UInt32
  f : UInt32
  g : UInt32
  h : UInt32

def Words.initial : Words :=
  ⟨0x6a09e667, 0xbb67ae85, 0x3c6ef372, 0xa54ff53a, 0x510e527f, 0x9b05688c, 0x1f83d9ab, 0x5be0cd19⟩

def turn (x : UInt32) (n : UInt32) : UInt32 := (x >>> n) ||| (x <<< (32 - n))

/-- One round, with its constant and its word of the schedule. -/
def Words.round (s : Words) (constant word : UInt32) : Words :=
  let choice := (s.e &&& s.f) ^^^ (~~~ s.e &&& s.g)
  let majority := (s.a &&& s.b) ^^^ (s.a &&& s.c) ^^^ (s.b &&& s.c)
  let first := s.h + (turn s.e 6 ^^^ turn s.e 11 ^^^ turn s.e 25) + choice + constant + word
  let second := (turn s.a 2 ^^^ turn s.a 13 ^^^ turn s.a 22) + majority
  ⟨first + second, s.a, s.b, s.c, s.d + first, s.e, s.f, s.g⟩

/-- The words of the schedule after the sixteen of the block, given the last sixteen, oldest first. -/
def scheduleFrom : Nat → List UInt32 → List UInt32
  | 0, _ => []
  | n + 1, recent =>
    let nth (i : Nat) : UInt32 := recent.getD i 0
    let early := turn (nth 1) 7 ^^^ turn (nth 1) 18 ^^^ (nth 1 >>> 3)
    let late := turn (nth 14) 17 ^^^ turn (nth 14) 19 ^^^ (nth 14 >>> 10)
    let word := nth 0 + early + nth 9 + late
    word :: scheduleFrom n (recent.drop 1 ++ [word])

/-- The words of a block in big-endian order. -/
def wordsOf : List UInt8 → List UInt32
  | b :: c :: d :: e :: rest =>
    ((b.toUInt32 <<< 24) ||| (c.toUInt32 <<< 16) ||| (d.toUInt32 <<< 8) ||| e.toUInt32) :: wordsOf rest
  | _ => []

def Words.mix (s : Words) (block : List UInt32) : Words :=
  let schedule := block ++ scheduleFrom 48 block
  let t := (roundConstants.zip schedule).foldl (fun t p => t.round p.1 p.2) s
  ⟨s.a + t.a, s.b + t.b, s.c + t.c, s.d + t.d, s.e + t.e, s.f + t.f, s.g + t.g, s.h + t.h⟩

/-- A number in `count` bytes, the most significant first. -/
def bigEndian (count n : Nat) : List UInt8 :=
  (List.range count).map (fun i => (n / Nat.pow 256 (count - 1 - i)).toUInt8)

/-- The bytes filled up to whole blocks of 64: one bit, zeros and the length in bits. -/
def filled (bytes : List UInt8) : List UInt8 :=
  let zeros := (119 - bytes.length % 64) % 64
  bytes ++ (0x80 :: List.replicate zeros 0) ++ bigEndian 8 (bytes.length * 8)

/-- The words after a number of blocks of sixteen words. -/
def Words.mixAll (s : Words) : Nat → List UInt32 → Words
  | 0, _ => s
  | n + 1, words => (s.mix (words.take 16)).mixAll n (words.drop 16)

def sha256 (bytes : List UInt8) : List UInt8 :=
  let whole := filled bytes
  let s := Words.initial.mixAll (whole.length / 64) (wordsOf whole)
  [s.a, s.b, s.c, s.d, s.e, s.f, s.g, s.h].flatMap (fun w => bigEndian 4 w.toNat)

def hexText (bytes : List UInt8) : String :=
  String.ofList (bytes.flatMap (fun b => [Nat.digitChar (b.toNat / 16), Nat.digitChar (b.toNat % 16)]))

end Courier.Digest
