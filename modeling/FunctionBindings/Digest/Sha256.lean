import FunctionBindings.Text.Hex

/-!
# SHA-256

The digest of a list of bytes: the message is padded to whole blocks of 64 bytes, each block is
expanded to 64 words, and 64 rounds mix them into the state of eight words.
-/

namespace FunctionBindings.Sha256

/-- A word rotated to the right. -/
def rotate (x : UInt32) (n : UInt32) : UInt32 :=
  (x >>> n) ||| (x <<< (32 - n))

/-- The constants of the rounds: the first 32 bits of the fractional parts of the cube roots of the
first 64 primes. -/
def roundConstants : List UInt32 :=
  [0x428a2f98, 0x71374491, 0xb5c0fbcf, 0xe9b5dba5, 0x3956c25b, 0x59f111f1, 0x923f82a4, 0xab1c5ed5,
   0xd807aa98, 0x12835b01, 0x243185be, 0x550c7dc3, 0x72be5d74, 0x80deb1fe, 0x9bdc06a7, 0xc19bf174,
   0xe49b69c1, 0xefbe4786, 0x0fc19dc6, 0x240ca1cc, 0x2de92c6f, 0x4a7484aa, 0x5cb0a9dc, 0x76f988da,
   0x983e5152, 0xa831c66d, 0xb00327c8, 0xbf597fc7, 0xc6e00bf3, 0xd5a79147, 0x06ca6351, 0x14292967,
   0x27b70a85, 0x2e1b2138, 0x4d2c6dfc, 0x53380d13, 0x650a7354, 0x766a0abb, 0x81c2c92e, 0x92722c85,
   0xa2bfe8a1, 0xa81a664b, 0xc24b8b70, 0xc76c51a3, 0xd192e819, 0xd6990624, 0xf40e3585, 0x106aa070,
   0x19a4c116, 0x1e376c08, 0x2748774c, 0x34b0bcb5, 0x391c0cb3, 0x4ed8aa4a, 0x5b9cca4f, 0x682e6ff3,
   0x748f82ee, 0x78a5636f, 0x84c87814, 0x8cc70208, 0x90befffa, 0xa4506ceb, 0xbef9a3f7, 0xc67178f2]

/-- The eight words of the state. -/
structure State where
  a : UInt32
  b : UInt32
  c : UInt32
  d : UInt32
  e : UInt32
  f : UInt32
  g : UInt32
  h : UInt32

/-- The state before the first block: the first 32 bits of the fractional parts of the square roots
of the first eight primes. -/
def initial : State :=
  ⟨0x6a09e667, 0xbb67ae85, 0x3c6ef372, 0xa54ff53a, 0x510e527f, 0x9b05688c, 0x1f83d9ab, 0x5be0cd19⟩

/-- The words of a state. -/
def State.words (s : State) : List UInt32 := [s.a, s.b, s.c, s.d, s.e, s.f, s.g, s.h]

/-- The bytes of a number in big-endian order. -/
def bigEndian (count n : Nat) : List UInt8 :=
  (List.range count).map fun i ↦ UInt8.ofNat (n / Nat.pow 256 (count - 1 - i))

/-- The message with a one bit, zeros up to the last eight bytes of a block, and its length in
bits. -/
def pad (message : List UInt8) : List UInt8 :=
  let zeros := (119 - message.length % 64) % 64
  message ++ 0x80 :: (List.replicate zeros 0 ++ bigEndian 8 (8 * message.length))

/-- Bytes cut into words of four, most significant byte first. -/
def toWords : List UInt8 → List UInt32
  | a :: b :: c :: d :: rest =>
      ((a.toUInt32 <<< 24) ||| (b.toUInt32 <<< 16) ||| (c.toUInt32 <<< 8) ||| d.toUInt32) ::
        toWords rest
  | _ => []

/-- The next word of a block's expansion, given the words so far in reverse order. -/
def nextWord (reversed : List UInt32) : UInt32 :=
  let w2 := reversed.getD 1 0
  let w7 := reversed.getD 6 0
  let w15 := reversed.getD 14 0
  let w16 := reversed.getD 15 0
  let s0 := rotate w15 7 ^^^ rotate w15 18 ^^^ (w15 >>> 3)
  let s1 := rotate w2 17 ^^^ rotate w2 19 ^^^ (w2 >>> 10)
  w16 + s0 + w7 + s1

/-- Words in reverse order with a number of expansion words in front. -/
def expand : Nat → List UInt32 → List UInt32
  | 0, reversed => reversed
  | n + 1, reversed => expand n (nextWord reversed :: reversed)

/-- One round. -/
def round (s : State) (entry : UInt32 × UInt32) : State :=
  let (constant, word) := entry
  let s1 := rotate s.e 6 ^^^ rotate s.e 11 ^^^ rotate s.e 25
  let choice := (s.e &&& s.f) ^^^ (~~~s.e &&& s.g)
  let t1 := s.h + s1 + choice + constant + word
  let s0 := rotate s.a 2 ^^^ rotate s.a 13 ^^^ rotate s.a 22
  let majority := (s.a &&& s.b) ^^^ (s.a &&& s.c) ^^^ (s.b &&& s.c)
  ⟨t1 + (s0 + majority), s.a, s.b, s.c, s.d + t1, s.e, s.f, s.g⟩

/-- The state after a block of sixteen words. -/
def compress (s : State) (block : List UInt32) : State :=
  let schedule := (expand 48 block.reverse).reverse
  let r := (roundConstants.zip schedule).foldl round s
  ⟨s.a + r.a, s.b + r.b, s.c + r.c, s.d + r.d, s.e + r.e, s.f + r.f, s.g + r.g, s.h + r.h⟩

/-- The state after blocks of sixteen words, of which there are at most `count`. -/
def compressBlocks : Nat → State → List UInt32 → State
  | 0, s, _ => s
  | count + 1, s, words =>
      if words.isEmpty then s
      else compressBlocks count (compress s (words.take 16)) (words.drop 16)

/-- The words of the digest of a message. -/
def digest (message : List UInt8) : List UInt32 :=
  let words := toWords (pad message)
  (compressBlocks words.length initial words).words

/-- The eight hexadecimal digits of a word. -/
def wordHex (word : UInt32) : List Char :=
  (bigEndian 4 word.toNat).flatMap fun byte ↦
    [Text.hexDigit (byte.toNat / 16), Text.hexDigit (byte.toNat % 16)]

/-- The digest of a message in hexadecimal. -/
def hex (message : List UInt8) : String :=
  String.ofList ((digest message).flatMap wordHex)

end FunctionBindings.Sha256
