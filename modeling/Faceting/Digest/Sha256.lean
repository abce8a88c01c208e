/-!
# SHA-256

The digest of a sequence of bytes. The padded message is cut into blocks of sixteen words
(`blocks`), each block is stretched to a schedule of sixty-four words (`schedule`), and the
compression of the schedule updates the eight words of the state (`compress`).
-/

namespace Faceting.Sha256

/-- The eight words that the compression updates. -/
structure State where
  a : UInt32
  b : UInt32
  c : UInt32
  d : UInt32
  e : UInt32
  f : UInt32
  g : UInt32
  h : UInt32

/-- The state before the first block: the first bits of the fractional parts of the square roots of
the first eight primes. -/
def initial : State :=
  ⟨0x6a09e667, 0xbb67ae85, 0x3c6ef372, 0xa54ff53a, 0x510e527f, 0x9b05688c, 0x1f83d9ab, 0x5be0cd19⟩

/-- One word per round: the first bits of the fractional parts of the cube roots of the first
sixty-four primes. -/
def roundWords : List UInt32 :=
  [0x428a2f98, 0x71374491, 0xb5c0fbcf, 0xe9b5dba5, 0x3956c25b, 0x59f111f1, 0x923f82a4, 0xab1c5ed5,
   0xd807aa98, 0x12835b01, 0x243185be, 0x550c7dc3, 0x72be5d74, 0x80deb1fe, 0x9bdc06a7, 0xc19bf174,
   0xe49b69c1, 0xefbe4786, 0x0fc19dc6, 0x240ca1cc, 0x2de92c6f, 0x4a7484aa, 0x5cb0a9dc, 0x76f988da,
   0x983e5152, 0xa831c66d, 0xb00327c8, 0xbf597fc7, 0xc6e00bf3, 0xd5a79147, 0x06ca6351, 0x14292967,
   0x27b70a85, 0x2e1b2138, 0x4d2c6dfc, 0x53380d13, 0x650a7354, 0x766a0abb, 0x81c2c92e, 0x92722c85,
   0xa2bfe8a1, 0xa81a664b, 0xc24b8b70, 0xc76c51a3, 0xd192e819, 0xd6990624, 0xf40e3585, 0x106aa070,
   0x19a4c116, 0x1e376c08, 0x2748774c, 0x34b0bcb5, 0x391c0cb3, 0x4ed8aa4a, 0x5b9cca4f, 0x682e6ff3,
   0x748f82ee, 0x78a5636f, 0x84c87814, 0x8cc70208, 0x90befffa, 0xa4506ceb, 0xbef9a3f7, 0xc67178f2]

/-- The word turned right by a number of bits between 1 and 31. -/
def rotateRight (x : UInt32) (n : UInt32) : UInt32 :=
  (x >>> n) ||| (x <<< (32 - n))

/-- The bytes of a number, most significant first. -/
def bigEndian (width : Nat) (n : Nat) : List UInt8 :=
  (List.range width).reverse.map fun i => (n >>> (8 * i)).toUInt8

/-- The message followed by a one bit, zeros, and its length in bits as eight bytes, so that the
whole is a multiple of sixty-four bytes. -/
def pad (message : List UInt8) : List UInt8 :=
  let zeros := (119 - message.length % 64) % 64
  message ++ 0x80 :: (List.replicate zeros 0 ++ bigEndian 8 (8 * message.length))

/-- Four bytes at a time as words, most significant byte first. -/
def toWords : List UInt8 → List UInt32
  | w :: x :: y :: z :: rest =>
    ((w.toUInt32 <<< 24) ||| (x.toUInt32 <<< 16) ||| (y.toUInt32 <<< 8) ||| z.toUInt32) :: toWords rest
  | _ => []

/-- The words in groups of sixteen; `count` groups are taken. -/
def blocks : (count : Nat) → List UInt32 → List (List UInt32)
  | 0, _ => []
  | count + 1, words => words.take 16 :: blocks count (words.drop 16)

/-- Adds `count` words to a schedule that is kept newest word first. -/
def extend : (count : Nat) → List UInt32 → List UInt32
  | 0, words => words
  | count + 1, words =>
    let w2 := words.getD 1 0
    let w7 := words.getD 6 0
    let w15 := words.getD 14 0
    let w16 := words.getD 15 0
    let s0 := rotateRight w15 7 ^^^ rotateRight w15 18 ^^^ (w15 >>> 3)
    let s1 := rotateRight w2 17 ^^^ rotateRight w2 19 ^^^ (w2 >>> 10)
    extend count ((w16 + s0 + w7 + s1) :: words)

/-- The sixty-four words that a block contributes, in order. -/
def schedule (block : List UInt32) : List UInt32 :=
  (extend 48 block.reverse).reverse

/-- One round, with its constant and its word of the schedule. -/
def round (s : State) (k w : UInt32) : State :=
  let s1 := rotateRight s.e 6 ^^^ rotateRight s.e 11 ^^^ rotateRight s.e 25
  let choice := (s.e &&& s.f) ^^^ ((~~~ s.e) &&& s.g)
  let t1 := s.h + s1 + choice + k + w
  let s0 := rotateRight s.a 2 ^^^ rotateRight s.a 13 ^^^ rotateRight s.a 22
  let majority := (s.a &&& s.b) ^^^ (s.a &&& s.c) ^^^ (s.b &&& s.c)
  ⟨t1 + (s0 + majority), s.a, s.b, s.c, s.d + t1, s.e, s.f, s.g⟩

/-- The state after a block. -/
def compress (s : State) (block : List UInt32) : State :=
  let t := (roundWords.zip (schedule block)).foldl (fun s (k, w) => round s k w) s
  ⟨s.a + t.a, s.b + t.b, s.c + t.c, s.d + t.d, s.e + t.e, s.f + t.f, s.g + t.g, s.h + t.h⟩

/-- The digest of a sequence of bytes, as eight words. -/
def digest (message : List UInt8) : List UInt32 :=
  let words := toWords (pad message)
  let s := (blocks (words.length / 16) words).foldl compress initial
  [s.a, s.b, s.c, s.d, s.e, s.f, s.g, s.h]

/-- A hexadecimal digit below sixteen. -/
def hexDigit (n : Nat) : Char :=
  if n < 10 then Char.ofNat (48 + n) else Char.ofNat (87 + n)

/-- The eight hexadecimal digits of a word. -/
def wordHex (w : UInt32) : List Char :=
  (List.range 8).reverse.map fun i => hexDigit ((w.toNat >>> (4 * i)) % 16)

/-- The digest of some bytes as sixty-four hexadecimal digits. -/
def hex (message : ByteArray) : String :=
  String.ofList ((digest message.toList).flatMap wordHex)

end Faceting.Sha256
