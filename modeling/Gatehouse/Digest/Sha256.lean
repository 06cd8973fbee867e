/-!
# SHA-256

The digest of 256 bits that fingerprints are made of.  A message is padded to
whole blocks of 64 bytes, and each block is mixed into a state of eight words.
-/

namespace Gatehouse.Sha256

/-- The constants of the rounds: the fractions of the cube roots of the first primes. -/
def roundConstants : Array UInt32 :=
  #[0x428a2f98, 0x71374491, 0xb5c0fbcf, 0xe9b5dba5, 0x3956c25b, 0x59f111f1,
    0x923f82a4, 0xab1c5ed5, 0xd807aa98, 0x12835b01, 0x243185be, 0x550c7dc3,
    0x72be5d74, 0x80deb1fe, 0x9bdc06a7, 0xc19bf174, 0xe49b69c1, 0xefbe4786,
    0x0fc19dc6, 0x240ca1cc, 0x2de92c6f, 0x4a7484aa, 0x5cb0a9dc, 0x76f988da,
    0x983e5152, 0xa831c66d, 0xb00327c8, 0xbf597fc7, 0xc6e00bf3, 0xd5a79147,
    0x06ca6351, 0x14292967, 0x27b70a85, 0x2e1b2138, 0x4d2c6dfc, 0x53380d13,
    0x650a7354, 0x766a0abb, 0x81c2c92e, 0x92722c85, 0xa2bfe8a1, 0xa81a664b,
    0xc24b8b70, 0xc76c51a3, 0xd192e819, 0xd6990624, 0xf40e3585, 0x106aa070,
    0x19a4c116, 0x1e376c08, 0x2748774c, 0x34b0bcb5, 0x391c0cb3, 0x4ed8aa4a,
    0x5b9cca4f, 0x682e6ff3, 0x748f82ee, 0x78a5636f, 0x84c87814, 0x8cc70208,
    0x90befffa, 0xa4506ceb, 0xbef9a3f7, 0xc67178f2]

/-- The state before the first block: the fractions of the square roots of the first primes. -/
def initialState : Array UInt32 :=
  #[0x6a09e667, 0xbb67ae85, 0x3c6ef372, 0xa54ff53a, 0x510e527f, 0x9b05688c,
    0x1f83d9ab, 0x5be0cd19]

def rotate (word : UInt32) (amount : UInt32) : UInt32 :=
  (word >>> amount) ||| (word <<< (32 - amount))

/-- The bytes of a number, the most significant first. -/
def bigEndian (count value : Nat) : List UInt8 :=
  (List.range count).map fun position => UInt8.ofNat (value >>> (8 * (count - 1 - position)))

/-- The message with its padding: a one bit, zeros, and the number of bits in 64 bits. -/
def padded (message : ByteArray) : ByteArray :=
  let zeros := (119 - message.size % 64) % 64
  message ++ ⟨((0x80 :: List.replicate zeros 0) ++ bigEndian 8 (8 * message.size)).toArray⟩

/-- The word of four bytes at a position. -/
def wordAt (bytes : ByteArray) (position : Nat) : UInt32 :=
  (List.range 4).foldl
    (fun word offset => (word <<< 8) ||| (bytes.get! (position + offset)).toUInt32) 0

/-- A word of an array, zero outside it. -/
def wordOf (words : Array UInt32) (position : Nat) : UInt32 :=
  words.getD position 0

/-- The words that the rounds of a block use. -/
def schedule (bytes : ByteArray) (block : Nat) : Array UInt32 :=
  let first := (List.range 16).foldl (fun (words : Array UInt32) position =>
    words.push (wordAt bytes (64 * block + 4 * position))) #[]
  (List.range 48).foldl (fun words round =>
    let early := wordOf words (round + 1)
    let late := wordOf words (round + 14)
    let small := rotate early 7 ^^^ rotate early 18 ^^^ (early >>> 3)
    let large := rotate late 17 ^^^ rotate late 19 ^^^ (late >>> 10)
    words.push (wordOf words round + small + wordOf words (round + 9) + large)) first

/-- The eight words that the rounds work on. -/
structure Working where
  a : UInt32
  b : UInt32
  c : UInt32
  d : UInt32
  e : UInt32
  f : UInt32
  g : UInt32
  h : UInt32

/-- One round with its word and its constant. -/
def round (state : Working) (word constant : UInt32) : Working :=
  let ⟨a, b, c, d, e, f, g, h⟩ := state
  let mixedE := rotate e 6 ^^^ rotate e 11 ^^^ rotate e 25
  let chosen := (e &&& f) ^^^ (~~~e &&& g)
  let first := h + mixedE + chosen + constant + word
  let mixedA := rotate a 2 ^^^ rotate a 13 ^^^ rotate a 22
  let majority := (a &&& b) ^^^ (a &&& c) ^^^ (b &&& c)
  ⟨first + mixedA + majority, a, b, c, d + first, e, f, g⟩

/-- Mixes a block into the state. -/
def mix (bytes : ByteArray) (state : Array UInt32) (block : Nat) : Array UInt32 :=
  let words := schedule bytes block
  let start : Working := ⟨wordOf state 0, wordOf state 1, wordOf state 2, wordOf state 3,
    wordOf state 4, wordOf state 5, wordOf state 6, wordOf state 7⟩
  let result := (List.range 64).foldl (fun working position =>
    round working (wordOf words position) (wordOf roundConstants position)) start
  #[start.a + result.a, start.b + result.b, start.c + result.c, start.d + result.d,
    start.e + result.e, start.f + result.f, start.g + result.g, start.h + result.h]

/-- The digest of a message, as 32 bytes. -/
def digest (message : ByteArray) : List UInt8 :=
  let bytes := padded message
  let state := (List.range (bytes.size / 64)).foldl (mix bytes) initialState
  state.toList.flatMap fun word => bigEndian 4 word.toNat

end Gatehouse.Sha256
