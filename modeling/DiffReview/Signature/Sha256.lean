import DiffReview.Text.Utf8

/-!
# SHA-256

The hash function with digests of 256 bits: a message is padded to whole blocks of 64 bytes, and
each block changes a state of eight words in 64 rounds.
-/

namespace DiffReview.Sha256

open Text (Bytes)

/-- The number of bytes of a block. -/
def blockSize : Nat := 64

/-- The constants of the rounds. -/
def roundConstants : List UInt32 :=
  [
    0x428A2F98, 0x71374491, 0xB5C0FBCF, 0xE9B5DBA5, 0x3956C25B, 0x59F111F1, 0x923F82A4, 0xAB1C5ED5,
    0xD807AA98, 0x12835B01, 0x243185BE, 0x550C7DC3, 0x72BE5D74, 0x80DEB1FE, 0x9BDC06A7, 0xC19BF174,
    0xE49B69C1, 0xEFBE4786, 0x0FC19DC6, 0x240CA1CC, 0x2DE92C6F, 0x4A7484AA, 0x5CB0A9DC, 0x76F988DA,
    0x983E5152, 0xA831C66D, 0xB00327C8, 0xBF597FC7, 0xC6E00BF3, 0xD5A79147, 0x06CA6351, 0x14292967,
    0x27B70A85, 0x2E1B2138, 0x4D2C6DFC, 0x53380D13, 0x650A7354, 0x766A0ABB, 0x81C2C92E, 0x92722C85,
    0xA2BFE8A1, 0xA81A664B, 0xC24B8B70, 0xC76C51A3, 0xD192E819, 0xD6990624, 0xF40E3585, 0x106AA070,
    0x19A4C116, 0x1E376C08, 0x2748774C, 0x34B0BCB5, 0x391C0CB3, 0x4ED8AA4A, 0x5B9CCA4F, 0x682E6FF3,
    0x748F82EE, 0x78A5636F, 0x84C87814, 0x8CC70208, 0x90BEFFFA, 0xA4506CEB, 0xBEF9A3F7, 0xC67178F2
  ]

/-- The eight words that a message changes. -/
structure State where
  a : UInt32
  b : UInt32
  c : UInt32
  d : UInt32
  e : UInt32
  f : UInt32
  g : UInt32
  h : UInt32
deriving DecidableEq, Repr

namespace State

/-- The state before the first block. -/
def initial : State where
  a := 0x6A09E667
  b := 0xBB67AE85
  c := 0x3C6EF372
  d := 0xA54FF53A
  e := 0x510E527F
  f := 0x9B05688C
  g := 0x1F83D9AB
  h := 0x5BE0CD19

/-- The sum of two states, word by word. -/
def add (left right : State) : State where
  a := left.a + right.a
  b := left.b + right.b
  c := left.c + right.c
  d := left.d + right.d
  e := left.e + right.e
  f := left.f + right.f
  g := left.g + right.g
  h := left.h + right.h

/-- The words of a state. -/
def words (state : State) : List UInt32 :=
  [state.a, state.b, state.c, state.d, state.e, state.f, state.g, state.h]

end State

/-- A word rotated to the right. -/
def rotateRight (word : UInt32) (count : UInt32) : UInt32 :=
  (word >>> count) ||| (word <<< (32 - count))

/-- The state after a round with a constant and a word of the schedule. -/
def round (state : State) (constant word : UInt32) : State :=
  let mixed :=
    rotateRight state.e 6 ^^^ rotateRight state.e 11 ^^^ rotateRight state.e 25
  let choice := (state.e &&& state.f) ^^^ (~~~state.e &&& state.g)
  let first := state.h + mixed + choice + constant + word
  let spread :=
    rotateRight state.a 2 ^^^ rotateRight state.a 13 ^^^ rotateRight state.a 22
  let majority := (state.a &&& state.b) ^^^ (state.a &&& state.c) ^^^ (state.b &&& state.c)
  { a := first + (spread + majority)
    b := state.a
    c := state.b
    d := state.c
    e := state.d + first
    f := state.e
    g := state.f
    h := state.g }

/-- The word of the schedule after the given sixteen. -/
def nextWord (window : List UInt32) : UInt32 :=
  let word (index : Nat) : UInt32 := window.getD index 0
  let early := rotateRight (word 1) 7 ^^^ rotateRight (word 1) 18 ^^^ (word 1 >>> 3)
  let late := rotateRight (word 14) 17 ^^^ rotateRight (word 14) 19 ^^^ (word 14 >>> 10)
  word 0 + early + word 9 + late

/-- The given number of words of the schedule that starts with the given sixteen. -/
def schedule : Nat → List UInt32 → List UInt32
  | 0, _ => []
  | count + 1, window =>
    window.getD 0 0 :: schedule count (window.drop 1 ++ [nextWord window])

/-- The words of a block, the byte of the highest value first. -/
def blockWords : Bytes → List UInt32
  | first :: second :: third :: fourth :: rest =>
    (((first.toUInt32 * 0x100 + second.toUInt32) * 0x100 + third.toUInt32) * 0x100 +
      fourth.toUInt32) :: blockWords rest
  | _ => []

/-- The state after a block. -/
def compress (state : State) (block : Bytes) : State :=
  let words := schedule 64 (blockWords block)
  state.add ((roundConstants.zip words).foldl
    (fun current (constant, word) => round current constant word) state)

/-- The bytes of a number, as many as wanted, the byte of the highest value first. -/
def numberBytes : Nat → Nat → Bytes
  | 0, _ => []
  | count + 1, value => numberBytes count (value / 0x100) ++ [UInt8.ofNat value]

/-- A message with its padding: a one bit, zeros, and the number of bits in eight bytes. -/
def pad (message : Bytes) : Bytes :=
  let zeros := (blockSize - (message.length + 9) % blockSize) % blockSize
  message ++ [0x80] ++ List.replicate zeros 0 ++ numberBytes 8 (8 * message.length)

/-- The blocks of a padded message, given their number. -/
def blocks : Nat → Bytes → List Bytes
  | 0, _ => []
  | count + 1, bytes => bytes.take blockSize :: blocks count (bytes.drop blockSize)

/-- The bytes of the digest of a message. -/
def hash (message : Bytes) : Bytes :=
  let padded := pad message
  let final := (blocks (padded.length / blockSize) padded).foldl compress State.initial
  final.words.flatMap fun word => numberBytes 4 word.toNat

end DiffReview.Sha256
