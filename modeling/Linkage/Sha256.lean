/-! The hash function SHA-256 on byte sequences, and its hexadecimal text. -/

namespace Linkage.Sha256

def roundConstants : List UInt32 := [
  0x428a2f98, 0x71374491, 0xb5c0fbcf, 0xe9b5dba5, 0x3956c25b, 0x59f111f1, 0x923f82a4, 0xab1c5ed5,
  0xd807aa98, 0x12835b01, 0x243185be, 0x550c7dc3, 0x72be5d74, 0x80deb1fe, 0x9bdc06a7, 0xc19bf174,
  0xe49b69c1, 0xefbe4786, 0x0fc19dc6, 0x240ca1cc, 0x2de92c6f, 0x4a7484aa, 0x5cb0a9dc, 0x76f988da,
  0x983e5152, 0xa831c66d, 0xb00327c8, 0xbf597fc7, 0xc6e00bf3, 0xd5a79147, 0x06ca6351, 0x14292967,
  0x27b70a85, 0x2e1b2138, 0x4d2c6dfc, 0x53380d13, 0x650a7354, 0x766a0abb, 0x81c2c92e, 0x92722c85,
  0xa2bfe8a1, 0xa81a664b, 0xc24b8b70, 0xc76c51a3, 0xd192e819, 0xd6990624, 0xf40e3585, 0x106aa070,
  0x19a4c116, 0x1e376c08, 0x2748774c, 0x34b0bcb5, 0x391c0cb3, 0x4ed8aa4a, 0x5b9cca4f, 0x682e6ff3,
  0x748f82ee, 0x78a5636f, 0x84c87814, 0x8cc70208, 0x90befffa, 0xa4506ceb, 0xbef9a3f7, 0xc67178f2]

structure State where
  a : UInt32
  b : UInt32
  c : UInt32
  d : UInt32
  e : UInt32
  f : UInt32
  g : UInt32
  h : UInt32

def initial : State :=
  ⟨0x6a09e667, 0xbb67ae85, 0x3c6ef372, 0xa54ff53a, 0x510e527f, 0x9b05688c, 0x1f83d9ab, 0x5be0cd19⟩

def rotate (word : UInt32) (count : UInt32) : UInt32 :=
  (word >>> count) ||| (word <<< (32 - count))

/-- The next word of the message schedule, from the words before it, the latest first. -/
def nextWord (words : List UInt32) : UInt32 :=
  let word (back : Nat) := words.getD (back - 1) 0
  let s0 := rotate (word 15) 7 ^^^ rotate (word 15) 18 ^^^ (word 15 >>> 3)
  let s1 := rotate (word 2) 17 ^^^ rotate (word 2) 19 ^^^ (word 2 >>> 10)
  word 16 + s0 + word 7 + s1

/-- The sixteen words of a block extended to sixty-four. -/
def schedule (block : List UInt32) : List UInt32 :=
  ((List.range 48).foldl (fun words _ => nextWord words :: words) block.reverse).reverse

def step (state : State) (word constant : UInt32) : State :=
  let ⟨a, b, c, d, e, f, g, h⟩ := state
  let s1 := rotate e 6 ^^^ rotate e 11 ^^^ rotate e 25
  let choice := (e &&& f) ^^^ (~~~e &&& g)
  let t1 := h + s1 + choice + constant + word
  let s0 := rotate a 2 ^^^ rotate a 13 ^^^ rotate a 22
  let majority := (a &&& b) ^^^ (a &&& c) ^^^ (b &&& c)
  ⟨t1 + s0 + majority, a, b, c, d + t1, e, f, g⟩

def compress (state : State) (block : List UInt32) : State :=
  let last := ((schedule block).zip roundConstants).foldl (fun state (word, constant) => step state word constant) state
  ⟨state.a + last.a, state.b + last.b, state.c + last.c, state.d + last.d,
    state.e + last.e, state.f + last.f, state.g + last.g, state.h + last.h⟩

/-- Bytes of a number, the most significant first. -/
def bigEndian (count : Nat) (value : Nat) : List UInt8 :=
  (List.range count).map fun i => .ofNat (value / Nat.pow 256 (count - 1 - i))

/-- The message with a one bit, zeros, and its length in bits, to a multiple of 64 bytes. -/
def padded (message : List UInt8) : List UInt8 :=
  let zeros := (119 - message.length % 64) % 64
  message ++ 0x80 :: List.replicate zeros 0 ++ bigEndian 8 (8 * message.length)

/-- Words of four bytes. -/
def words : List UInt8 → List UInt32
  | a :: b :: c :: d :: rest =>
    ((a.toUInt32 <<< 24) ||| (b.toUInt32 <<< 16) ||| (c.toUInt32 <<< 8) ||| d.toUInt32) :: words rest
  | _ => []

/-- Feeds a number of blocks of sixteen words. -/
def feed : Nat → State → List UInt32 → State
  | 0, state, _ => state
  | blocks + 1, state, message => feed blocks (compress state (message.take 16)) (message.drop 16)

def digest (message : List UInt8) : List UInt8 :=
  let message := words (padded message)
  let ⟨a, b, c, d, e, f, g, h⟩ := feed (message.length / 16) initial message
  [a, b, c, d, e, f, g, h].flatMap fun word => bigEndian 4 word.toNat

def hexDigits (byte : UInt8) : List Char :=
  [Nat.digitChar (byte.toNat / 16), Nat.digitChar (byte.toNat % 16)]

/-- The hash of a text in UTF-8, in lower-case hexadecimal digits. -/
def hexOf (text : String) : String :=
  .ofList ((digest (text.toList.flatMap String.utf8EncodeChar)).flatMap hexDigits)

end Linkage.Sha256
