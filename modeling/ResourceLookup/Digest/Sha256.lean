import ResourceLookup.Text.Octets

/-!
# SHA-256

The digest of messages of octets in 256 bits: the message is padded to whole blocks (`pad`), each
block is expanded to the sixty-four words of its schedule (`schedule`), and sixty-four rounds mix
them into the chaining state (`compress`). `Sha256.hexDigest` is the usual written form of the
digest.
-/

set_option autoImplicit false
set_option relaxedAutoImplicit false

namespace ResourceLookup.Sha256

/-- The sixty-four round constants. -/
def roundConstants : List UInt32 :=
  [0x428a2f98, 0x71374491, 0xb5c0fbcf, 0xe9b5dba5, 0x3956c25b, 0x59f111f1, 0x923f82a4, 0xab1c5ed5,
    0xd807aa98, 0x12835b01, 0x243185be, 0x550c7dc3, 0x72be5d74, 0x80deb1fe, 0x9bdc06a7, 0xc19bf174,
    0xe49b69c1, 0xefbe4786, 0x0fc19dc6, 0x240ca1cc, 0x2de92c6f, 0x4a7484aa, 0x5cb0a9dc, 0x76f988da,
    0x983e5152, 0xa831c66d, 0xb00327c8, 0xbf597fc7, 0xc6e00bf3, 0xd5a79147, 0x06ca6351, 0x14292967,
    0x27b70a85, 0x2e1b2138, 0x4d2c6dfc, 0x53380d13, 0x650a7354, 0x766a0abb, 0x81c2c92e, 0x92722c85,
    0xa2bfe8a1, 0xa81a664b, 0xc24b8b70, 0xc76c51a3, 0xd192e819, 0xd6990624, 0xf40e3585, 0x106aa070,
    0x19a4c116, 0x1e376c08, 0x2748774c, 0x34b0bcb5, 0x391c0cb3, 0x4ed8aa4a, 0x5b9cca4f, 0x682e6ff3,
    0x748f82ee, 0x78a5636f, 0x84c87814, 0x8cc70208, 0x90befffa, 0xa4506ceb, 0xbef9a3f7, 0xc67178f2]

/-- The chaining state. -/
structure State where
  a : UInt32
  b : UInt32
  c : UInt32
  d : UInt32
  e : UInt32
  f : UInt32
  g : UInt32
  h : UInt32

/-- The state before the first block. -/
def initial : State :=
  ⟨0x6a09e667, 0xbb67ae85, 0x3c6ef372, 0xa54ff53a, 0x510e527f, 0x9b05688c, 0x1f83d9ab, 0x5be0cd19⟩

/-- Rotation to the right. -/
def rotateRight (word count : UInt32) : UInt32 :=
  (word >>> count) ||| (word <<< (32 - count))

/-- The first function of the message schedule. -/
def scheduleLow (word : UInt32) : UInt32 :=
  rotateRight word 7 ^^^ rotateRight word 18 ^^^ (word >>> 3)

/-- The second function of the message schedule. -/
def scheduleHigh (word : UInt32) : UInt32 :=
  rotateRight word 17 ^^^ rotateRight word 19 ^^^ (word >>> 10)

/-- A word of four octets, the most significant one first. -/
def word (a b c d : UInt8) : UInt32 :=
  (a.toUInt32 <<< 24) ||| (b.toUInt32 <<< 16) ||| (c.toUInt32 <<< 8) ||| d.toUInt32

/-- The words of a sequence of octets; octets that fill no word are left out. -/
def words : List UInt8 → List UInt32
  | a :: b :: c :: d :: rest => word a b c d :: words rest
  | _ => []

/-- The schedule behind its first sixteen words, the latest sixteen words kept, the newest last. -/
def extendSchedule : Nat → List UInt32 → List UInt32
  | 0, _ => []
  | count + 1, window =>
    let next := scheduleHigh (window.getD 14 0) + window.getD 9 0 + scheduleLow (window.getD 1 0) +
      window.getD 0 0
    next :: extendSchedule count (window.drop 1 ++ [next])

/-- The sixty-four words of the message schedule of a block. -/
def schedule (block : List UInt32) : List UInt32 :=
  block ++ extendSchedule 48 block

/-- One round with its constant and its word of the schedule. -/
def round (state : State) (constant scheduled : UInt32) : State :=
  let choice := (state.e &&& state.f) ^^^ (~~~ state.e &&& state.g)
  let sumHigh := rotateRight state.e 6 ^^^ rotateRight state.e 11 ^^^ rotateRight state.e 25
  let first := state.h + sumHigh + choice + constant + scheduled
  let majority := (state.a &&& state.b) ^^^ (state.a &&& state.c) ^^^ (state.b &&& state.c)
  let sumLow := rotateRight state.a 2 ^^^ rotateRight state.a 13 ^^^ rotateRight state.a 22
  let second := sumLow + majority
  ⟨first + second, state.a, state.b, state.c, state.d + first, state.e, state.f, state.g⟩

/-- The state after a block. -/
def compress (state : State) (block : List UInt32) : State :=
  let final := (roundConstants.zip (schedule block)).foldl
    (fun current (constant, scheduled) ↦ round current constant scheduled) state
  ⟨state.a + final.a, state.b + final.b, state.c + final.c, state.d + final.d,
    state.e + final.e, state.f + final.f, state.g + final.g, state.h + final.h⟩

/-- The length of a message in bits as eight octets, the most significant one first. -/
def lengthOctets (size : Nat) : List UInt8 :=
  (List.range 8).map fun index ↦ UInt8.ofNat (8 * size / Nat.pow 256 (7 - index))

/-- The message with its end mark, zeros, and its length: a whole number of blocks. -/
def pad (message : List UInt8) : List UInt8 :=
  let size := message.length
  message ++ [0x80] ++ List.replicate ((119 - size % 64) % 64) 0 ++ lengthOctets size

/-- Takes the words of whole blocks, sixteen at a time; `count` is the number of blocks. -/
def compressAll : Nat → State → List UInt32 → State
  | 0, state, _ => state
  | count + 1, state, remaining =>
    compressAll count (compress state (remaining.take 16)) (remaining.drop 16)

/-- The four octets of a word. -/
def wordOctets (word : UInt32) : List UInt8 :=
  [(word >>> 24).toUInt8, (word >>> 16).toUInt8, (word >>> 8).toUInt8, word.toUInt8]

/-- The digest of a message: thirty-two octets. -/
def digest (message : List UInt8) : List UInt8 :=
  let padded := words (pad message)
  let state := compressAll (padded.length / 16) initial padded
  [state.a, state.b, state.c, state.d, state.e, state.f, state.g, state.h].flatMap wordOctets

/-- The digest in lower-case hexadecimal digits. -/
def hexDigest (message : List UInt8) : String :=
  Text.hexText (digest message)

end ResourceLookup.Sha256
