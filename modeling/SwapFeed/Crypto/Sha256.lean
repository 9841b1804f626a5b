import SwapFeed.Text.Octets

/-!
# SHA-256

The digest of a byte string: the padded message is cut into blocks of sixteen words, and each block
is mixed into a state of eight words.
-/

namespace SwapFeed.Sha256

/-- The first 32 bits of the fractional parts of the cube roots of the first 64 primes. -/
def constants : List UInt32 :=
  [0x428a2f98, 0x71374491, 0xb5c0fbcf, 0xe9b5dba5, 0x3956c25b, 0x59f111f1, 0x923f82a4, 0xab1c5ed5,
   0xd807aa98, 0x12835b01, 0x243185be, 0x550c7dc3, 0x72be5d74, 0x80deb1fe, 0x9bdc06a7, 0xc19bf174,
   0xe49b69c1, 0xefbe4786, 0x0fc19dc6, 0x240ca1cc, 0x2de92c6f, 0x4a7484aa, 0x5cb0a9dc, 0x76f988da,
   0x983e5152, 0xa831c66d, 0xb00327c8, 0xbf597fc7, 0xc6e00bf3, 0xd5a79147, 0x06ca6351, 0x14292967,
   0x27b70a85, 0x2e1b2138, 0x4d2c6dfc, 0x53380d13, 0x650a7354, 0x766a0abb, 0x81c2c92e, 0x92722c85,
   0xa2bfe8a1, 0xa81a664b, 0xc24b8b70, 0xc76c51a3, 0xd192e819, 0xd6990624, 0xf40e3585, 0x106aa070,
   0x19a4c116, 0x1e376c08, 0x2748774c, 0x34b0bcb5, 0x391c0cb3, 0x4ed8aa4a, 0x5b9cca4f, 0x682e6ff3,
   0x748f82ee, 0x78a5636f, 0x84c87814, 0x8cc70208, 0x90befffa, 0xa4506ceb, 0xbef9a3f7, 0xc67178f2]

/-- The eight words that are mixed. -/
structure State where
  a : UInt32
  b : UInt32
  c : UInt32
  d : UInt32
  e : UInt32
  f : UInt32
  g : UInt32
  h : UInt32
  deriving DecidableEq, Inhabited, Repr

/-- The first 32 bits of the fractional parts of the square roots of the first eight primes. -/
def initial : State :=
  ⟨0x6a09e667, 0xbb67ae85, 0x3c6ef372, 0xa54ff53a, 0x510e527f, 0x9b05688c, 0x1f83d9ab, 0x5be0cd19⟩

/-- Rotation to the right by fewer than 32 places, at least one. -/
def rotate (word amount : UInt32) : UInt32 :=
  (word >>> amount) ||| (word <<< (32 - amount))

def smallSigma0 (word : UInt32) : UInt32 := rotate word 7 ^^^ rotate word 18 ^^^ (word >>> 3)

def smallSigma1 (word : UInt32) : UInt32 := rotate word 17 ^^^ rotate word 19 ^^^ (word >>> 10)

def largeSigma0 (word : UInt32) : UInt32 := rotate word 2 ^^^ rotate word 13 ^^^ rotate word 22

def largeSigma1 (word : UInt32) : UInt32 := rotate word 6 ^^^ rotate word 11 ^^^ rotate word 25

/-- Bits of the second word where the first has a one, of the third elsewhere. -/
def choose (selector left right : UInt32) : UInt32 :=
  (selector &&& left) ^^^ (~~~selector &&& right)

def majority (first second third : UInt32) : UInt32 :=
  (first &&& second) ^^^ (first &&& third) ^^^ (second &&& third)

/-- The words of a schedule, newest first, extended by a number of words. -/
def extend : (count : Nat) → List UInt32 → List UInt32
  | 0, words => words
  | count + 1, words =>
      let word := smallSigma1 (words.getD 1 0) + words.getD 6 0
        + smallSigma0 (words.getD 14 0) + words.getD 15 0
      extend count (word :: words)

/-- The 64 schedule words of a block of sixteen. -/
def schedule (block : List UInt32) : List UInt32 :=
  (extend 48 block.reverse).reverse

/-- One round with a constant and a schedule word. -/
def round (state : State) (constant word : UInt32) : State :=
  let first := state.h + largeSigma1 state.e + choose state.e state.f state.g + constant + word
  let second := largeSigma0 state.a + majority state.a state.b state.c
  ⟨first + second, state.a, state.b, state.c, state.d + first, state.e, state.f, state.g⟩

/-- Mix a block into the state. -/
def compress (state : State) (block : List UInt32) : State :=
  let mixed := (constants.zip (schedule block)).foldl
    (fun state pair => round state pair.1 pair.2) state
  ⟨state.a + mixed.a, state.b + mixed.b, state.c + mixed.c, state.d + mixed.d,
    state.e + mixed.e, state.f + mixed.f, state.g + mixed.g, state.h + mixed.h⟩

/-- The octets of a natural number, most significant first, in a given width. -/
def bigEndian (width value : Nat) : Octets :=
  (List.range width).map fun place => UInt8.ofNat (value / Nat.pow 256 (width - 1 - place))

/-- A message with a one bit, zeros and its bit length behind it, to a multiple of 64 octets. -/
def pad (message : Octets) : Octets :=
  message ++ 0x80 :: List.replicate ((119 - message.length % 64) % 64) 0
    ++ bigEndian 8 (8 * message.length)

/-- Octets four by four as words, most significant octet first. -/
def words : Octets → List UInt32
  | first :: second :: third :: fourth :: rest =>
      (first.toUInt32 <<< 24 ||| second.toUInt32 <<< 16 ||| third.toUInt32 <<< 8
        ||| fourth.toUInt32) :: words rest
  | _ => []

/-- Mix the leading blocks of a list of words into a state. -/
def absorb : (blocks : Nat) → State → List UInt32 → State
  | 0, state, _ => state
  | blocks + 1, state, list => absorb blocks (compress state (list.take 16)) (list.drop 16)

def State.toOctets (state : State) : Octets :=
  [state.a, state.b, state.c, state.d, state.e, state.f, state.g, state.h].flatMap
    fun word => bigEndian 4 word.toNat

/-- The 32 octets of the digest. -/
def digest (message : Octets) : Octets :=
  let list := words (pad message)
  (absorb (list.length / 16) initial list).toOctets

end SwapFeed.Sha256
