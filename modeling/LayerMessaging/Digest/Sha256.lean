import LayerMessaging.Bytes.Basic

namespace LayerMessaging.Sha256

def rotateRight (word : UInt32) (amount : UInt32) : UInt32 :=
  (word >>> amount) ||| (word <<< (32 - amount))

def roundConstants : List UInt32 :=
  [0x428a2f98, 0x71374491, 0xb5c0fbcf, 0xe9b5dba5, 0x3956c25b, 0x59f111f1, 0x923f82a4, 0xab1c5ed5,
   0xd807aa98, 0x12835b01, 0x243185be, 0x550c7dc3, 0x72be5d74, 0x80deb1fe, 0x9bdc06a7, 0xc19bf174,
   0xe49b69c1, 0xefbe4786, 0x0fc19dc6, 0x240ca1cc, 0x2de92c6f, 0x4a7484aa, 0x5cb0a9dc, 0x76f988da,
   0x983e5152, 0xa831c66d, 0xb00327c8, 0xbf597fc7, 0xc6e00bf3, 0xd5a79147, 0x06ca6351, 0x14292967,
   0x27b70a85, 0x2e1b2138, 0x4d2c6dfc, 0x53380d13, 0x650a7354, 0x766a0abb, 0x81c2c92e, 0x92722c85,
   0xa2bfe8a1, 0xa81a664b, 0xc24b8b70, 0xc76c51a3, 0xd192e819, 0xd6990624, 0xf40e3585, 0x106aa070,
   0x19a4c116, 0x1e376c08, 0x2748774c, 0x34b0bcb5, 0x391c0cb3, 0x4ed8aa4a, 0x5b9cca4f, 0x682e6ff3,
   0x748f82ee, 0x78a5636f, 0x84c87814, 0x8cc70208, 0x90befffa, 0xa4506ceb, 0xbef9a3f7, 0xc67178f2]

structure State where
  a : UInt32
  b : UInt32
  c : UInt32
  d : UInt32
  e : UInt32
  f : UInt32
  g : UInt32
  h : UInt32

def State.initial : State :=
  ⟨0x6a09e667, 0xbb67ae85, 0x3c6ef372, 0xa54ff53a, 0x510e527f, 0x9b05688c, 0x1f83d9ab, 0x5be0cd19⟩

def State.add (s t : State) : State :=
  ⟨s.a + t.a, s.b + t.b, s.c + t.c, s.d + t.d, s.e + t.e, s.f + t.f, s.g + t.g, s.h + t.h⟩

def State.round (s : State) (word constant : UInt32) : State :=
  let t₁ := s.h + (rotateRight s.e 6 ^^^ rotateRight s.e 11 ^^^ rotateRight s.e 25)
    + ((s.e &&& s.f) ^^^ ((~~~ s.e) &&& s.g)) + constant + word
  let t₂ := (rotateRight s.a 2 ^^^ rotateRight s.a 13 ^^^ rotateRight s.a 22)
    + ((s.a &&& s.b) ^^^ (s.a &&& s.c) ^^^ (s.b &&& s.c))
  ⟨t₁ + t₂, s.a, s.b, s.c, s.d + t₁, s.e, s.f, s.g⟩

def nextWord (latestFirst : List UInt32) : UInt32 :=
  let word (i : Nat) := latestFirst.getD (i - 1) 0
  let s₀ := rotateRight (word 15) 7 ^^^ rotateRight (word 15) 18 ^^^ (word 15 >>> 3)
  let s₁ := rotateRight (word 2) 17 ^^^ rotateRight (word 2) 19 ^^^ (word 2 >>> 10)
  word 16 + s₀ + word 7 + s₁

/-- The rounds of one block; the schedule is extended as it is used. -/
def rounds : (constants : List UInt32) → (pending done : List UInt32) → State → State
  | [], _, _, s => s
  | constant :: constants, pending, done, s =>
    match pending with
    | word :: pending => rounds constants pending (word :: done) (s.round word constant)
    | [] =>
      let word := nextWord done
      rounds constants [] (word :: done) (s.round word constant)

def words : (count : Nat) → Bytes → List UInt32
  | 0, _ => []
  | count + 1, bytes => UInt32.ofNat (Bytes.toNat (bytes.take 4)) :: words count (bytes.drop 4)

def compress (s : State) (block : Bytes) : State :=
  s.add (rounds roundConstants (words 16 block) [] s)

def blockSize : Nat := 64

/-- The message with a one bit, zeros, and its length in bits, as a whole number of blocks. -/
def pad (message : Bytes) : Bytes :=
  let zeros := (2 * blockSize - (message.length % blockSize) - 9) % blockSize
  message ++ 0x80 :: List.replicate zeros 0 ++ Bytes.ofNat 8 (8 * message.length)

def absorb : (blocks : Nat) → Bytes → State → State
  | 0, _, s => s
  | blocks + 1, bytes, s => absorb blocks (bytes.drop blockSize) (compress s (bytes.take blockSize))

def digest (message : Bytes) : Bytes :=
  let padded := pad message
  let s := absorb (padded.length / blockSize) padded .initial
  [s.a, s.b, s.c, s.d, s.e, s.f, s.g, s.h].flatMap fun word => Bytes.ofNat 4 word.toNat

/-- The keyed digest of a byte string, for keys of at most one block. -/
def hmac (key message : Bytes) : Bytes :=
  let padded := key ++ List.replicate (blockSize - key.length) 0
  digest (padded.map (· ^^^ 0x5c) ++ digest (padded.map (· ^^^ 0x36) ++ message))

end LayerMessaging.Sha256
