import LayerMessaging.Bytes.Fixed

namespace LayerMessaging.Keccak

/-- Twenty-five lanes; lane `x + 5 * y` stands in column `x` and row `y`. -/
abbrev State := Vector UInt64 25

def rotateLeft (lane : UInt64) (amount : Nat) : UInt64 :=
  if amount = 0 then lane
  else (lane <<< UInt64.ofNat amount) ||| (lane >>> UInt64.ofNat (64 - amount))

def lane (s : State) (x y : Nat) : UInt64 := s.getD (x % 5 + 5 * (y % 5)) 0

def ofLanes (f : (x y : Nat) → UInt64) : State :=
  Vector.ofFn fun i => f (i.val % 5) (i.val / 5)

def column (s : State) (x : Nat) : UInt64 :=
  lane s x 0 ^^^ lane s x 1 ^^^ lane s x 2 ^^^ lane s x 3 ^^^ lane s x 4

/-- Adds to each lane the parities of two neighbouring columns. -/
def theta (s : State) : State :=
  let parities : Vector UInt64 5 := Vector.ofFn fun x => column s x.val
  let parity (x : Nat) := parities.getD (x % 5) 0
  ofLanes fun x y => lane s x y ^^^ parity (x + 4) ^^^ rotateLeft (parity (x + 1)) 1

def offsets : Vector Nat 25 :=
  #v[0, 1, 62, 28, 27, 36, 44, 6, 55, 20, 3, 10, 43, 25, 39, 41, 45, 15, 21, 8, 18, 2, 61, 56, 14]

/-- Turns each lane and moves it to its new place. -/
def rhoPi (s : State) : State :=
  ofLanes fun x y =>
    let source := (x + 3 * y) % 5
    rotateLeft (lane s source x) (offsets.getD (source + 5 * x) 0)

def chi (s : State) : State :=
  ofLanes fun x y => lane s x y ^^^ ((~~~ lane s (x + 1) y) &&& lane s (x + 2) y)

def iota (constant : UInt64) (s : State) : State := s.set 0 (lane s 0 0 ^^^ constant)

def roundConstants : List UInt64 :=
  [0x0000000000000001, 0x0000000000008082, 0x800000000000808a, 0x8000000080008000,
   0x000000000000808b, 0x0000000080000001, 0x8000000080008081, 0x8000000000008009,
   0x000000000000008a, 0x0000000000000088, 0x0000000080008009, 0x000000008000000a,
   0x000000008000808b, 0x800000000000008b, 0x8000000000008089, 0x8000000000008003,
   0x8000000000008002, 0x8000000000000080, 0x000000000000800a, 0x800000008000000a,
   0x8000000080008081, 0x8000000000008080, 0x0000000080000001, 0x8000000080008008]

def permute (s : State) : State :=
  roundConstants.foldl (fun s constant => iota constant (chi (rhoPi (theta s)))) s

def rate : Nat := 136

/-- The message and its padding to a whole number of blocks. The padding starts with the byte 1, as
in the chain's variant of the digest. -/
def pad (message : Bytes) : Bytes :=
  let missing := rate - message.length % rate
  if missing = 1 then message ++ [0x81]
  else message ++ 1 :: List.replicate (missing - 2) 0 ++ [0x80]

/-- Eight bytes as a lane, least significant first. -/
def laneOfBytes (bytes : Bytes) : UInt64 := UInt64.ofNat (Bytes.toNat bytes.reverse)

def absorbBlock (s : State) (block : Bytes) : State :=
  permute (Vector.ofFn fun i =>
    if i.val < rate / 8 then s[i] ^^^ laneOfBytes ((block.drop (8 * i.val)).take 8) else s[i])

def absorb : (blocks : Nat) → Bytes → State → State
  | 0, _, s => s
  | blocks + 1, bytes, s => absorb blocks (bytes.drop rate) (absorbBlock s (bytes.take rate))

def bytesOfLane (lane : UInt64) : Bytes := (Bytes.ofNat 8 lane.toNat).reverse

def squeeze (s : State) : Bytes :=
  bytesOfLane s[0] ++ bytesOfLane s[1] ++ bytesOfLane s[2] ++ bytesOfLane s[3]

theorem length_squeeze (s : State) : (squeeze s).length = 32 := by
  simp [squeeze, bytesOfLane]

def digest (message : Bytes) : Hash :=
  let padded := pad message
  ⟨squeeze (absorb (padded.length / rate) padded (Vector.replicate 25 0)), length_squeeze _⟩

end LayerMessaging.Keccak
