namespace LayerMessaging

abbrev Bytes := List UInt8

namespace Bytes

def limit : (width : Nat) → Nat
  | 0 => 1
  | width + 1 => 256 * limit width

/-- The number whose base-256 digits are the bytes, most significant first. -/
def toNat (bytes : Bytes) : Nat :=
  bytes.foldl (fun n b => 256 * n + b.toNat) 0

def ofNat : (width : Nat) → Nat → Bytes
  | 0, _ => []
  | width + 1, n => ofNat width (n / 256) ++ [UInt8.ofNat n]

/-- The fewest base-256 digits that spell a number; zero is spelled by none. -/
def minimal (n : Nat) : Bytes :=
  if n = 0 then [] else minimal (n / 256) ++ [UInt8.ofNat n]
termination_by n
decreasing_by omega

@[simp] theorem limit_zero : limit 0 = 1 := rfl

theorem limit_succ (width : Nat) : limit (width + 1) = 256 * limit width := rfl

theorem limit_pos (width : Nat) : 0 < limit width := by
  induction width with
  | zero => decide
  | succ width ih => rw [limit_succ]; omega

@[simp] theorem toNat_nil : toNat [] = 0 := rfl

@[simp] theorem toNat_append_singleton (bytes : Bytes) (b : UInt8) :
    toNat (bytes ++ [b]) = 256 * toNat bytes + b.toNat := by
  simp [toNat]

theorem foldl_toNat (bytes : Bytes) (n : Nat) :
    bytes.foldl (fun n b => 256 * n + b.toNat) n = n * limit bytes.length + bytes.toNat := by
  induction bytes generalizing n with
  | nil => simp
  | cons b rest ih =>
    rw [toNat, List.foldl_cons, List.foldl_cons, ih, ih (256 * 0 + b.toNat), List.length_cons,
      limit_succ]
    grind

theorem toNat_cons (b : UInt8) (rest : Bytes) :
    toNat (b :: rest) = b.toNat * limit rest.length + toNat rest := by
  rw [toNat, List.foldl_cons, foldl_toNat]
  simp

theorem toNat_lt (bytes : Bytes) : toNat bytes < limit bytes.length := by
  induction bytes with
  | nil => simp
  | cons b rest ih =>
    rw [toNat_cons, List.length_cons, limit_succ]
    have hb := b.toNat_lt
    calc b.toNat * limit rest.length + toNat rest
        < b.toNat * limit rest.length + limit rest.length := by omega
      _ = (b.toNat + 1) * limit rest.length := by grind
      _ ≤ 256 * limit rest.length := Nat.mul_le_mul_right _ (by omega)

@[simp] theorem length_ofNat (width n : Nat) : (ofNat width n).length = width := by
  induction width generalizing n with
  | zero => rfl
  | succ width ih => simp [ofNat, ih]

theorem toNat_ofNat (width n : Nat) : toNat (ofNat width n) = n % limit width := by
  induction width generalizing n with
  | zero => simp [ofNat, Nat.mod_one]
  | succ width ih =>
    rw [ofNat, toNat_append_singleton, ih, limit_succ, Nat.mod_mul]
    simp [UInt8.toNat_ofNat']
    omega

@[simp] theorem toNat_minimal (n : Nat) : toNat (minimal n) = n := by
  induction n using Nat.strongRecOn with
  | ind n ih =>
    rw [minimal]
    split
    · simp [*]
    · rw [toNat_append_singleton, ih _ (by omega)]
      simp [UInt8.toNat_ofNat']
      omega

theorem minimal_zero : minimal 0 = [] := by
  rw [minimal, if_pos rfl]

theorem minimal_of_pos {n : Nat} (h : 0 < n) :
    minimal n = minimal (n / 256) ++ [UInt8.ofNat n] := by
  rw [minimal, if_neg (by omega)]

theorem head?_minimal (n : Nat) : (minimal n).head? ≠ some 0 := by
  induction n using Nat.strongRecOn with
  | ind n ih =>
    rcases Nat.eq_zero_or_pos n with rfl | hn
    · simp [minimal_zero]
    rw [minimal_of_pos hn]
    by_cases hq : n / 256 = 0
    · rw [hq, minimal_zero, List.nil_append, List.head?_cons]
      intro h
      have hz := congrArg UInt8.toNat (Option.some.inj h)
      simp [UInt8.toNat_ofNat'] at hz
      omega
    · have hpos : 0 < n / 256 := Nat.pos_of_ne_zero hq
      have hne : minimal (n / 256) ≠ [] := by
        rw [minimal_of_pos hpos]
        simp
      rw [List.head?_append, List.head?_eq_some_head hne, Option.some_or,
        ← List.head?_eq_some_head hne]
      exact ih _ (by omega)

theorem length_minimal_le {width n : Nat} (h : n < limit width) :
    (minimal n).length ≤ width := by
  induction width generalizing n with
  | zero =>
    rw [limit_zero] at h
    simp [show n = 0 by omega, minimal_zero]
  | succ width ih =>
    rw [limit_succ] at h
    rcases Nat.eq_zero_or_pos n with rfl | hn
    · simp [minimal_zero]
    rw [minimal_of_pos hn, List.length_append]
    have := ih (n := n / 256) (by omega)
    simpa using this

end Bytes

end LayerMessaging
