import LayerMessaging.Number.Binary64

namespace LayerMessaging.Binary64

/-- The binary exponent of the last place to which a quotient of units is rounded. -/
def scaleOf (num den : Nat) : Nat := (num / den).log2 - 52

theorem binade_pos : 0 < binade := by decide

theorem pow_two_pos (exponent : Nat) : 0 < Nat.pow 2 exponent := Nat.pow_pos (by decide)

theorem exists_one_eq : ∃ exponent, one = Nat.pow 2 exponent := by
  unfold one
  exact ⟨_, rfl⟩

theorem one_pos : 0 < one := by
  obtain ⟨exponent, hone⟩ := exists_one_eq
  rw [hone]
  exact pow_two_pos exponent

/-- Magnitude bits are a scale and a number of last places, also where the number of places is one
more than fits. -/
theorem unitsOfBits_scaled {scale places : Nat} (hlow : scale = 0 ∨ binade ≤ places)
    (hhigh : places ≤ 2 * binade) :
    unitsOfBits (scale * binade + places) = places * Nat.pow 2 scale := by
  have hpos := binade_pos
  unfold unitsOfBits
  generalize binade = binade at *
  by_cases hsmall : places < binade
  · have hscale : scale = 0 := by omega
    subst hscale
    rw [if_pos (by omega)]
    simp
  · rw [if_neg (by omega)]
    by_cases htop : places = 2 * binade
    · -- One place too many is the least number of the next scale.
      have hbits : scale * binade + places = binade * (scale + 2) := by
        rw [htop]
        grind
      rw [hbits, Nat.mul_mod_right, Nat.mul_div_cancel_left _ hpos, htop]
      simp only [Nat.pow_eq, Nat.add_zero]
      rw [show scale + 2 - 1 = scale + 1 by omega, Nat.pow_succ]
      grind
    · have hbits : scale * binade + places = binade * (scale + 1) + (places - binade) := by
        have hle : binade ≤ places := by omega
        obtain ⟨rest, rfl⟩ := Nat.exists_eq_add_of_le hle
        rw [Nat.add_sub_cancel_left]
        grind
      rw [hbits, Nat.mul_add_mod, Nat.mul_add_div hpos, Nat.mod_eq_of_lt (by omega),
        Nat.div_eq_of_lt (by omega)]
      congr 1
      omega

theorem div_le_roundDiv (num den : Nat) : num / den ≤ roundDiv num den := by
  unfold roundDiv
  dsimp only
  split <;> omega

theorem roundDiv_le (num den : Nat) : roundDiv num den ≤ num / den + 1 := by
  unfold roundDiv
  dsimp only
  split <;> omega

/-- A quotient has 53 significant bits before it is rounded, or fewer at the least scale. -/
theorem places_bounds (num den : Nat) :
    num / (den * Nat.pow 2 (scaleOf num den)) < 2 * binade ∧
      (scaleOf num den = 0 ∨ binade ≤ num / (den * Nat.pow 2 (scaleOf num den))) := by
  have hbinade : binade = 2 ^ 52 := rfl
  rw [← Nat.div_div_eq_div_mul]
  unfold scaleOf
  generalize binade = binade at *
  generalize num / den = q
  have hlog : q < 2 ^ (q.log2 + 1) := Nat.lt_log2_self
  constructor
  · apply Nat.div_lt_of_lt_mul
    have hexponent : 2 ^ (q.log2 + 1) ≤ 2 ^ (q.log2 - 52 + 1 + 52) :=
      Nat.pow_le_pow_right (by decide) (by omega)
    rw [Nat.pow_add _ _ 52, Nat.pow_succ, ← hbinade] at hexponent
    calc q < 2 ^ (q.log2 + 1) := hlog
      _ ≤ 2 ^ (q.log2 - 52) * 2 * binade := hexponent
      _ = Nat.pow 2 (q.log2 - 52) * (2 * binade) := Nat.mul_assoc ..
  · by_cases hscale : q.log2 - 52 = 0
    · exact .inl hscale
    · right
      have hne : q ≠ 0 := by
        rintro rfl
        simp at hscale
      have hself : 2 ^ q.log2 ≤ q := Nat.log2_self_le hne
      have hsplit : q.log2 = 52 + (q.log2 - 52) := by omega
      rw [hsplit, Nat.pow_add, ← hbinade] at hself
      exact (Nat.le_div_iff_mul_le (pow_two_pos _)).mpr hself

theorem roundDiv_bounds (num den : Nat) :
    roundDiv num (den * Nat.pow 2 (scaleOf num den)) ≤ 2 * binade ∧
      (scaleOf num den = 0 ∨ binade ≤ roundDiv num (den * Nat.pow 2 (scaleOf num den))) := by
  obtain ⟨hhigh, hlow⟩ := places_bounds num den
  have hbelow := div_le_roundDiv num (den * Nat.pow 2 (scaleOf num den))
  have habove := roundDiv_le num (den * Nat.pow 2 (scaleOf num den))
  generalize binade = binade at *
  constructor
  · exact Nat.le_trans habove hhigh
  · rcases hlow with hzero | hlow
    · exact .inl hzero
    · exact .inr (Nat.le_trans hlow hbelow)

/-- A quotient that is not below a number of at most 53 significant bits is not rounded below it. -/
theorem le_roundDiv_mul {num den places scale : Nat} (hden : 0 < den)
    (hplaces : places < 2 * binade) (h : places * Nat.pow 2 scale * den ≤ num) :
    places * Nat.pow 2 scale ≤
      roundDiv num (den * Nat.pow 2 (scaleOf num den)) * Nat.pow 2 (scaleOf num den) := by
  obtain ⟨-, hlow⟩ := roundDiv_bounds num den
  have hround := div_le_roundDiv num (den * Nat.pow 2 (scaleOf num den))
  generalize scaleOf num den = s at hlow hround ⊢
  by_cases hle : s ≤ scale
  · -- The number is a whole number of last places, and rounding keeps those that are whole.
    obtain ⟨d, rfl⟩ := Nat.exists_eq_add_of_le hle
    have hsplit : places * Nat.pow 2 (s + d) = places * Nat.pow 2 d * Nat.pow 2 s := by
      simp only [Nat.pow_eq]
      rw [Nat.pow_add]
      grind
    rw [hsplit] at h ⊢
    apply Nat.mul_le_mul_right
    refine Nat.le_trans ?_ hround
    apply (Nat.le_div_iff_mul_le (Nat.mul_pos hden (pow_two_pos s))).mpr
    calc places * Nat.pow 2 d * (den * Nat.pow 2 s)
        = places * Nat.pow 2 d * Nat.pow 2 s * den := by grind
      _ ≤ num := h
  · -- The last place is beyond the number's own, and then so is the whole.
    have hs : scale + 1 ≤ s := by omega
    have hlow : binade ≤ roundDiv num (den * Nat.pow 2 s) := by
      rcases hlow with hzero | hlow
      · omega
      · exact hlow
    have hpow_le : 2 * Nat.pow 2 scale ≤ Nat.pow 2 s := by
      have hexponent : 2 ^ (scale + 1) ≤ 2 ^ s := Nat.pow_le_pow_right (by decide) hs
      rw [Nat.pow_succ] at hexponent
      simp only [Nat.pow_eq]
      omega
    calc places * Nat.pow 2 scale
        ≤ 2 * binade * Nat.pow 2 scale := Nat.mul_le_mul_right _ (by omega)
      _ = binade * (2 * Nat.pow 2 scale) := by grind
      _ ≤ binade * Nat.pow 2 s := Nat.mul_le_mul_left _ hpow_le
      _ ≤ _ := Nat.mul_le_mul_right _ hlow

theorem value_ofMagnitude {bits : Nat} (h : bits ≤ infinityBits) :
    (ofMagnitude false bits).value =
      if bits = infinityBits then .infinite false else .finite false (unitsOfBits bits) := by
  have hlimit : infinityBits < signBit := by decide
  have hsign : signBit < UInt64.size := by decide
  have hbits : (ofMagnitude false bits).bits.toNat = bits := by
    unfold ofMagnitude
    dsimp only
    rw [if_neg Bool.false_ne_true, Nat.zero_add]
    exact UInt64.toNat_ofNat_of_lt' (by omega)
  have hmagnitude : (ofMagnitude false bits).magnitudeBits = bits := by
    unfold magnitudeBits
    rw [hbits]
    exact Nat.mod_eq_of_lt (by omega)
  have hnegative : (ofMagnitude false bits).isNegative = false := by
    unfold isNegative
    rw [hbits]
    exact decide_eq_false (by omega)
  unfold value
  rw [hmagnitude, hnegative, if_neg (by omega)]

/-- The number is infinite, or has at least so many units; it is not negative. -/
def Reaches (x : Binary64) (units : Nat) : Prop :=
  x.value = .infinite false ∨ ∃ n, x.value = .finite false n ∧ units ≤ n

theorem round_reaches {num den places scale unit : Nat} (hunit : unit = Nat.pow 2 scale)
    (hden : 0 < den) (hplaces : places < 2 * binade) (h : places * unit * den ≤ num) :
    (round false num den).Reaches (places * unit) := by
  subst hunit
  obtain ⟨hhigh, hlow⟩ := roundDiv_bounds num den
  have hle := le_roundDiv_mul hden hplaces h
  have hbits : roundBits num den = min infinityBits (scaleOf num den * binade +
      roundDiv num (den * Nat.pow 2 (scaleOf num den))) := rfl
  rw [← unitsOfBits_scaled hlow hhigh] at hle
  unfold Reaches round
  rw [value_ofMagnitude (by rw [hbits]; exact Nat.min_le_left ..), hbits]
  generalize scaleOf num den * binade +
    roundDiv num (den * Nat.pow 2 (scaleOf num den)) = bits at hle ⊢
  rcases Nat.le_total infinityBits bits with htop | hfits
  · rw [Nat.min_eq_left htop, if_pos rfl]
    exact .inl rfl
  · rw [Nat.min_eq_right hfits]
    split
    · exact .inl rfl
    · exact .inr ⟨_, rfl, hle⟩

theorem ofNat_reaches {n : Nat} (h : n < 2 * binade) : (ofNat n).Reaches (n * one) := by
  obtain ⟨exponent, hone⟩ := exists_one_eq
  exact round_reaches hone Nat.one_pos h (Nat.le_of_eq (Nat.mul_one _))

/-- A number that is not below one reaches one, unless it is none. -/
theorem reaches_one_of_ltOne {x : Binary64} (h : x.ltOne = false) (hnan : x.value ≠ .nan) :
    x.Reaches one := by
  unfold ltOne at h
  unfold Reaches
  cases hx : x.value with
  | nan => exact absurd hx hnan
  | infinite negative =>
    rw [hx] at h
    subst h
    exact .inl rfl
  | finite negative units =>
    rw [hx] at h
    simp only [Bool.or_eq_false_iff, decide_eq_false_iff_not, Nat.not_lt] at h
    obtain ⟨rfl, hle⟩ := h
    exact .inr ⟨units, rfl, hle⟩

/-- A factor of at least one does not take a number below what it reaches. -/
theorem Reaches.mul {x y : Binary64} {n : Nat} (hn : 0 < n) (hlt : n < 2 * binade)
    (hx : x.Reaches (n * one)) (hy : y.Reaches one) : (x.mul y).Reaches (n * one) := by
  have hpos := one_pos
  have hinfinite : (infinity false).value = .infinite false := by decide +kernel
  unfold Binary64.mul
  -- Neither factor is zero, so that an infinite one makes the product infinite.
  rcases hx with hx | ⟨a, hx, ha⟩ <;> rcases hy with hy | ⟨b, hy, hb⟩ <;> rw [hx, hy] <;> dsimp only
  · exact .inl hinfinite
  · rw [if_neg (by omega)]
    exact .inl hinfinite
  · have hunits : 0 < n * one := Nat.mul_pos hn hpos
    rw [if_neg (by omega)]
    exact .inl hinfinite
  · obtain ⟨exponent, hone⟩ := exists_one_eq
    exact round_reaches hone hpos hlt (Nat.mul_le_mul ha hb)

theorem Reaches.le_toNatBelow {x : Binary64} {n bound : Nat} (h : x.Reaches (n * one))
    (hn : n < bound) : n ≤ x.toNatBelow bound := by
  unfold toNatBelow
  rcases h with h | ⟨units, h, hunits⟩ <;> rw [h] <;> simp only [Bool.false_eq_true, if_false]
  · omega
  · have hdiv : n ≤ units / one := (Nat.le_div_iff_mul_le one_pos).mpr hunits
    omega

theorem Reaches.le_ceilBelow {x : Binary64} {n bound : Nat} (h : x.Reaches (n * one))
    (hn : n < bound) : n ≤ x.ceilBelow bound := by
  unfold ceilBelow
  rcases h with h | ⟨units, h, hunits⟩ <;> rw [h] <;> simp only [Bool.false_eq_true, if_false]
  · omega
  · have hdiv : n ≤ (units + (one - 1)) / one :=
      (Nat.le_div_iff_mul_le one_pos).mpr (Nat.le_trans hunits (Nat.le_add_right ..))
    omega

theorem value_mul_nan (x : Binary64) {y : Binary64} (h : y.value = .nan) :
    (x.mul y).value = .nan := by
  have hnan : (nan false).value = .nan := by decide +kernel
  unfold mul
  rw [h]
  cases x.value <;> exact hnan

theorem toNatBelow_nan {x : Binary64} (h : x.value = .nan) (bound : Nat) :
    x.toNatBelow bound = 0 := by
  unfold toNatBelow
  rw [h]

theorem ceilBelow_nan {x : Binary64} (h : x.value = .nan) (bound : Nat) :
    x.ceilBelow bound = 0 := by
  unfold ceilBelow
  rw [h]

end LayerMessaging.Binary64
