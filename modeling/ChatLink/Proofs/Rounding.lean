import ChatLink.Number.Binary64

namespace ChatLink.Binary64

theorem roundDiv_le {num den bound : Nat} (h : num < den * bound) : roundDiv num den ≤ bound := by
  have below : num / den < bound := Nat.div_lt_of_lt_mul h
  rw [roundDiv]
  split
  · exact Nat.le_of_lt below
  · exact below

theorem le_roundDiv {num den bound : Nat} (hd : 0 < den) (h : den * bound ≤ num) :
    bound ≤ roundDiv num den := by
  have above : bound ≤ num / den := (Nat.le_div_iff_mul_le hd).mpr (by rwa [Nat.mul_comm])
  rw [roundDiv]
  split
  · exact above
  · exact Nat.le_succ_of_le above

section LastBit

variable {bits num den : Nat}

theorem quotient_bounds {p q : Nat} (hb : 0 < bits) (hn : 0 < num) (hd : 0 < den)
    (meet : num.log2 + p = den.log2 + q + bits) :
    den * 2 ^ q * 2 ^ (bits - 1) ≤ num * 2 ^ p ∧ num * 2 ^ p < den * 2 ^ q * 2 ^ bits * 2 := by
  have numLow : 2 ^ num.log2 ≤ num := Nat.log2_self_le (Nat.ne_of_gt hn)
  have numHigh : num < 2 ^ (num.log2 + 1) := Nat.lt_log2_self
  have denLow : 2 ^ den.log2 ≤ den := Nat.log2_self_le (Nat.ne_of_gt hd)
  have denHigh : den ≤ 2 ^ (den.log2 + 1) := Nat.le_of_lt Nat.lt_log2_self
  constructor
  · calc den * 2 ^ q * 2 ^ (bits - 1)
        ≤ 2 ^ (den.log2 + 1) * 2 ^ q * 2 ^ (bits - 1) :=
          Nat.mul_le_mul_right _ (Nat.mul_le_mul_right _ denHigh)
      _ = 2 ^ num.log2 * 2 ^ p := by
          rw [← Nat.pow_add, ← Nat.pow_add, ← Nat.pow_add, meet]
          congr 1
          omega
      _ ≤ num * 2 ^ p := Nat.mul_le_mul_right _ numLow
  · calc num * 2 ^ p
        < 2 ^ (num.log2 + 1) * 2 ^ p := Nat.mul_lt_mul_of_pos_right numHigh (Nat.two_pow_pos p)
      _ = 2 ^ den.log2 * 2 ^ q * 2 ^ bits * 2 := by
          rw [← Nat.pow_add, ← Nat.pow_add, ← Nat.pow_add, ← Nat.pow_succ, ← meet]
          congr 1
          omega
      _ ≤ den * 2 ^ q * 2 ^ bits * 2 :=
          Nat.mul_le_mul_right _ (Nat.mul_le_mul_right _ (Nat.mul_le_mul_right _ denLow))

theorem lastBit_spec (hb : 0 < bits) (hn : 0 < num) (hd : 0 < den) :
    den * 2 ^ (lastBit bits num den).toNat * 2 ^ (bits - 1) ≤
        num * 2 ^ (-lastBit bits num den).toNat ∧
      num * 2 ^ (-lastBit bits num den).toNat <
        den * 2 ^ (lastBit bits num den).toNat * 2 ^ bits := by
  obtain ⟨e, he⟩ : ∃ e : Int, (num.log2 : Int) - den.log2 - bits = e := ⟨_, rfl⟩
  have meet : num.log2 + (-e).toNat = den.log2 + e.toNat + bits := by omega
  obtain ⟨low, high⟩ := quotient_bounds hb hn hd meet
  have place : lastBit bits num den =
      if num * 2 ^ (-e).toNat < den * 2 ^ e.toNat * 2 ^ bits then e else e + 1 := by
    rw [lastBit, he, Nat.mul_comm (2 ^ bits), Nat.mul_right_comm]
  rw [place]
  -- the leading bits give the place up to one, and the comparison settles which
  split
  · rename_i enough
    exact ⟨low, enough⟩
  · rename_i more
    rw [Nat.not_lt] at more
    have half : 2 ^ bits = 2 ^ (bits - 1) * 2 := by
      rw [← Nat.pow_succ, Nat.succ_eq_add_one, Nat.sub_add_cancel hb]
    by_cases negative : e < 0
    · obtain ⟨p, hp⟩ : ∃ p, (-e).toNat = p + 1 := ⟨(-e).toNat - 1, by omega⟩
      have lessShift : (-(e + 1)).toNat = p := by omega
      have noShift : (e + 1).toNat = e.toNat := by omega
      rw [hp, Nat.pow_succ, ← Nat.mul_assoc] at more high
      rw [half, ← Nat.mul_assoc] at more
      rw [lessShift, noShift]
      exact ⟨Nat.le_of_mul_le_mul_right more Nat.two_pos,
        Nat.lt_of_mul_lt_mul_right high⟩
    · have moreShift : (e + 1).toNat = e.toNat + 1 := by omega
      have noShift : (-(e + 1)).toNat = (-e).toNat := by omega
      rw [half, ← Nat.mul_assoc, Nat.mul_right_comm] at more
      rw [Nat.mul_right_comm] at high
      rw [moreShift, noShift, Nat.pow_succ, ← Nat.mul_assoc]
      exact ⟨more, high⟩

end LastBit

section Finite

variable (negative : Bool)

theorem ofParts_finite {mantissa : Nat} {exponent : Int}
    (h : mantissa = 0 ∨ Canonical mantissa exponent) :
    ∃ m e c, ofParts negative mantissa exponent = .finite negative m e c := by
  rw [ofParts]
  by_cases zero : mantissa = 0
  · exact ⟨_, _, _, if_pos zero⟩
  · have canonical := h.resolve_left zero
    exact ⟨_, _, canonical, by rw [if_neg zero, dif_pos canonical]⟩

theorem ofRounded_finite {mantissa : Nat} {exponent : Int} (most : mantissa ≤ 2 ^ 53)
    (low : -1074 ≤ exponent) (high : exponent ≤ 970)
    (full : 2 ^ 52 ≤ mantissa ∨ exponent = -1074) :
    ∃ m e c, ofRounded negative mantissa exponent = .finite negative m e c := by
  rw [ofRounded]
  split
  · exact ofParts_finite negative (.inr ⟨by decide, by omega, by omega, .inl (Nat.le_refl _)⟩)
  · rename_i carries
    exact ofParts_finite negative
      (.inr ⟨Nat.lt_of_le_of_ne most carries, low, by omega, full⟩)

theorem lastBit_lt {num den : Nat} (hn : 0 < num) (hd : 0 < den) (h : num < den * 2 ^ 1000) :
    lastBit 53 num den < 948 := by
  rw [← Int.not_le]
  intro far
  obtain ⟨low, _⟩ := lastBit_spec (by decide : 0 < 53) hn hd
  have noShift : (-lastBit 53 num den).toNat = 0 := by omega
  rw [noShift, Nat.pow_zero, Nat.mul_one, Nat.mul_assoc, ← Nat.pow_add] at low
  have powers := Nat.lt_of_mul_lt_mul_left (Nat.lt_of_le_of_lt low h)
  have := (Nat.pow_lt_pow_iff_right (by decide)).mp powers
  omega

theorem ofRatio_zero {den : Nat} (hd : 0 < den) : ofRatio negative 0 den = zero negative := by
  have nothing : roundDiv (0 * 2 ^ (-max (lastBit 53 0 den) (-1074)).toNat)
      (den * 2 ^ (max (lastBit 53 0 den) (-1074)).toNat) = 0 := by
    simp [roundDiv, hd]
  rw [ofRatio, nothing]
  rfl

theorem ofRatio_finite {num den : Nat} (hd : 0 < den) (h : num < den * 2 ^ 1000) :
    ∃ m e c, ofRatio negative num den = .finite negative m e c := by
  rcases Nat.eq_zero_or_pos num with rfl | hn
  · exact ⟨_, _, _, ofRatio_zero negative hd⟩
  · have near := lastBit_lt hn hd h
    obtain ⟨low, high⟩ := lastBit_spec (by decide : 0 < 53) hn hd
    rw [ofRatio]
    by_cases normal : -1074 ≤ lastBit 53 num den
    · rw [Int.max_eq_left normal]
      exact ofRounded_finite negative (roundDiv_le high) normal (by omega)
        (.inl (le_roundDiv (Nat.mul_pos hd (Nat.two_pow_pos _)) low))
    · rw [Int.max_eq_right (by omega)]
      have noShift : (lastBit 53 num den).toNat = (-1074 : Int).toNat := by omega
      rw [noShift] at high
      refine ofRounded_finite negative (roundDiv_le (Nat.lt_of_le_of_lt ?_ high)) (Int.le_refl _)
        (by decide) (.inr rfl)
      exact Nat.mul_le_mul_left num (Nat.pow_le_pow_right (by decide) (by omega))

end Finite

end ChatLink.Binary64
