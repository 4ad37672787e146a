import ChatLink.Proofs.Rounding
import Mathlib.Algebra.Order.Field.Power
import Mathlib.Data.Rat.Floor
import Mathlib.Tactic.FieldSimp
import Mathlib.Tactic.Linarith
import Mathlib.Tactic.Positivity
import Mathlib.Tactic.Ring

namespace ChatLink.Binary64

def toRat? : Binary64 → Option ℚ
  | .finite negative mantissa exponent _ =>
    let magnitude := (mantissa : ℚ) * 2 ^ exponent
    some (if negative then -magnitude else magnitude)
  | _ => none

def isEven : Binary64 → Bool
  | .finite _ mantissa .. => mantissa % 2 == 0
  | _ => false

/-- A number of 53 significant bits. Its exponent is not bounded. -/
def Short (d : ℚ) : Prop := ∃ (m e : ℤ), |m| < 2 ^ 53 ∧ d = m * 2 ^ e

/-- No short number is nearer to `q` than `x` is, and if another is as near then `x` is the one with
the even mantissa. -/
structure Rounds (q : ℚ) (x : Binary64) (r : ℚ) : Prop where
  denotes : x.toRat? = some r
  short : Short r
  nearest : ∀ d, Short d → |r - q| ≤ |d - q|
  even : ∀ d, Short d → d ≠ r → |d - q| = |r - q| → x.isEven

theorem short_of_toRat? {x : Binary64} {r : ℚ} (h : x.toRat? = some r) : Short r := by
  obtain _ | _ | ⟨negative, m, e, canonical⟩ := x
  · cases h
  · cases h
  · cases h
    refine ⟨if negative then -m else m, e, ?_, ?_⟩
    · have size : |(m : ℤ)| < 2 ^ 53 := by
        rw [abs_of_nonneg (Int.natCast_nonneg m)]
        exact_mod_cast canonical.1
      cases negative
      · exact size
      · rw [if_pos rfl, abs_neg]
        exact size
    · cases negative <;> simp

section Quotient

variable {num den : Nat}

/-- The quotient lies within half a unit of what it is rounded to, and halfway only if that is
even. -/
theorem roundDiv_spec (num : Nat) (hd : 0 < den) :
    2 * (den * roundDiv num den) ≤ 2 * num + den ∧ 2 * num ≤ 2 * (den * roundDiv num den) + den ∧
      (2 * (den * roundDiv num den) = 2 * num + den ∨ 2 * num = 2 * (den * roundDiv num den) + den →
        roundDiv num den % 2 = 0) := by
  have split : den * (num / den) + num % den = num := Nat.div_add_mod num den
  have rest : num % den < den := Nat.mod_lt num hd
  rw [roundDiv]
  split
  · omega
  · rw [Nat.mul_add, Nat.mul_one]
    omega

theorem sub_quotient (hd : 0 < den) (k : ℚ) : k - num / den = (den * k - num) / den := by
  have : (den : ℚ) ≠ 0 := by exact_mod_cast Nat.ne_of_gt hd
  field_simp

theorem roundDiv_error (num : Nat) (hd : 0 < den) :
    |(roundDiv num den : ℚ) - num / den| ≤ 1 / 2 := by
  have positive : (0 : ℚ) < den := by exact_mod_cast hd
  obtain ⟨above, below, -⟩ := roundDiv_spec num hd
  have above : 2 * ((den : ℚ) * roundDiv num den) ≤ 2 * num + den := by exact_mod_cast above
  have below : 2 * (num : ℚ) ≤ 2 * (den * roundDiv num den) + den := by exact_mod_cast below
  rw [sub_quotient hd, abs_le, le_div_iff₀ positive, div_le_iff₀ positive]
  constructor <;> linarith

theorem roundDiv_even (num : Nat) (hd : 0 < den)
    (h : |(roundDiv num den : ℚ) - num / den| = 1 / 2) : roundDiv num den % 2 = 0 := by
  have some : (den : ℚ) ≠ 0 := by exact_mod_cast Nat.ne_of_gt hd
  obtain ⟨-, -, even⟩ := roundDiv_spec num hd
  rw [sub_quotient hd] at h
  apply even
  obtain above | below := eq_or_eq_neg_of_abs_eq h
  · left
    rw [div_eq_iff some] at above
    have : 2 * ((den : ℚ) * roundDiv num den) = 2 * num + den := by linarith
    exact_mod_cast this
  · right
    rw [div_eq_iff some] at below
    have : 2 * (num : ℚ) = 2 * (den * roundDiv num den) + den := by linarith
    exact_mod_cast this

theorem roundDiv_nearest (num : Nat) (hd : 0 < den) (k : ℤ) :
    |(roundDiv num den : ℚ) - num / den| ≤ |(k : ℚ) - num / den| ∧
      (k ≠ roundDiv num den → |(k : ℚ) - num / den| = |(roundDiv num den : ℚ) - num / den| →
        roundDiv num den % 2 = 0) := by
  have error := roundDiv_error num hd
  by_cases same : k = roundDiv num den
  · rw [same, Int.cast_natCast]
    exact ⟨le_refl _, fun other => absurd rfl other⟩
  · have apart : (1 : ℚ) ≤ |(k : ℚ) - roundDiv num den| := by
      have whole : 1 ≤ |k - roundDiv num den| := Int.one_le_abs (sub_ne_zero.mpr same)
      exact_mod_cast whole
    have around := abs_sub_le (k : ℚ) (num / den) (roundDiv num den)
    rw [abs_sub_comm ((num : ℚ) / den)] at around
    refine ⟨by linarith, fun _ tie => roundDiv_even num hd (by linarith)⟩

theorem roundDiv_exact (hd : 0 < den) (h : den ∣ num) : (roundDiv num den : ℚ) = num / den := by
  obtain ⟨k, rfl⟩ := h
  have : den ≠ 0 := Nat.ne_of_gt hd
  have exactly : roundDiv (den * k) den = k := by
    rw [roundDiv, Nat.mul_mod_right, Nat.mul_div_cancel_left k hd]
    simp [hd]
  rw [exactly, Nat.cast_mul]
  field_simp

end Quotient

theorem two_pow_toNat (e : ℤ) : (2 : ℚ) ^ e.toNat = 2 ^ e * 2 ^ (-e).toNat := by
  rw [← zpow_natCast, ← zpow_natCast, ← zpow_add₀ two_ne_zero]
  congr 1
  omega

theorem scaled_eq (num den : Nat) (hd : 0 < den) (e : ℤ) :
    ((num * 2 ^ (-e).toNat : ℕ) : ℚ) / (den * 2 ^ e.toNat : ℕ) = num / den / 2 ^ e := by
  have positive : (den : ℚ) ≠ 0 := by exact_mod_cast Nat.ne_of_gt hd
  push_cast
  rw [two_pow_toNat e]
  field_simp

theorem ofRounded_spec {mantissa : Nat} {exponent : ℤ} {m : Nat} {e : ℤ} {c : Canonical m e}
    (h : ofRounded false mantissa exponent = .finite false m e c) :
    (ofRounded false mantissa exponent).toRat? =
        some ((mantissa : ℚ) * 2 ^ exponent) ∧
      (ofRounded false mantissa exponent).isEven = (mantissa % 2 == 0) := by
  rw [ofRounded] at h ⊢
  split
  · rename_i carries
    rw [if_pos carries, ofParts, if_neg (by decide)] at h
    split at h
    · rename_i fits
      rw [ofParts, if_neg (by decide), dif_pos fits, carries]
      refine ⟨?_, rfl⟩
      rw [toRat?, zpow_add₀ two_ne_zero]
      norm_num
      ring
    · cases h
  · rename_i carries
    rw [if_neg carries, ofParts] at h
    rw [ofParts]
    split
    · rename_i nothing
      rw [nothing]
      exact ⟨by simp [zero, toRat?], rfl⟩
    · rename_i something
      rw [if_neg something] at h
      split at h
      · rename_i fits
        rw [dif_pos fits]
        exact ⟨rfl, rfl⟩
      · cases h

theorem two_zpow_pos (e : ℤ) : (0 : ℚ) < 2 ^ e := zpow_pos two_pos e

section Grid

variable {q : ℚ} {e : ℤ} {num den : Nat}

theorem grid_distance (scaled : (num : ℚ) / den = q / 2 ^ e) (k : ℚ) :
    |k * 2 ^ e - q| = |k - num / den| * 2 ^ e := by
  have positive := two_zpow_pos e
  have split : k * 2 ^ e - q = (k - num / den) * 2 ^ e := by
    rw [scaled]
    field_simp
  rw [split, abs_mul, abs_of_pos positive]

/-- A quotient that is rounded to a whole number of units is rounded among the short numbers, if
those that are no whole number of units are farther away. -/
theorem Rounds.of_grid {x : Binary64} (hd : 0 < den) (scaled : (num : ℚ) / den = q / 2 ^ e)
    (denotes : x.toRat? = some ((roundDiv num den : ℚ) * 2 ^ e))
    (parity : x.isEven = (roundDiv num den % 2 == 0))
    (coarse : ∀ d, Short d →
      (∃ k : ℤ, d = k * 2 ^ e) ∨ |(roundDiv num den : ℚ) * 2 ^ e - q| < |d - q|) :
    Rounds q x (roundDiv num den * 2 ^ e) := by
  refine ⟨denotes, short_of_toRat? denotes, fun d short => ?_, fun d short other tie => ?_⟩
  · obtain ⟨k, rfl⟩ | farther := coarse d short
    · rw [grid_distance scaled, grid_distance scaled]
      exact mul_le_mul_of_nonneg_right (roundDiv_nearest num hd k).1 (two_zpow_pos e).le
    · exact farther.le
  · obtain ⟨k, rfl⟩ | farther := coarse d short
    · rw [grid_distance scaled, grid_distance scaled] at tie
      have different : k ≠ roundDiv num den := by
        rintro rfl
        exact other (by rw [Int.cast_natCast])
      have even := (roundDiv_nearest num hd k).2 different
        (mul_right_cancel₀ (two_zpow_pos e).ne' tie)
      rw [parity, even]
      rfl
    · exact absurd tie farther.ne'

/-- The numbers between those of the grid are below one with the least mantissa of all its bits. -/
theorem Short.on_grid_or_small {d : ℚ} (h : Short d) (e : ℤ) :
    (∃ k : ℤ, d = k * 2 ^ e) ∨ d < 2 ^ 52 * 2 ^ e := by
  obtain ⟨m, f, few, rfl⟩ := h
  by_cases fine : e ≤ f
  · left
    refine ⟨m * 2 ^ (f - e).toNat, ?_⟩
    have shift : (2 : ℚ) ^ f = 2 ^ (f - e).toNat * 2 ^ e := by
      rw [← zpow_natCast, ← zpow_add₀ two_ne_zero]
      congr 1
      omega
    push_cast
    rw [shift, mul_assoc]
  · right
    have most : (m : ℚ) < 2 ^ 53 := by exact_mod_cast lt_of_abs_lt few
    calc (m : ℚ) * 2 ^ f
        < 2 ^ 53 * 2 ^ f := mul_lt_mul_of_pos_right most (two_zpow_pos f)
      _ ≤ 2 ^ 53 * 2 ^ (e - 1) :=
          mul_le_mul_of_nonneg_left (zpow_le_zpow_right₀ one_le_two (by omega)) (by positivity)
      _ = 2 ^ 52 * 2 ^ e := by
          rw [zpow_sub_one₀ two_ne_zero]
          ring

/-- With a full mantissa, the least one of its bits is nearer than whatever lies below it. -/
theorem full_coarse (hd : 0 < den) (scaled : (num : ℚ) / den = q / 2 ^ e)
    (full : den * 2 ^ 52 ≤ num) {d : ℚ} (small : d < 2 ^ 52 * 2 ^ e) :
    |(roundDiv num den : ℚ) * 2 ^ e - q| < |d - q| := by
  have above : (2 : ℚ) ^ 52 ≤ num / den := by
    rw [le_div_iff₀ (by exact_mod_cast hd), mul_comm]
    exact_mod_cast full
  rw [scaled, le_div_iff₀ (two_zpow_pos e)] at above
  have least := (roundDiv_nearest num hd (2 ^ 52)).1
  have near : |(roundDiv num den : ℚ) * 2 ^ e - q| ≤ |2 ^ 52 * 2 ^ e - q| := by
    rw [grid_distance scaled, grid_distance scaled]
    exact mul_le_mul_of_nonneg_right (by exact_mod_cast least) (two_zpow_pos e).le
  rw [abs_of_nonpos (by linarith : 2 ^ 52 * 2 ^ e - q ≤ 0)] at near
  rw [abs_of_neg (by linarith : d - q < 0)]
  linarith

theorem exact_coarse (hd : 0 < den) (scaled : (num : ℚ) / den = q / 2 ^ e) (whole : den ∣ num)
    (d : ℚ) :
    (∃ k : ℤ, d = k * 2 ^ e) ∨ |(roundDiv num den : ℚ) * 2 ^ e - q| < |d - q| := by
  have same : (roundDiv num den : ℚ) * 2 ^ e = q := by
    rw [roundDiv_exact hd whole, scaled, div_mul_cancel₀ _ (two_zpow_pos e).ne']
  by_cases equal : d = q
  · left
    exact ⟨roundDiv num den, by rw [equal, ← same, Int.cast_natCast]⟩
  · right
    rw [same, sub_self, abs_zero]
    exact abs_pos.mpr (sub_ne_zero.mpr equal)

end Grid

theorem ofRatio_rounds {num den : Nat} (hn : 0 < num) (hd : 0 < den) (h : num < den * 2 ^ 1000)
    (fine : den ∣ num * 2 ^ 1074) : ∃ r, Rounds (num / den) (ofRatio false num den) r := by
  obtain ⟨m, f, c, finite⟩ := ofRatio_finite false hd h
  rw [ofRatio] at finite ⊢
  obtain ⟨e, he⟩ : ∃ e, max (lastBit 53 num den) (-1074) = e := ⟨_, rfl⟩
  rw [he] at finite ⊢
  obtain ⟨denotes, parity⟩ := ofRounded_spec finite
  have scaled := scaled_eq num den hd e
  have positive : 0 < den * 2 ^ e.toNat := Nat.mul_pos hd (Nat.two_pow_pos _)
  refine ⟨_, .of_grid positive scaled denotes parity fun d short => ?_⟩
  by_cases normal : -1074 ≤ lastBit 53 num den
  · rw [Int.max_eq_left normal] at he
    refine (short.on_grid_or_small e).imp id (full_coarse positive scaled ?_)
    rw [← he]
    exact (lastBit_spec (by decide) hn hd).1
  · rw [Int.max_eq_right (by omega)] at he
    have up : e.toNat = 0 := by omega
    have down : (-e).toNat = 1074 := by omega
    refine exact_coarse positive scaled ?_ d
    rw [up, down, Nat.pow_zero, Nat.mul_one]
    exact fine

theorem rounds_zero (negative : Bool) : Rounds 0 (zero negative) 0 := by
  have denotes : (zero negative).toRat? = some 0 := by cases negative <;> simp [zero, toRat?]
  refine ⟨denotes, short_of_toRat? denotes, fun d _ => ?_, fun _ _ _ _ => rfl⟩
  rw [sub_self, abs_zero]
  exact abs_nonneg _

theorem toRat?_nonnegative {negative : Bool} {m : Nat} {e : ℤ} {c : Canonical m e} {w : ℚ}
    (hx : (finite negative m e c).toRat? = some w) (hw : 0 ≤ w) :
    w = m * 2 ^ e ∧ (m = 0 ∨ negative = false) := by
  cases negative with
  | false => exact ⟨(Option.some.inj hx).symm, .inr rfl⟩
  | true =>
    obtain rfl : -((m : ℚ) * 2 ^ e) = w := Option.some.inj hx
    have none : (m : ℚ) * 2 ^ e ≤ 0 := neg_nonneg.mp hw
    have nothing : (m : ℚ) = 0 := by
      refine le_antisymm ?_ (Nat.cast_nonneg m)
      exact nonpos_of_mul_nonpos_left none (two_zpow_pos e)
    exact ⟨by rw [nothing]; simp, .inl (by exact_mod_cast nothing)⟩

theorem scale_rounds {x : Binary64} {w : ℚ} {factor bits : Nat} (hx : x.toRat? = some w)
    (hw : 0 ≤ w) (hb : bits ≤ 1000) (most : w * factor < 2 ^ bits) :
    ∃ r, Rounds (w * factor) (x.scale factor) r := by
  obtain _ | _ | ⟨negative, m, e, canonical⟩ := x
  · cases hx
  · cases hx
  obtain ⟨rfl, sign⟩ := toRat?_nonnegative hx hw
  rw [scale]
  have positive : 0 < 2 ^ (-e).toNat := Nat.two_pow_pos _
  have exactly : ((m * factor * 2 ^ e.toNat : ℕ) : ℚ) / (2 ^ (-e).toNat : ℕ) =
      m * 2 ^ e * factor := by
    push_cast
    rw [two_pow_toNat e]
    field_simp
  by_cases nothing : m * factor = 0
  · have none : (m : ℚ) * 2 ^ e * factor = 0 := by
      rw [← exactly, nothing]
      simp
    rw [nothing, Nat.zero_mul, ofRatio_zero _ positive, none]
    exact ⟨0, rounds_zero negative⟩
  · obtain rfl : negative = false :=
      sign.resolve_left fun hm => nothing (by rw [hm, Nat.zero_mul])
    rw [← exactly]
    have some := Nat.mul_pos (Nat.pos_of_ne_zero nothing) (Nat.two_pow_pos e.toNat)
    refine ofRatio_rounds some positive ?_ ?_
    · rw [← exactly, div_lt_iff₀' (by positivity)] at most
      have small : m * factor * 2 ^ e.toNat < 2 ^ (-e).toNat * 2 ^ bits := by exact_mod_cast most
      refine small.trans_le (Nat.mul_le_mul_left _ ?_)
      exact (Nat.pow_le_pow_right Nat.two_pos hb :)
    · have least : (-e).toNat ≤ 1074 := by
        have := canonical.2.1
        omega
      exact Dvd.dvd.mul_left (Nat.pow_dvd_pow 2 least) _

theorem truncate?_of_toRat? {x : Binary64} {w : ℚ} (hx : x.toRat? = some w) (hw : 0 ≤ w) :
    x.truncate? = some ⌊w⌋ := by
  obtain _ | _ | ⟨negative, m, e, canonical⟩ := x
  · cases hx
  · cases hx
  obtain ⟨rfl, sign⟩ := toRat?_nonnegative hx hw
  have exactly : (m : ℚ) * 2 ^ e = ((m * 2 ^ e.toNat : ℕ) : ℚ) / (2 ^ (-e).toNat : ℕ) := by
    push_cast
    rw [two_pow_toNat e]
    field_simp
  rw [truncate?, exactly, Rat.floor_natCast_div_natCast, ← Int.natCast_ediv]
  obtain rfl | rfl := sign
  · cases negative <;> simp
  · rfl

end ChatLink.Binary64
