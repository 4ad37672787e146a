import ChatLink.Dispatcher
import ChatLink.Proofs.Rounding

namespace ChatLink

namespace Binary64

def isNonnegative : Binary64 → Bool
  | .nan => false
  | .infinite negative => !negative
  | .finite negative mantissa .. => !negative || mantissa == 0

theorem truncate?_zero (negative : Bool) : (zero negative).truncate? = some 0 := by
  simp only [zero, truncate?, Nat.zero_mul, Nat.zero_div]
  cases negative <;> rfl

theorem truncate?_scale {factor n : Nat} {x : Binary64} (h : x.isNonnegative)
    (ht : x.truncate? = some (n : Int)) (hmax : (n + 1) * factor ≤ 2 ^ 1000) (hf : 0 < factor) :
    ∃ k : Nat, (x.scale factor).truncate? = some (k : Int) := by
  obtain _ | _ | ⟨negative, mantissa, exponent, canonical⟩ := x
  · cases ht
  · cases ht
  rw [scale]
  cases negative with
  | true =>
    have nothing : mantissa = 0 := by simpa [isNonnegative] using h
    rw [nothing, Nat.zero_mul, Nat.zero_mul, ofRatio_zero true (Nat.two_pow_pos _)]
    exact ⟨0, truncate?_zero true⟩
  | false =>
    have whole : mantissa * 2 ^ exponent.toNat / 2 ^ (-exponent).toNat = n :=
      Int.ofNat.inj (Option.some.inj ht)
    have bound : mantissa * factor * 2 ^ exponent.toNat < 2 ^ (-exponent).toNat * 2 ^ 1000 := by
      calc mantissa * factor * 2 ^ exponent.toNat
          = mantissa * 2 ^ exponent.toNat * factor := Nat.mul_right_comm ..
        _ < 2 ^ (-exponent).toNat * (n + 1) * factor := by
            rw [← whole]
            exact Nat.mul_lt_mul_of_pos_right (Nat.lt_mul_div_succ _ (Nat.two_pow_pos _)) hf
        _ = 2 ^ (-exponent).toNat * ((n + 1) * factor) := Nat.mul_assoc ..
        _ ≤ 2 ^ (-exponent).toNat * 2 ^ 1000 := Nat.mul_le_mul_left _ hmax
    obtain ⟨m, e, c, finite⟩ := ofRatio_finite false (Nat.two_pow_pos _) bound
    rw [finite]
    exact ⟨_, rfl⟩

theorem toInt_real {x : Binary64} {n : Int} :
    (Value.real x).toInt = .ok n ↔ x.truncate? = some n := by
  obtain _ | _ | _ := x
  · exact ⟨nofun, nofun⟩
  · exact ⟨nofun, nofun⟩
  · simp only [Value.toInt, truncate?, Except.ok.injEq, Option.some.injEq]

end Binary64

def Value.isNonnegative : Value → Bool
  | .bool _ => true
  | .int n => 0 ≤ n
  | .real x => x.isNonnegative
  | _ => false

theorem Session.correlation_of_nonnegative {time : Value} {seconds : Nat} (h : time.isNonnegative)
    (ht : time.toInt = .ok (seconds : Int)) (hmax : seconds < 2 ^ 48) :
    ∃ id : Nat, Session.correlation time = .ok (id : Int) := by
  cases time with
  | bool b => cases b <;> exact ⟨_, rfl⟩
  | int n =>
    cases ht
    exact ⟨seconds * 1000, rfl⟩
  | real x =>
    have room : (seconds + 1) * 1000 ≤ 2 ^ 1000 :=
      calc (seconds + 1) * 1000 ≤ 2 ^ 48 * 2 ^ 10 := Nat.mul_le_mul hmax (by decide)
        _ = 2 ^ (48 + 10) := (Nat.pow_add 2 48 10).symm
        _ ≤ 2 ^ 1000 := Nat.pow_le_pow_right Nat.two_pos (by decide)
    obtain ⟨k, hk⟩ :=
      Binary64.truncate?_scale h (Binary64.toInt_real.mp ht) room (Nat.succ_pos 999)
    refine ⟨k, ?_⟩
    change (Value.real (x.scale 1000)).toInt.mapError EncodeError.conversion = _
    rw [Binary64.toInt_real.mpr hk]
    rfl
  | _ => cases h

end ChatLink
