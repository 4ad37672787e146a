import ChatLink.Number.Power

/-!
Binary floating point with 53 significant bits, as exact numbers. Rounding is to the nearest
representable number, and from halfway to the one with the even mantissa.
-/

namespace ChatLink

/-- One form for each number: the mantissa fills its 53 bits unless the exponent is least. -/
def Canonical (mantissa : Nat) (exponent : Int) : Prop :=
  mantissa < 2 ^ 53 ∧ -1074 ≤ exponent ∧ exponent ≤ 971 ∧ (2 ^ 52 ≤ mantissa ∨ exponent = -1074)

instance (mantissa : Nat) (exponent : Int) : Decidable (Canonical mantissa exponent) := by
  unfold Canonical
  infer_instance

/-- A finite number is `mantissa * 2 ^ exponent`, with a sign that zero has too. -/
inductive Binary64
  | nan
  | infinite (negative : Bool)
  | finite (negative : Bool) (mantissa : Nat) (exponent : Int) (canonical : Canonical mantissa exponent)
  deriving DecidableEq

namespace Binary64

def zero (negative : Bool) : Binary64 := .finite negative 0 (-1074) (by decide)

def roundDiv (num den : Nat) : Nat :=
  let quotient := num / den
  let twice := 2 * (num % den)
  if twice < den ∨ (twice = den ∧ quotient % 2 = 0) then quotient else quotient + 1

def lastBit (bits num den : Nat) : Int :=
  let e : Int := num.log2 - den.log2 - bits
  if num * 2 ^ (-e).toNat < 2 ^ bits * den * 2 ^ e.toNat then e else e + 1

def ofParts (negative : Bool) (mantissa : Nat) (exponent : Int) : Binary64 :=
  if mantissa = 0 then zero negative
  else if h : Canonical mantissa exponent then .finite negative mantissa exponent h
  else .infinite negative

def ofRounded (negative : Bool) (mantissa : Nat) (exponent : Int) : Binary64 :=
  if mantissa = 2 ^ 53 then ofParts negative (2 ^ 52) (exponent + 1)
  else ofParts negative mantissa exponent

def ofRatio (negative : Bool) (num den : Nat) : Binary64 :=
  let e := max (lastBit 53 num den) (-1074)
  ofRounded negative (roundDiv (num * 2 ^ (-e).toNat) (den * 2 ^ e.toNat)) e

/-- The number nearest to `digits * 10 ^ exponent`. Exponents far outside the range of the format
are told apart first, since the power of ten need not fit in memory. -/
def ofDecimal (negative : Bool) (digits : Nat) (exponent : Int) : Binary64 :=
  if digits = 0 then zero negative
  else if exponent > 400 then .infinite negative
  else if exponent + digits.log2 / 3 + 1 < -400 then zero negative
  else ofRatio negative (digits * 10 ^ exponent.toNat) (10 ^ (-exponent).toNat)

def isZero : Binary64 → Bool
  | .finite _ mantissa .. => mantissa == 0
  | _ => false

def truncate? : Binary64 → Option Int
  | .finite negative mantissa exponent _ =>
    let n := mantissa * 2 ^ exponent.toNat / 2 ^ (-exponent).toNat
    some (if negative then -(n : Int) else n)
  | _ => none

def scale (factor : Nat) : Binary64 → Binary64
  | .finite negative mantissa exponent _ =>
    ofRatio negative (mantissa * factor * 2 ^ exponent.toNat) (2 ^ (-exponent).toNat)
  | x => x

def equal : Binary64 → Binary64 → Bool
  | .infinite a, .infinite b => a == b
  | .finite a m e _, .finite b n f _ => m == n && e == f && (a == b || m == 0)
  | _, _ => false

def equalInt (n : Int) : Binary64 → Bool
  | .finite negative mantissa exponent _ =>
    let signed : Int := if negative then -(mantissa : Int) else mantissa
    signed * 2 ^ exponent.toNat == n * 2 ^ (-exponent).toNat
  | _ => false

end Binary64

end ChatLink
