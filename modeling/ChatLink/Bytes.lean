import ChatLink.Number.Power

namespace ChatLink

abbrev Bytes := List UInt8

/-- The position among `length` items that a signed offset names: a negative offset counts from
the end, and an offset that falls outside is moved to the nearer end. -/
def position (length : Nat) (offset : Int) : Nat :=
  if offset < 0 then (length + offset).toNat else min offset.toNat length

theorem position_le (length : Nat) (offset : Int) : position length offset ≤ length := by
  unfold position
  split <;> omega

@[simp] theorem position_natCast (length offset : Nat) :
    position length offset = min offset length := by
  simp [position, Int.not_lt.mpr (Int.natCast_nonneg offset)]

theorem position_position (length : Nat) (offset : Int) :
    position length (position length offset) = position length offset := by
  rw [position_natCast, Nat.min_eq_left (position_le ..)]

def clamp (length : Nat) : Option Int → Nat
  | none => length
  | some bound => min bound.toNat length

theorem clamp_le (length : Nat) (bound : Option Int) : clamp length bound ≤ length := by
  cases bound with
  | none => exact Nat.le_refl _
  | some bound => exact Nat.min_le_right ..

@[simp] theorem clamp_none (length : Nat) : clamp length none = length := rfl

@[simp] theorem clamp_natCast (length bound : Nat) :
    clamp length (some (bound : Int)) = min bound length := by
  simp [clamp]

namespace Bytes

def slice (bytes : Bytes) (first last : Int) : Bytes :=
  (bytes.take (position bytes.length last)).drop (position bytes.length first)

/-- Puts `new` in the place of a range. A range that ends before it starts is empty, so that
`new` is inserted at its start. -/
def splice (bytes : Bytes) (first last : Int) (new : Bytes) : Bytes :=
  let start := position bytes.length first
  bytes.take start ++ new ++ bytes.drop (max start (position bytes.length last))

theorem splice_natCast (bytes new : Bytes) {first last : Nat}
    (h : first ≤ last) (hl : last ≤ bytes.length) :
    bytes.splice first last new = bytes.take first ++ new ++ bytes.drop last := by
  have : min first bytes.length = first := by omega
  have : min last bytes.length = last := by omega
  have : max first last = last := by omega
  simp [splice, *]

def set? (bytes : Bytes) (index : Int) (b : UInt8) : Option Bytes :=
  let i := if index < 0 then bytes.length + index else index
  if 0 ≤ i ∧ i < bytes.length then some (bytes.set i.toNat b) else none

def toNat (bytes : Bytes) : Nat := bytes.foldl (fun n b => 256 * n + b.toNat) 0

@[simp] theorem toNat_nil : toNat [] = 0 := rfl

theorem toNat_concat (bytes : Bytes) (b : UInt8) :
    toNat (bytes ++ [b]) = 256 * toNat bytes + b.toNat := by
  simp [toNat, List.foldl_append]

def ofNat : (size n : Nat) → Bytes
  | 0, _ => []
  | size + 1, n => ofNat size (n / 256) ++ [UInt8.ofNat n]

@[simp] theorem length_ofNat (size n : Nat) : (ofNat size n).length = size := by
  induction size generalizing n with
  | zero => rfl
  | succ size ih => simp [ofNat, ih]

theorem toNat_ofNat (size n : Nat) : toNat (ofNat size n) = n % 256 ^ size := by
  induction size generalizing n with
  | zero => simp [ofNat, Nat.mod_one]
  | succ size ih =>
    rw [ofNat, toNat_concat, ih, Nat.pow_succ', Nat.mod_mul]
    simp
    omega

theorem toNat_ofNat_of_lt {size n : Nat} (h : n < 256 ^ size) : toNat (ofNat size n) = n := by
  rw [toNat_ofNat, Nat.mod_eq_of_lt h]

end Bytes

end ChatLink
