import ChatLink.Bytes

/-!
UTF-8. Reading never fails as a whole: what is ill-formed is cut into maximal subparts, each
the longest run of bytes that begins some character, and each is read as no character.
-/

namespace ChatLink.Utf8

def encodeChar (c : Char) : Bytes :=
  let n := c.toNat
  if n < 0x80 then [UInt8.ofNat n]
  else if n < 0x800 then [UInt8.ofNat (0xC0 + n / 64), UInt8.ofNat (0x80 + n % 64)]
  else if n < 0x10000 then
    [UInt8.ofNat (0xE0 + n / 4096), UInt8.ofNat (0x80 + n / 64 % 64), UInt8.ofNat (0x80 + n % 64)]
  else
    [UInt8.ofNat (0xF0 + n / 262144), UInt8.ofNat (0x80 + n / 4096 % 64),
      UInt8.ofNat (0x80 + n / 64 % 64), UInt8.ofNat (0x80 + n % 64)]

def encode (text : String) : Bytes := text.toList.flatMap encodeChar

structure Lead where
  bits : Nat
  more : Nat
  low : Nat := 0x80
  high : Nat := 0xBF

/-- The narrowed ranges leave out overlong forms, surrogates, and what lies above U+10FFFF. -/
def lead? (b : UInt8) : Option Lead :=
  let n := b.toNat
  if n < 0x80 then some { bits := n, more := 0 }
  else if n < 0xC2 then none
  else if n < 0xE0 then some { bits := n - 0xC0, more := 1 }
  else if n = 0xE0 then some { bits := 0, more := 2, low := 0xA0 }
  else if n = 0xED then some { bits := 0xD, more := 2, high := 0x9F }
  else if n < 0xF0 then some { bits := n - 0xE0, more := 2 }
  else if n = 0xF0 then some { bits := 0, more := 3, low := 0x90 }
  else if n < 0xF4 then some { bits := n - 0xF0, more := 3 }
  else if n = 0xF4 then some { bits := 4, more := 3, high := 0x8F }
  else none

def follow (bits : Nat) : (more low high : Nat) → Bytes → Option Nat × Bytes
  | 0, _, _, bytes => (some bits, bytes)
  | _ + 1, _, _, [] => (none, [])
  | more + 1, low, high, b :: bytes =>
    if low ≤ b.toNat ∧ b.toNat ≤ high then
      follow (64 * bits + (b.toNat - 0x80)) more 0x80 0xBF bytes
    else (none, b :: bytes)

theorem length_follow_le (bits more low high : Nat) (bytes : Bytes) :
    (follow bits more low high bytes).2.length ≤ bytes.length := by
  induction more generalizing bits low high bytes with
  | zero => simp [follow]
  | succ more ih =>
    cases bytes with
    | nil => simp [follow]
    | cons b bytes =>
      simp only [follow]
      split
      · exact Nat.le_succ_of_le (ih ..)
      · exact Nat.le_refl _

/-- The characters in order, with `none` for each maximal ill-formed subpart. -/
def read : Bytes → List (Option Char)
  | [] => []
  | b :: bytes =>
    match lead? b with
    | none => none :: read bytes
    | some lead =>
      let next := follow lead.bits lead.more lead.low lead.high bytes
      next.1.map Char.ofNat :: read next.2
termination_by bytes => bytes.length
decreasing_by
  · exact Nat.lt_succ_self _
  · exact Nat.lt_succ_of_le (length_follow_le ..)

def decode (bytes : Bytes) : String := .ofList ((read bytes).map (·.getD '\uFFFD'))

def decode? (bytes : Bytes) : Option String := ((read bytes).mapM id).map .ofList

@[simp] theorem encode_empty : encode "" = [] := rfl

@[simp] theorem read_nil : read [] = [] := by simp [read]

@[simp] theorem decode_nil : decode [] = "" := by simp [decode]

end ChatLink.Utf8
