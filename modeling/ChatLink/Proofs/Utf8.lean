import ChatLink.Text.Utf8
import Mathlib.Tactic.IntervalCases

namespace ChatLink.Utf8

theorem toNat_ofNat_of_lt {n : Nat} (h : n < 256) : (UInt8.ofNat n).toNat = n := by
  simp [Nat.mod_eq_of_lt h]

/-- The lead bytes by the bits that they carry. A lead with the least or the greatest bits of its
length narrows the byte that follows it, and so does the one in front of the surrogates. -/
theorem lead?_one {k : Nat} (h : k < 0x80) :
    lead? (UInt8.ofNat k) = some { bits := k, more := 0 } := by
  rw [lead?, toNat_ofNat_of_lt (by omega)]
  simp [h]

theorem lead?_two {k : Nat} (low : 2 ≤ k) (high : k < 32) :
    lead? (UInt8.ofNat (0xC0 + k)) = some { bits := k, more := 1 } := by
  interval_cases k <;> rfl

theorem lead?_three {k : Nat} (high : k < 16) :
    lead? (UInt8.ofNat (0xE0 + k)) =
      some { bits := k, more := 2, low := if k = 0 then 0xA0 else 0x80,
             high := if k = 13 then 0x9F else 0xBF } := by
  interval_cases k <;> rfl

theorem lead?_four {k : Nat} (high : k < 5) :
    lead? (UInt8.ofNat (0xF0 + k)) =
      some { bits := k, more := 3, low := if k = 0 then 0x90 else 0x80,
             high := if k = 4 then 0x8F else 0xBF } := by
  interval_cases k <;> rfl

theorem follow_cons {digit low high : Nat} (bits more : Nat) (rest : Bytes)
    (hd : digit < 64) (hl : low ≤ 0x80 + digit) (hh : 0x80 + digit ≤ high) :
    follow bits (more + 1) low high (UInt8.ofNat (0x80 + digit) :: rest) =
      follow (64 * bits + digit) more 0x80 0xBF rest := by
  rw [follow, toNat_ofNat_of_lt (by omega), if_pos ⟨hl, hh⟩]
  simp

theorem read_cons {b : UInt8} {lead : Lead} {rest more : Bytes} {n : Nat} (hl : lead? b = some lead)
    (hf : follow lead.bits lead.more lead.low lead.high rest = (some n, more)) :
    read (b :: rest) = some (Char.ofNat n) :: read more := by
  rw [read, hl]
  simp [hf]

/-- The leads and the narrowed ranges are those that writing uses because a character lies outside
the surrogates and below U+110000, and is written in as few bytes as possible. -/
theorem read_encodeChar (c : Char) (rest : Bytes) :
    read (encodeChar c ++ rest) = some c :: read rest := by
  have valid : c.toNat < 0xD800 ∨ 0xDFFF < c.toNat ∧ c.toNat < 0x110000 := c.valid
  have whole : Char.ofNat c.toNat = c := c.ofNat_toNat
  rw [encodeChar]
  generalize c.toNat = n at valid whole
  by_cases one : n < 0x80
  · rw [if_pos one, List.cons_append, read_cons (lead?_one one) rfl, whole]
    rfl
  by_cases two : n < 0x800
  · have number : 64 * (n / 64) + n % 64 = n := by omega
    have follows : follow (n / 64) 1 0x80 0xBF (UInt8.ofNat (0x80 + n % 64) :: rest) =
        (some n, rest) := by
      rw [follow_cons _ _ _ (by omega) (by omega) (by omega), number, follow]
    rw [if_neg one, if_pos two, ← whole]
    exact read_cons (lead?_two (by omega) (by omega)) follows
  by_cases three : n < 0x10000
  · have number : 64 * (64 * (n / 4096) + n / 64 % 64) + n % 64 = n := by omega
    have follows : follow (n / 4096) 2 (if n / 4096 = 0 then 0xA0 else 0x80)
        (if n / 4096 = 13 then 0x9F else 0xBF)
        (UInt8.ofNat (0x80 + n / 64 % 64) :: UInt8.ofNat (0x80 + n % 64) :: rest) =
          (some n, rest) := by
      rw [follow_cons _ _ _ (by omega) (by split <;> omega) (by split <;> omega),
        follow_cons _ _ _ (by omega) (by omega) (by omega), number, follow]
    rw [if_neg one, if_neg two, if_pos three, ← whole]
    exact read_cons (lead?_three (by omega)) follows
  · have number :
        64 * (64 * (64 * (n / 262144) + n / 4096 % 64) + n / 64 % 64) + n % 64 = n := by omega
    have follows : follow (n / 262144) 3 (if n / 262144 = 0 then 0x90 else 0x80)
        (if n / 262144 = 4 then 0x8F else 0xBF)
        (UInt8.ofNat (0x80 + n / 4096 % 64) :: UInt8.ofNat (0x80 + n / 64 % 64) ::
          UInt8.ofNat (0x80 + n % 64) :: rest) = (some n, rest) := by
      rw [follow_cons _ _ _ (by omega) (by split <;> omega) (by split <;> omega),
        follow_cons _ _ _ (by omega) (by omega) (by omega),
        follow_cons _ _ _ (by omega) (by omega) (by omega), number, follow]
    rw [if_neg one, if_neg two, if_neg three, ← whole]
    exact read_cons (lead?_four (by omega)) follows

theorem read_flatMap_encodeChar (text : List Char) :
    read (text.flatMap encodeChar) = text.map some := by
  induction text with
  | nil => exact read_nil
  | cons c text ih => rw [List.flatMap_cons, read_encodeChar, ih, List.map_cons]

@[simp] theorem decode_encode (text : String) : decode (encode text) = text := by
  rw [decode, encode, read_flatMap_encodeChar, List.map_map]
  change String.ofList (text.toList.map id) = text
  rw [List.map_id, String.ofList_toList]

@[simp] theorem decode?_encode (text : String) : decode? (encode text) = some text := by
  rw [decode?, encode, read_flatMap_encodeChar]
  have read : ∀ characters : List Char, (characters.map some).mapM id = some characters := by
    intro characters
    induction characters with
    | nil => rfl
    | cons c rest ih => rw [List.map_cons, List.mapM_cons, ih]; rfl
  rw [read, Option.map_some, String.ofList_toList]

theorem map_decode_encode (texts : List String) : (texts.map encode).map decode = texts := by
  rw [List.map_map]
  change texts.map (fun text => decode (encode text)) = texts
  simp only [decode_encode, List.map_id']

theorem zero_not_mem_map_ofNat (numbers : List Nat) (h : ∀ n ∈ numbers, 0 < n ∧ n < 256) :
    0 ∉ numbers.map UInt8.ofNat := by
  intro zero
  obtain ⟨n, hn, hz⟩ := List.mem_map.mp zero
  obtain ⟨low, high⟩ := h n hn
  have : n = 0 := by rw [← toNat_ofNat_of_lt high, hz]; rfl
  exact absurd this (Nat.ne_of_gt low)

theorem zero_mem_encodeChar {c : Char} (h : 0 ∈ encodeChar c) : c = '\x00' := by
  have valid : c.toNat < 0xD800 ∨ 0xDFFF < c.toNat ∧ c.toNat < 0x110000 := c.valid
  rw [encodeChar] at h
  by_cases one : c.toNat < 0x80
  · rw [if_pos one] at h
    by_cases zero : c.toNat = 0
    · rw [← c.ofNat_toNat, zero]
    · exact absurd h (zero_not_mem_map_ofNat [_] (by simp; omega))
  · rw [if_neg one] at h
    split at h
    · exact absurd h (zero_not_mem_map_ofNat [_, _] (by simp; omega))
    · split at h
      · exact absurd h (zero_not_mem_map_ofNat [_, _, _] (by simp; omega))
      · exact absurd h (zero_not_mem_map_ofNat [_, _, _, _] (by simp; omega))

theorem zero_not_mem_encode {text : String} (h : '\x00' ∉ text.toList) : 0 ∉ encode text := by
  intro zero
  obtain ⟨c, hc, hz⟩ := List.mem_flatMap.mp zero
  exact h (zero_mem_encodeChar hz ▸ hc)

theorem zero_mem_encode_iff {text : String} : 0 ∈ encode text ↔ '\x00' ∈ text.toList := by
  constructor
  · exact Function.mtr zero_not_mem_encode
  · exact fun h => List.mem_flatMap.mpr ⟨_, h, List.mem_singleton_self 0⟩

end ChatLink.Utf8
