import ChatLink.Proofs.Utf8
import Mathlib.Data.List.Basic

/-!
Well-formed UTF-8. What is read as a character is the form in which that character is written, so
that writing undoes reading on well-formed bytes and on no others, and no character zero is read
where there is no zero byte.
-/

namespace ChatLink.Utf8

def IsTail (b : UInt8) : Prop := 0x80 ≤ b.toNat ∧ b.toNat ≤ 0xBF

/-- The bytes of one character. Four pairs of first bytes and second bytes are left out: overlong
forms of three and of four bytes, surrogates, and what lies above U+10FFFF. -/
inductive Form : Bytes → Prop
  | one {a : UInt8} (ha : a.toNat ≤ 0x7F) : Form [a]
  | two {a b : UInt8} (low : 0xC2 ≤ a.toNat) (high : a.toNat ≤ 0xDF) (hb : IsTail b) : Form [a, b]
  | three {a b c : UInt8} (low : 0xE0 ≤ a.toNat) (high : a.toNat ≤ 0xEF) (hb : IsTail b)
      (hc : IsTail c) (least : a.toNat = 0xE0 → 0xA0 ≤ b.toNat)
      (most : a.toNat = 0xED → b.toNat ≤ 0x9F) : Form [a, b, c]
  | four {a b c d : UInt8} (low : 0xF0 ≤ a.toNat) (high : a.toNat ≤ 0xF4) (hb : IsTail b)
      (hc : IsTail c) (hd : IsTail d) (least : a.toNat = 0xF0 → 0x90 ≤ b.toNat)
      (most : a.toNat = 0xF4 → b.toNat ≤ 0x8F) : Form [a, b, c, d]

inductive WellFormed : Bytes → Prop
  | nil : WellFormed []
  | append {form rest : Bytes} : Form form → WellFormed rest → WellFormed (form ++ rest)

theorem form_encodeChar (c : Char) : Form (encodeChar c) := by
  have valid : c.toNat < 0xD800 ∨ 0xDFFF < c.toNat ∧ c.toNat < 0x110000 := c.valid
  rw [encodeChar]
  generalize c.toNat = n at valid
  have tail (k : Nat) : IsTail (UInt8.ofNat (0x80 + k % 64)) := by
    rw [IsTail, toNat_ofNat_of_lt (by omega)]
    omega
  by_cases one : n < 0x80
  · have lead := toNat_ofNat_of_lt (n := n) (by omega)
    rw [if_pos one]
    exact .one (by omega)
  by_cases two : n < 0x800
  · have lead := toNat_ofNat_of_lt (n := 0xC0 + n / 64) (by omega)
    rw [if_neg one, if_pos two]
    exact .two (by omega) (by omega) (tail _)
  by_cases three : n < 0x10000
  · have lead := toNat_ofNat_of_lt (n := 0xE0 + n / 4096) (by omega)
    have next := toNat_ofNat_of_lt (n := 0x80 + n / 64 % 64) (by omega)
    rw [if_neg one, if_neg two, if_pos three]
    exact .three (by omega) (by omega) (tail _) (tail _) (by omega) (by omega)
  · have lead := toNat_ofNat_of_lt (n := 0xF0 + n / 262144) (by omega)
    have next := toNat_ofNat_of_lt (n := 0x80 + n / 4096 % 64) (by omega)
    rw [if_neg one, if_neg two, if_neg three]
    exact .four (by omega) (by omega) (tail _) (tail _) (tail _) (by omega) (by omega)

theorem wellFormed_encode (text : String) : WellFormed (encode text) := by
  rw [encode]
  induction text.toList with
  | nil => exact .nil
  | cons c text ih => exact .append (form_encodeChar c) ih

theorem ofNat_eq {n : Nat} {b : UInt8} (h : n = b.toNat) : UInt8.ofNat n = b := by
  rw [h, UInt8.ofNat_toNat]

theorem toNat_charOfNat {n : Nat} (h : n < 0xD800 ∨ 0xDFFF < n ∧ n < 0x110000) :
    (Char.ofNat n).toNat = n := by
  have valid : n.isValidChar := h
  calc
    (Char.ofNat n).toNat = (Char.ofNatAux n valid).toNat := congrArg Char.toNat (dif_pos valid)
    _ = n := rfl

theorem Form.exists_encodeChar {form : Bytes} (h : Form form) : ∃ c, encodeChar c = form := by
  cases h with
  | @one a ha =>
    refine ⟨Char.ofNat a.toNat, ?_⟩
    rw [encodeChar, toNat_charOfNat (by omega), if_pos (by omega), ofNat_eq rfl]
  | @two a b low high hb =>
    obtain ⟨hb, hb'⟩ := hb
    refine ⟨Char.ofNat (64 * (a.toNat - 0xC0) + (b.toNat - 0x80)), ?_⟩
    rw [encodeChar, toNat_charOfNat (by omega), if_neg (by omega), if_pos (by omega)]
    rw [ofNat_eq (b := a) (by omega), ofNat_eq (b := b) (by omega)]
  | @three a b c low high hb hc least most =>
    obtain ⟨hb, hb'⟩ := hb
    obtain ⟨hc, hc'⟩ := hc
    refine ⟨Char.ofNat (4096 * (a.toNat - 0xE0) + 64 * (b.toNat - 0x80) + (c.toNat - 0x80)), ?_⟩
    rw [encodeChar, toNat_charOfNat (by omega), if_neg (by omega), if_neg (by omega),
      if_pos (by omega)]
    rw [ofNat_eq (b := a) (by omega), ofNat_eq (b := b) (by omega), ofNat_eq (b := c) (by omega)]
  | @four a b c d low high hb hc hd least most =>
    obtain ⟨hb, hb'⟩ := hb
    obtain ⟨hc, hc'⟩ := hc
    obtain ⟨hd, hd'⟩ := hd
    refine ⟨Char.ofNat (262144 * (a.toNat - 0xF0) + 4096 * (b.toNat - 0x80) +
      64 * (c.toNat - 0x80) + (d.toNat - 0x80)), ?_⟩
    rw [encodeChar, toNat_charOfNat (by omega), if_neg (by omega), if_neg (by omega),
      if_neg (by omega)]
    rw [ofNat_eq (b := a) (by omega), ofNat_eq (b := b) (by omega), ofNat_eq (b := c) (by omega),
      ofNat_eq (b := d) (by omega)]

/-- What the first byte of a form tells: how many tails there are, and the range of the first of
them. -/
inductive Announces (b : UInt8) : Lead → Prop
  | one {lead : Lead} (more : lead.more = 0) (high : b.toNat ≤ 0x7F) : Announces b lead
  | two {lead : Lead} (more : lead.more = 1) (low : 0xC2 ≤ b.toNat) (high : b.toNat ≤ 0xDF)
      (tail : 0x80 ≤ lead.low ∧ lead.high ≤ 0xBF) : Announces b lead
  | three {lead : Lead} (more : lead.more = 2) (low : 0xE0 ≤ b.toNat) (high : b.toNat ≤ 0xEF)
      (tail : 0x80 ≤ lead.low ∧ lead.high ≤ 0xBF) (least : b.toNat = 0xE0 → 0xA0 ≤ lead.low)
      (most : b.toNat = 0xED → lead.high ≤ 0x9F) : Announces b lead
  | four {lead : Lead} (more : lead.more = 3) (low : 0xF0 ≤ b.toNat) (high : b.toNat ≤ 0xF4)
      (tail : 0x80 ≤ lead.low ∧ lead.high ≤ 0xBF) (least : b.toNat = 0xF0 → 0x90 ≤ lead.low)
      (most : b.toNat = 0xF4 → lead.high ≤ 0x8F) : Announces b lead

theorem announces_of_lead? {b : UInt8} {lead : Lead} (h : lead? b = some lead) :
    Announces b lead := by
  simp only [lead?] at h
  repeat' split at h
  all_goals simp only [Option.some.injEq, reduceCtorEq] at h
  all_goals subst h
  · exact .one rfl (by omega)
  · exact .two rfl (by omega) (by omega) (by simp)
  · exact .three rfl (by omega) (by omega) (by simp) (by simp) (by omega)
  · exact .three rfl (by omega) (by omega) (by simp) (by omega) (by simp)
  · exact .three rfl (by omega) (by omega) (by simp) (by omega) (by omega)
  · exact .four rfl (by omega) (by omega) (by simp) (by simp) (by omega)
  · exact .four rfl (by omega) (by omega) (by simp) (by omega) (by omega)
  · exact .four rfl (by omega) (by omega) (by simp) (by omega) (by simp)

theorem follow_some {bits more low high n : Nat} {bytes left : Bytes}
    (h : follow bits (more + 1) low high bytes = (some n, left)) :
    ∃ b tails, bytes = b :: (tails ++ left) ∧ low ≤ b.toNat ∧ b.toNat ≤ high ∧
      tails.length = more ∧ ∀ tail ∈ tails, IsTail tail := by
  induction more generalizing bits low high bytes with
  | zero =>
    cases bytes with
    | nil => simp [follow] at h
    | cons b bytes =>
      simp only [follow] at h
      split at h
      · rename_i inside
        obtain ⟨-, rfl⟩ := Prod.mk.inj h
        exact ⟨b, [], rfl, inside.1, inside.2, rfl, by simp⟩
      · simp at h
  | succ more ih =>
    cases bytes with
    | nil => simp [follow] at h
    | cons b bytes =>
      rw [follow] at h
      split at h
      · rename_i inside
        obtain ⟨tail, tails, rfl, low, high, rfl, ht⟩ := ih h
        exact ⟨b, tail :: tails, rfl, inside.1, inside.2, rfl,
          List.forall_mem_cons.mpr ⟨⟨low, high⟩, ht⟩⟩
      · simp at h

theorem exists_form_of_follow {b : UInt8} {lead : Lead} {bytes left : Bytes} {n : Nat}
    (hl : lead? b = some lead)
    (hf : follow lead.bits lead.more lead.low lead.high bytes = (some n, left)) :
    ∃ form, Form form ∧ b :: bytes = form ++ left := by
  cases announces_of_lead? hl with
  | one more high =>
    rw [more] at hf
    cases hf
    exact ⟨[b], .one high, rfl⟩
  | two more low high tail =>
    rw [more] at hf
    obtain ⟨c, tails, rfl, hc, hc', none, -⟩ := follow_some hf
    rw [List.eq_nil_of_length_eq_zero none]
    exact ⟨[b, c], .two low high ⟨by omega, by omega⟩, rfl⟩
  | three more low high tail least most =>
    rw [more] at hf
    obtain ⟨c, tails, rfl, hc, hc', one, ht⟩ := follow_some hf
    obtain ⟨d, rfl⟩ := List.length_eq_one_iff.mp one
    rw [List.forall_mem_singleton] at ht
    exact ⟨[b, c, d], .three low high ⟨by omega, by omega⟩ ht (by omega) (by omega), rfl⟩
  | four more low high tail least most =>
    rw [more] at hf
    obtain ⟨c, tails, rfl, hc, hc', two, ht⟩ := follow_some hf
    obtain ⟨d, e, rfl⟩ := List.length_eq_two.mp two
    rw [List.forall_mem_cons, List.forall_mem_singleton] at ht
    exact ⟨[b, c, d, e],
      .four low high ⟨by omega, by omega⟩ ht.1 ht.2 (by omega) (by omega), rfl⟩

theorem eq_encodeChar_append {b : UInt8} {lead : Lead} {bytes left : Bytes} {n : Nat}
    (hl : lead? b = some lead)
    (hf : follow lead.bits lead.more lead.low lead.high bytes = (some n, left)) :
    b :: bytes = encodeChar (Char.ofNat n) ++ left := by
  obtain ⟨form, valid, split⟩ := exists_form_of_follow hl hf
  obtain ⟨c, rfl⟩ := valid.exists_encodeChar
  have read : some (Char.ofNat n) :: read left = some c :: read left := by
    rw [← read_cons hl hf, split, read_encodeChar]
  rw [split, Option.some.inj (List.cons.inj read).1]

theorem follow_suffix (bits more low high : Nat) (bytes : Bytes) :
    (follow bits more low high bytes).2 <:+ bytes := by
  induction more generalizing bits low high bytes with
  | zero => exact List.suffix_rfl
  | succ more ih =>
    cases bytes with
    | nil => exact List.suffix_rfl
    | cons b bytes =>
      simp only [follow]
      split
      · exact (ih ..).trans (List.suffix_cons b bytes)
      · exact List.suffix_rfl

theorem encodeChar_subset_of_mem_read {c : Char} {bytes : Bytes} (h : some c ∈ read bytes) :
    encodeChar c ⊆ bytes := by
  induction bytes using read.induct with
  | case1 => simp at h
  | case2 b bytes ill ih =>
    simp only [read, ill, List.mem_cons, reduceCtorEq, false_or] at h
    exact List.subset_cons_of_subset b (ih h)
  | case3 b bytes lead hl next ih =>
    simp only [read, hl, List.mem_cons] at h
    rcases h with first | later
    · obtain ⟨n, hn, rfl⟩ := Option.map_eq_some_iff.mp first.symm
      rw [eq_encodeChar_append hl (Prod.ext hn rfl)]
      exact List.subset_append_left ..
    · exact List.subset_cons_of_subset b
        (List.Subset.trans (ih later) (follow_suffix ..).subset)

theorem zero_not_mem_decode {bytes : Bytes} (h : 0 ∉ bytes) : '\x00' ∉ (decode bytes).toList := by
  rw [decode, String.toList_ofList]
  intro zero
  obtain ⟨c, mem, hc⟩ := List.mem_map.mp zero
  cases c with
  | none => exact absurd hc (by decide)
  | some c =>
    obtain rfl : c = '\x00' := hc
    exact h (encodeChar_subset_of_mem_read mem (by decide))

theorem decode_encodeChar_append (c : Char) (bytes : Bytes) :
    decode (encodeChar c ++ bytes) = .ofList (c :: (decode bytes).toList) := by
  rw [decode, read_encodeChar, decode, String.toList_ofList]
  rfl

theorem encode_ofList_cons (c : Char) (text : List Char) :
    encode (.ofList (c :: text)) = encodeChar c ++ encode (.ofList text) := by
  rw [encode, encode, String.toList_ofList, String.toList_ofList, List.flatMap_cons]

theorem WellFormed.encode_decode {bytes : Bytes} (h : WellFormed bytes) :
    encode (decode bytes) = bytes := by
  induction h with
  | nil => rw [decode_nil, encode_empty]
  | append form _ ih =>
    obtain ⟨c, rfl⟩ := form.exists_encodeChar
    rw [decode_encodeChar_append, encode_ofList_cons, String.ofList_toList, ih]

end ChatLink.Utf8
