import ChatLink.Frame.Basic
import ChatLink.Frame.Writing
import ChatLink.Proofs.Utf8

namespace ChatLink

@[simp] theorem ok_bind {ε α β : Type} (a : α) (f : α → Except ε β) :
    ((.ok a : Except ε α) >>= f) = f a := rfl

namespace Frame

def body (parts : List Bytes) : Bytes := parts.flatMap (· ++ [0])

def layout (code : UInt8) (time : Nat) (parts : List Bytes) : Bytes :=
  Bytes.ofNat lengthSize (sizeOf parts) ++ Bytes.ofNat timeSize time ++ code :: body parts

theorem sizeOf_eq (parts : List Bytes) : sizeOf parts = headerSize + (body parts).length := by
  induction parts with
  | nil => rfl
  | cons part rest ih =>
    change part.length + 1 + sizeOf rest = headerSize + ((part ++ [0]) ++ body rest).length
    rw [ih, List.length_append, List.length_append, List.length_singleton, Nat.add_left_comm]

theorem length_numbers (size time : Nat) :
    (Bytes.ofNat lengthSize size ++ Bytes.ofNat timeSize time).length = codeOffset := by
  rw [List.length_append, Bytes.length_ofNat, Bytes.length_ofNat]
  rfl

@[simp] theorem length_layout (code : UInt8) (time : Nat) (parts : List Bytes) :
    (layout code time parts).length = sizeOf parts := by
  rw [sizeOf_eq, layout, List.length_append, List.length_append, List.length_cons,
    Bytes.length_ofNat, Bytes.length_ofNat]
  simp only [lengthSize, timeSize, headerSize]
  omega

theorem fieldBytes_bytes {part : Bytes} (h : 0 ∉ part) : fieldBytes (.bytes part) = .ok part := by
  simp [fieldBytes, isZeroes, Except.mapError, h]
  rfl

theorem fieldBytes_text {text : String} (h : '\x00' ∉ text.toList) :
    fieldBytes (.text text) = .ok (Utf8.encode text) := by
  simp [fieldBytes, isZeroes, Except.mapError, Utf8.zero_not_mem_encode h]
  rfl

theorem splice_append (front old rest new : Bytes) :
    (front ++ (old ++ rest)).splice front.length (front.length + old.length) new =
      front ++ (new ++ rest) := by
  have last : front.length + old.length ≤ (front ++ (old ++ rest)).length := by
    rw [List.length_append, List.length_append]
    omega
  rw [← Int.natCast_add, Bytes.splice_natCast _ _ (Nat.le_add_right ..) last, List.take_left,
    ← List.append_assoc front old, ← List.length_append, List.drop_left, List.append_assoc]

theorem set?_append (front rest : Bytes) (old new : UInt8) :
    (front ++ old :: rest).set? front.length new = some (front ++ new :: rest) := by
  have inside : (0 : Int) ≤ front.length ∧
      (front.length : Int) < ((front ++ old :: rest).length : Nat) := by
    rw [List.length_append, List.length_cons]
    omega
  rw [Bytes.set?, if_neg (Int.not_lt.mpr inside.1)]
  simp only [if_pos inside, Int.toNat_natCast]
  rw [List.set_append_right _ _ (Nat.le_refl _), Nat.sub_self, List.set_cons_zero]

theorem writeNumber_append {size n : Nat} {value : Value} (front old rest : Bytes)
    (room : old.length = size) (hv : value.toInt = .ok (n : Int)) (hn : n < 256 ^ size) :
    writeNumber size (front ++ (old ++ rest)) front.length value =
      .ok (front ++ (Bytes.ofNat size n ++ rest), front.length + size) := by
  have fits : ¬((n : Int) < 0 ∨ 256 ^ size ≤ (n : Int)) := by
    rw [not_or, Int.not_lt, Int.not_le]
    exact ⟨Int.natCast_nonneg n, by exact_mod_cast hn⟩
  have written := splice_append front old rest (Bytes.ofNat size n)
  rw [room] at written
  rw [writeNumber, hv]
  simp only [Except.mapError, ok_bind, if_neg fits, Int.toNat_natCast, written]
  rfl

theorem writeText_append {part old : Bytes} (front rest : Bytes) (last : UInt8) (h : 0 ∉ part)
    (room : old.length = part.length) :
    writeText (front ++ (old ++ last :: rest)) front.length (.bytes part) =
      .ok (front ++ (part ++ 0 :: rest), front.length + part.length + 1) := by
  have fits : ¬(((front ++ (old ++ last :: rest)).length : Nat) : Int) <
      front.length + part.length + 1 := by
    rw [List.length_append, List.length_append, List.length_cons]
    omega
  have written := splice_append front old (last :: rest) part
  have ended := set?_append (front ++ part) rest last 0
  rw [List.length_append, Int.natCast_add, List.append_assoc, List.append_assoc] at ended
  rw [room] at written
  rw [writeText, fieldBytes_bytes h]
  simp only [ok_bind, if_neg fits, written, ended]
  rfl

theorem writeTexts_append (front : Bytes) {parts : List Bytes} (h : ∀ part ∈ parts, 0 ∉ part) :
    writeTexts (front ++ List.replicate (body parts).length 0) front.length parts =
      .ok (front ++ body parts) := by
  induction parts generalizing front with
  | nil =>
    change Except.ok (front ++ []) = Except.ok (front ++ [])
    rfl
  | cons part parts ih =>
    rw [List.forall_mem_cons] at h
    have split : body (part :: parts) = part ++ 0 :: body parts := by
      change part ++ [0] ++ body parts = _
      rw [List.append_assoc, List.singleton_append]
    have blank : List.replicate (body (part :: parts)).length (0 : UInt8) =
        List.replicate part.length 0 ++ 0 :: List.replicate (body parts).length 0 := by
      rw [split, List.length_append, List.length_cons, ← List.replicate_append_replicate,
        List.replicate_succ]
    have later := ih (front ++ (part ++ [0])) h.2
    rw [List.append_assoc, List.append_assoc, List.singleton_append, List.append_assoc,
      List.append_assoc, List.singleton_append] at later
    rw [writeTexts, blank, writeText_append front _ 0 h.1 (List.length_replicate ..), ok_bind,
      split, ← later]
    simp only [List.length_append, List.length_singleton, Int.natCast_add]
    rfl

/-- The buffer has room for all that is written, so that only a field, the time or the size can be
at fault. -/
theorem build_eq {code : UInt8} {time : Value} {n : Nat} {parts : List Bytes}
    (h : ∀ part ∈ parts, 0 ∉ part) (ht : time.toInt = .ok (n : Int)) (hn : n < 2 ^ 48)
    (hsize : sizeOf parts < 2 ^ 32) : build code time parts = .ok (layout code n parts) := by
  have blank : List.replicate (sizeOf parts) (0 : UInt8) =
      List.replicate lengthSize 0 ++ (List.replicate timeSize 0 ++
        (0 :: List.replicate (body parts).length 0)) := by
    rw [← List.replicate_succ, List.replicate_append_replicate, List.replicate_append_replicate,
      sizeOf_eq]
    congr 1
    simp only [headerSize, timeSize, lengthSize]
    omega
  have first := writeNumber_append [] (List.replicate lengthSize 0)
    (List.replicate timeSize 0 ++ (0 :: List.replicate (body parts).length 0))
    List.length_replicate (Value.toInt_int (sizeOf parts)) hsize
  have second := writeNumber_append (Bytes.ofNat lengthSize (sizeOf parts))
    (List.replicate timeSize 0) (0 :: List.replicate (body parts).length 0)
    List.length_replicate ht hn
  have header := length_numbers (sizeOf parts) n
  have marked : (Bytes.ofNat lengthSize (sizeOf parts) ++ (Bytes.ofNat timeSize n ++
      0 :: List.replicate (body parts).length 0)).set codeOffset code =
        Bytes.ofNat lengthSize (sizeOf parts) ++ Bytes.ofNat timeSize n ++ [code] ++
          List.replicate (body parts).length 0 := by
    rw [← List.append_assoc, ← header, List.set_append_right _ _ (Nat.le_refl _), Nat.sub_self,
      List.set_cons_zero, List.append_assoc _ [code], List.singleton_append]
  have third := writeTexts_append
    (Bytes.ofNat lengthSize (sizeOf parts) ++ Bytes.ofNat timeSize n ++ [code]) h
  rw [List.length_append, header] at third
  rw [List.nil_append, List.nil_append, ← blank, List.length_nil, Int.natCast_zero, Int.zero_add]
    at first
  rw [Bytes.length_ofNat] at second
  simp only [build, first, ok_bind, second, marked, layout]
  rw [List.append_assoc _ [code], List.singleton_append] at third
  exact third

theorem slice_of_length_le {bytes : Bytes} {last : Int} (h : (bytes.length : Int) ≤ last) :
    bytes.slice 0 last = bytes := by
  have whole : position bytes.length last = bytes.length := by
    rw [position, if_neg (by omega)]
    omega
  rw [Bytes.slice, whole, List.take_length]
  rfl

theorem slice_append (front part rest : Bytes) :
    (front ++ (part ++ rest)).slice front.length (front.length + part.length) = part := by
  have last : front.length + part.length ≤ (front ++ (part ++ rest)).length := by
    rw [List.length_append, List.length_append]
    omega
  rw [Bytes.slice, ← Int.natCast_add, position_natCast, position_natCast, Nat.min_eq_left last,
    Nat.min_eq_left (Nat.le_of_add_right_le last), ← List.append_assoc front part,
    ← List.length_append, List.take_left, List.drop_left]

theorem readNumber_append {size : Nat} (bound : Nat) (front part rest : Bytes)
    (hsize : part.length = size) (inside : front.length + size ≤ bound)
    (within : bound ≤ (front ++ (part ++ rest)).length) :
    readNumber size (front ++ (part ++ rest)) front.length (some bound) = part.toNat := by
  have enough : ¬((bound : Nat) : Int) < front.length + size := by omega
  have part := slice_append front part rest
  rw [hsize] at part
  rw [readNumber, clamp_natCast, Nat.min_eq_left within, if_neg enough, part]

end Frame

end ChatLink
