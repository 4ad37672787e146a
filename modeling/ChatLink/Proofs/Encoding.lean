import ChatLink.Proofs.Written

namespace ChatLink

/-- Whether an error is about a value that was to be written. The others are about the buffer. -/
def EncodeError.blamesValue : EncodeError → Bool
  | .conversion _ => true
  | .containsNul _ => true
  | .outOfRange .. => true
  | .bufferTooSmall .. => false
  | .noPlace => false

theorem Value.eq_replicate_of_blankBytes {n : Int} {part : Bytes} (h : blankBytes n = .ok part) :
    part = List.replicate n.toNat 0 := by
  unfold blankBytes at h
  split at h
  · cases h
  split at h
  · cases h
  split at h
  · cases h
  split at h
  · cases h
  · exact (Except.ok.inj h).symm

namespace Frame

theorem zero_mem_of_isZeroes {value : Value} {part : Bytes} (zeroes : isZeroes value)
    (h : value.toBytes = .ok part) : 0 ∈ part := by
  obtain ⟨n, positive, blank⟩ : ∃ n : Int, 0 < n ∧ Value.blankBytes n = .ok part := by
    cases value with
    | bool b =>
      cases b with
      | false => cases zeroes
      | true => exact ⟨1, Int.one_pos, h⟩
    | int n =>
      rw [isZeroes, Bool.and_eq_true, decide_eq_true_eq] at zeroes
      exact ⟨n, zeroes.1, h⟩
    | _ => cases zeroes
  rw [Value.eq_replicate_of_blankBytes blank, List.mem_replicate]
  exact ⟨by omega, rfl⟩

/-- A whole number stands for that many zero bytes, and is refused before they are made. That makes
no difference to what can be written. -/
theorem writes_iff {value : Value} {part : Bytes} :
    Writes value part ↔ value.toBytes = .ok part ∧ 0 ∉ part := by
  constructor
  · intro h
    refine ⟨?_, h.zero_not_mem⟩
    rw [Writes, fieldBytes] at h
    split at h
    · cases h
    obtain ⟨bytes, converted, h⟩ := exists_of_bind_eq_ok h
    split at h
    · cases h
    · cases h
      exact eq_ok_of_mapError converted
  · rintro ⟨converted, free⟩
    have other : isZeroes value = false := by
      rw [← Bool.not_eq_true]
      exact fun zeroes => free (zero_mem_of_isZeroes zeroes converted)
    rw [Writes, fieldBytes, other, converted]
    simp only [Bool.false_eq_true, if_false, Except.mapError, ok_bind, List.contains_eq_mem, free,
      decide_false]
    rfl

theorem blamesValue_of_fieldBytes {value : Value} {error : EncodeError}
    (h : fieldBytes value = .error error) : error.blamesValue := by
  rw [fieldBytes] at h
  split at h
  · cases h
    rfl
  obtain failed | ⟨bytes, -, h⟩ := error_of_bind_eq_error h
  · obtain ⟨cause, -, rfl⟩ := error_of_mapError failed
    rfl
  · split at h
    · cases h
      rfl
    · cases h

theorem mapM_of_writes {values : List Value} {parts : List Bytes}
    (h : List.Forall₂ Writes values parts) : values.mapM fieldBytes = .ok parts := by
  induction h with
  | nil => rfl
  | cons first later ih =>
    rw [List.mapM_cons, first, ok_bind, ih]
    rfl

theorem blamesValue_of_mapM {values : List Value} {error : EncodeError}
    (h : values.mapM fieldBytes = .error error) : error.blamesValue := by
  induction values with
  | nil => cases h
  | cons value values ih =>
    rw [List.mapM_cons] at h
    obtain first | ⟨part, -, h⟩ := error_of_bind_eq_error h
    · exact blamesValue_of_fieldBytes first
    · obtain later | ⟨parts, -, h⟩ := error_of_bind_eq_error h
      · exact ih later
      · cases h

theorem blamesValue_of_writeNumber {size : Nat} {buffer : Bytes} {start : Int} {value : Value}
    {error : EncodeError} (h : writeNumber size buffer start value = .error error) :
    error.blamesValue := by
  rw [writeNumber] at h
  obtain failed | ⟨n, -, h⟩ := error_of_bind_eq_error h
  · obtain ⟨cause, -, rfl⟩ := error_of_mapError failed
    rfl
  · split at h
    · cases h
      rfl
    · cases h

theorem blamesValue_of_build {code : UInt8} {time : Value} {parts : List Bytes}
    {error : EncodeError} (free : ∀ part ∈ parts, 0 ∉ part)
    (h : build code time parts = .error error) : error.blamesValue := by
  have failed := h
  rw [build] at h
  obtain size | ⟨⟨buffer, next⟩, size, h⟩ := error_of_bind_eq_error h
  · exact blamesValue_of_writeNumber size
  obtain seconds | ⟨_, seconds, -⟩ := error_of_bind_eq_error h
  · exact blamesValue_of_writeNumber seconds
  obtain ⟨s, hs, small⟩ := toInt_of_writeNumber size
  obtain ⟨n, hn, most⟩ := toInt_of_writeNumber seconds
  obtain rfl : sizeOf parts = s := Int.ofNat.inj (Except.ok.inj hs)
  rw [build_eq free hn most small] at failed
  cases failed

theorem sizeOf_eq_sum (parts : List Bytes) :
    sizeOf parts = headerSize + (parts.map (·.length + 1)).sum := by
  induction parts with
  | nil => rfl
  | cons part rest ih =>
    change part.length + 1 + sizeOf rest = _
    rw [ih, List.map_cons, List.sum_cons, Nat.add_left_comm]

structure Fitting (time : Value) (values : List Value) (parts : List Bytes) (n : Nat) : Prop where
  fields : List.Forall₂ (fun value part => value.toBytes = .ok part ∧ 0 ∉ part) values parts
  time : time.toInt = .ok (n : Int)
  timeFits : n < 2 ^ 48
  sizeFits : headerSize + (parts.map (·.length + 1)).sum < 2 ^ 32

/-- A frame that is filled with `parts`, and has room for nothing else. -/
structure Filled (code : UInt8) (n : Nat) (parts : List Bytes) (frame : Bytes) : Prop where
  length : frame.length = headerSize + (parts.map (·.length + 1)).sum
  declared : Bytes.toNat (frame.take lengthSize) = frame.length
  time : Bytes.toNat ((frame.drop lengthSize).take timeSize) = n
  code : frame[codeOffset]? = some code
  body : frame.drop headerSize = parts.flatMap (· ++ [0])

section Encode

variable {code : UInt8} {time : Value} {values : List Value} {parts : List Bytes} {n : Nat}
  {frame : Bytes}

theorem Fitting.writes (h : Fitting time values parts n) : List.Forall₂ Writes values parts :=
  h.fields.imp fun _ _ => writes_iff.mpr

theorem filled_layout (code : UInt8) (h : Fitting time values parts n) :
    Filled code n parts (layout code n parts) := by
  have small : sizeOf parts < 256 ^ lengthSize := by
    rw [sizeOf_eq_sum]
    exact h.sizeFits
  have size := Bytes.length_ofNat lengthSize (sizeOf parts)
  have seconds := Bytes.length_ofNat timeSize n
  constructor
  · rw [length_layout, sizeOf_eq_sum]
  · rw [length_layout, layout, List.append_assoc, List.take_left' size,
      Bytes.toNat_ofNat_of_lt small]
  · rw [layout, List.append_assoc, List.drop_left' size, List.take_left' seconds,
      Bytes.toNat_ofNat_of_lt h.timeFits]
  · rw [layout, List.getElem?_append_right (Nat.le_of_eq (length_numbers ..)), length_numbers,
      Nat.sub_self]
    rfl
  · rw [layout, List.append_assoc, drop_header size seconds]
    rfl

def encode (code : UInt8) (time : Value) (values : List Value) : Except EncodeError Bytes := do
  build code time (← values.mapM fieldBytes)

theorem encode_eq_ok_iff : encode code time values = .ok frame ↔
    ∃ parts n, Fitting time values parts n ∧ frame = layout code n parts := by
  constructor
  · intro h
    obtain ⟨parts, fields, h⟩ := exists_of_bind_eq_ok h
    have written := writes_of_mapM fields
    obtain ⟨n, hn, most, small, rfl⟩ := layout_of_build (zero_not_mem_of_writes written) h
    rw [sizeOf_eq_sum] at small
    exact ⟨parts, n, ⟨written.imp fun _ _ => writes_iff.mp, hn, most, small⟩, rfl⟩
  · rintro ⟨parts, n, fitting, rfl⟩
    have small := fitting.sizeFits
    rw [← sizeOf_eq_sum] at small
    rw [encode, mapM_of_writes fitting.writes, ok_bind]
    exact build_eq (zero_not_mem_of_writes fitting.writes) fitting.time fitting.timeFits small

theorem blamesValue_of_encode {error : EncodeError} (h : encode code time values = .error error) :
    error.blamesValue := by
  obtain fields | ⟨parts, fields, h⟩ := error_of_bind_eq_error h
  · exact blamesValue_of_mapM fields
  · exact blamesValue_of_build (zero_not_mem_of_writes (writes_of_mapM fields)) h

structure Encodes (code : UInt8) (time : Value) (values : List Value)
    (result : Except EncodeError Bytes) : Prop where
  succeeds : (∃ frame, result = .ok frame) ↔ ∃ parts n, Fitting time values parts n
  fills : ∀ frame, result = .ok frame →
    ∃ parts n, Fitting time values parts n ∧ Filled code n parts frame
  hasRoom : ∀ count start, result ≠ .error (.bufferTooSmall count start)
  hasPlace : result ≠ .error .noPlace

theorem encodes_encode : Encodes code time values (encode code time values) where
  succeeds := by
    constructor
    · rintro ⟨frame, written⟩
      obtain ⟨parts, n, fitting, -⟩ := encode_eq_ok_iff.mp written
      exact ⟨parts, n, fitting⟩
    · rintro ⟨parts, n, fitting⟩
      exact ⟨_, encode_eq_ok_iff.mpr ⟨parts, n, fitting, rfl⟩⟩
  fills := by
    intro frame written
    obtain ⟨parts, n, fitting, rfl⟩ := encode_eq_ok_iff.mp written
    exact ⟨parts, n, fitting, filled_layout code fitting⟩
  hasRoom _ _ failed := Bool.false_ne_true (blamesValue_of_encode failed)
  hasPlace failed := Bool.false_ne_true (blamesValue_of_encode failed)

end Encode

def keyFields (peer first second : Value) : List Value :=
  [peer, first] ++ if second.isTrue then [second] else []

/-- Messages and requests for keys are made of exactly the values that fit into a frame, and are
filled with them to the last byte. -/
theorem encoding_exact (peer text first second broadcast time hops : Value) :
    Encodes (messageCode broadcast.isTrue) time [peer, text]
      (writeMessage peer text broadcast.isTrue time) ∧
    Encodes keyCode hops (keyFields peer first second) (encodeKey peer first second hops) :=
  ⟨encodes_encode, encodes_encode⟩

end Frame

end ChatLink
