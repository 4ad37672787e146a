import ChatLink.Proofs.Encoding

/-!
Writers that change a buffer as they go. From a start that is not in front of the buffer they write
all or nothing: over the bytes between the start and the position that they give, if there are so
many. So writes to different places can be made in any order.
-/

namespace ChatLink

namespace Bytes

def overwrite (buffer : Bytes) (start : Nat) (new : Bytes) : Bytes :=
  buffer.take start ++ (new ++ buffer.drop (start + new.length))

section Overwrite

variable {buffer new other : Bytes} {start begin : Nat}

theorem length_overwrite (h : start + new.length ≤ buffer.length) :
    (buffer.overwrite start new).length = buffer.length := by
  simp only [overwrite, List.length_append, List.length_take, List.length_drop]
  omega

theorem getElem?_overwrite (h : start + new.length ≤ buffer.length) (i : Nat) :
    (buffer.overwrite start new)[i]? =
      if start ≤ i ∧ i < start + new.length then new[i - start]? else buffer[i]? := by
  have front : (buffer.take start).length = start := List.length_take_of_le (by omega)
  rw [overwrite]
  by_cases before : i < start
  · rw [if_neg (by omega), List.getElem?_append_left (by omega), List.getElem?_take_of_lt before]
  rw [List.getElem?_append_right (by omega), front]
  by_cases inside : i < start + new.length
  · rw [if_pos (by omega), List.getElem?_append_left (by omega)]
  · rw [if_neg (by omega), List.getElem?_append_right (by omega), List.getElem?_drop]
    congr 1
    omega

theorem overwrite_comm (h : start + new.length ≤ buffer.length)
    (h' : begin + other.length ≤ buffer.length)
    (apart : ∀ i, start ≤ i ∧ i < start + new.length → ¬(begin ≤ i ∧ i < begin + other.length)) :
    (buffer.overwrite start new).overwrite begin other =
      (buffer.overwrite begin other).overwrite start new := by
  apply List.ext_getElem?
  intro i
  rw [getElem?_overwrite (by rwa [length_overwrite h]), getElem?_overwrite h,
    getElem?_overwrite (by rwa [length_overwrite h']), getElem?_overwrite h']
  by_cases here : start ≤ i ∧ i < start + new.length
  · rw [if_pos here, if_pos here, if_neg (apart i here)]
  · rw [if_neg here, if_neg here]

end Overwrite

end Bytes

namespace Frame

section Reading

variable {buffer part : Bytes} {start size : Nat} {bound : Option Int}

theorem readNumber_overwrite (hsize : part.length = size)
    (h : start + part.length ≤ clamp buffer.length bound) :
    readNumber size (buffer.overwrite start part) start bound = part.toNat := by
  have room := Nat.le_trans h (clamp_le ..)
  have front : (buffer.take start).length = start := List.length_take_of_le (by omega)
  have cut := slice_append (buffer.take start) part (buffer.drop (start + part.length))
  rw [front, hsize] at cut
  rw [readNumber, Bytes.length_overwrite room, if_neg (by omega), Bytes.overwrite, hsize, cut]

theorem field?_append {room : Nat} (free : 0 ∉ part) (h : part.length < room) (rest : Bytes) :
    field? room (part ++ 0 :: rest) = some part := by
  obtain ⟨more, rfl⟩ : ∃ more, room = part.length + (more + 1) := ⟨room - part.length - 1, by omega⟩
  rw [field?_eq_head?, List.take_length_add_append, List.take_succ_cons, fields_append free]
  rfl

theorem readText_overwrite (free : 0 ∉ part)
    (h : start + part.length + 1 ≤ clamp buffer.length bound) :
    readText (buffer.overwrite start (part ++ [0])) start bound =
      (some (Utf8.decode part), start + part.length + 1) := by
  have length : (part ++ [0]).length = part.length + 1 := List.length_append
  have room : start + (part ++ [0]).length ≤ buffer.length := by
    have := clamp_le buffer.length bound
    omega
  have front : (buffer.take start).length = start := List.length_take_of_le (by omega)
  have behind : (buffer.overwrite start (part ++ [0])).drop start =
      part ++ 0 :: buffer.drop (start + (part ++ [0]).length) := by
    rw [Bytes.overwrite, List.drop_left' front, List.append_assoc, List.singleton_append]
  rw [readText, Bytes.length_overwrite room, position_natCast, Nat.min_eq_left (by omega)]
  have inside : part.length < clamp buffer.length bound - start := by omega
  simp only [behind, field?_append free inside]

end Reading

def putNumber (size : Nat) (start : Int) (value : Value) (buffer : Bytes) :
    Except EncodeError Int × Bytes :=
  match value.toInt with
  | .error e => (.error (.conversion e), buffer)
  | .ok n =>
    if n < 0 ∨ 256 ^ size ≤ n then (.error (.outOfRange n size), buffer)
    else (.ok (start + size), buffer.splice start (start + size) (.ofNat size n.toNat))

/-- Writes a text field, then the zero byte behind it, and gives the position behind both. Where
there is no place for the zero byte, the field has been written. -/
def putText (start : Int) (text : Value) (buffer : Bytes) : Except EncodeError Int × Bytes :=
  match fieldBytes text with
  | .error e => (.error e, buffer)
  | .ok field =>
    let stop := start + field.length
    if buffer.length < stop + 1 then (.error (.bufferTooSmall (field.length + 1) start), buffer)
    else
      let filled := buffer.splice start stop field
      match filled.set? stop 0 with
      | some ended => (.ok (stop + 1), ended)
      | none => (.error .noPlace, filled)

theorem writeNumber_eq_put (size : Nat) (start : Int) (value : Value) (buffer : Bytes) :
    writeNumber size buffer start value =
      (putNumber size start value buffer).1.map ((putNumber size start value buffer).2, ·) := by
  rw [writeNumber, putNumber]
  cases value.toInt with
  | error e => rfl
  | ok n =>
    simp only [Except.mapError, ok_bind]
    split <;> rfl

theorem writeText_eq_put (start : Int) (text : Value) (buffer : Bytes) :
    writeText buffer start text =
      (putText start text buffer).1.map ((putText start text buffer).2, ·) := by
  rw [writeText, putText]
  cases fieldBytes text with
  | error e => rfl
  | ok field =>
    simp only [ok_bind]
    split
    · rfl
    · cases (buffer.splice start (start + field.length) field).set? (start + field.length) 0 <;> rfl

inductive Write
  | number (size start : Nat) (value : Value)
  | text (start : Nat) (value : Value)

def deposit (content : Except EncodeError Bytes) (start : Nat) (buffer : Bytes) :
    Except EncodeError Int × Bytes :=
  match content with
  | .error e => (.error e, buffer)
  | .ok new =>
    if start + new.length ≤ buffer.length then
      (.ok ((start + new.length : Nat) : Int), buffer.overwrite start new)
    else (.error (.bufferTooSmall new.length start), buffer)

/-- What a write from `start` on does to a buffer: nothing if it fails, and otherwise nothing beyond
the position that it gives. -/
structure Confined (buffer : Bytes) (start : Nat) (outcome : Except EncodeError Int × Bytes) :
    Prop where
  length : outcome.2.length = buffer.length
  unchanged : ∀ error, outcome.1 = .error error → outcome.2 = buffer
  outside : ∀ next, outcome.1 = .ok next →
    ∀ i : Nat, i < start ∨ next ≤ i → outcome.2[i]? = buffer[i]?

section Deposit

variable {content other : Except EncodeError Bytes} {new part buffer : Bytes} {start begin : Nat}

theorem deposit_ok (h : start + new.length ≤ buffer.length) :
    deposit (.ok new) start buffer =
      (.ok ((start + new.length : Nat) : Int), buffer.overwrite start new) := if_pos h

theorem deposit_short (h : buffer.length < start + new.length) :
    deposit (.ok new) start buffer = (.error (.bufferTooSmall new.length start), buffer) :=
  if_neg (Nat.not_le.mpr h)

theorem confined_deposit (content : Except EncodeError Bytes) (start : Nat) (buffer : Bytes) :
    Confined buffer start (deposit content start buffer) := by
  cases content with
  | error e => exact ⟨rfl, fun _ _ => rfl, nofun⟩
  | ok new =>
    by_cases room : start + new.length ≤ buffer.length
    · rw [deposit_ok room]
      refine ⟨Bytes.length_overwrite room, nofun, ?_⟩
      rintro _ ⟨⟩ i beyond
      rw [Bytes.getElem?_overwrite room, if_neg (by omega)]
    · rw [deposit_short (Nat.not_le.mp room)]
      exact ⟨rfl, fun _ _ => rfl, nofun⟩

theorem deposit_congr (content : Except EncodeError Bytes) (start : Nat) {after : Bytes}
    (h : after.length = buffer.length) :
    (deposit content start after).1 = (deposit content start buffer).1 := by
  cases content with
  | error e => rfl
  | ok new =>
    rw [deposit, deposit, h]
    split <;> rfl

theorem deposit_error_iff : (∃ error, (deposit content start buffer).1 = .error error) ↔
    ∀ new, content = .ok new → buffer.length < start + new.length := by
  cases content with
  | error e => exact ⟨fun _ => nofun, fun _ => ⟨e, rfl⟩⟩
  | ok new =>
    by_cases room : start + new.length ≤ buffer.length
    · simp [deposit_ok room, Nat.not_lt.mpr room]
    · simp [deposit_short (Nat.not_le.mp room), Nat.not_le.mp room]

theorem exists_of_deposit {next : Int} (h : (deposit content start buffer).1 = .ok next) :
    ∃ new, content = .ok new ∧ start + new.length ≤ buffer.length ∧
      next = ((start + new.length : Nat) : Int) ∧
      (deposit content start buffer).2 = buffer.overwrite start new := by
  cases content with
  | error e => cases h
  | ok new =>
    by_cases room : start + new.length ≤ buffer.length
    · rw [deposit_ok room] at h ⊢
      cases h
      exact ⟨new, rfl, room, rfl, rfl⟩
    · rw [deposit_short (Nat.not_le.mp room)] at h
      cases h

theorem deposit_comm (apart : ∀ new old, content = .ok new → other = .ok old →
      ∀ i, start ≤ i ∧ i < start + new.length → ¬(begin ≤ i ∧ i < begin + old.length)) :
    (deposit other begin (deposit content start buffer).2).2 =
      (deposit content start (deposit other begin buffer).2).2 := by
  cases content with
  | error e => rfl
  | ok new =>
    cases other with
    | error e => rfl
    | ok old =>
      by_cases room : start + new.length ≤ buffer.length
      · have length := Bytes.length_overwrite room
        by_cases place : begin + old.length ≤ buffer.length
        · rw [deposit_ok room, deposit_ok place, deposit_ok (length ▸ place),
            deposit_ok (Bytes.length_overwrite place ▸ room)]
          exact Bytes.overwrite_comm room place (apart new old rfl rfl)
        · rw [Nat.not_le] at place
          rw [deposit_ok room, deposit_short place, deposit_short (length ▸ place), deposit_ok room]
      · rw [Nat.not_le] at room
        rw [deposit_short room]
        by_cases place : begin + old.length ≤ buffer.length
        · rw [deposit_ok place, deposit_short (Bytes.length_overwrite place ▸ room)]
        · rw [deposit_short (Nat.not_le.mp place), deposit_short room]

end Deposit

namespace Write

def perform : Write → Bytes → Except EncodeError Int × Bytes
  | .number size start value => putNumber size start value
  | .text start value => putText start value

def start : Write → Nat
  | .number _ start _ => start
  | .text start _ => start

def content : Write → Except EncodeError Bytes
  | .number size _ value => do
    let n ← value.toInt.mapError .conversion
    if n < 0 ∨ 256 ^ size ≤ n then throw (.outOfRange n size) else return .ofNat size n.toNat
  | .text _ value => do return (← fieldBytes value) ++ [0]

/-- Only the writer of numbers relies on it that there is room. -/
def HasRoom (buffer : Bytes) : Write → Prop
  | .number size start _ => start + size ≤ buffer.length
  | .text .. => True

def Covers (write : Write) (i : Nat) : Prop :=
  ∃ new, write.content = .ok new ∧ write.start ≤ i ∧ i < write.start + new.length

end Write

theorem putNumber_eq {size start : Nat} {value : Value} {buffer : Bytes}
    (room : start + size ≤ buffer.length) :
    putNumber size start value buffer =
      deposit (Write.number size start value).content start buffer := by
  rw [putNumber, Write.content]
  cases value.toInt with
  | error e => rfl
  | ok n =>
    simp only [Except.mapError, ok_bind]
    split
    · rfl
    · have length := Bytes.length_ofNat size n.toNat
      rw [← Int.natCast_add, Bytes.splice_natCast _ _ (Nat.le_add_right ..) room,
        List.append_assoc]
      change _ = deposit (.ok _) start buffer
      rw [deposit_ok (by rwa [length]), Bytes.overwrite, length]

theorem set?_splice {start : Nat} {part buffer : Bytes}
    (room : start + part.length + 1 ≤ buffer.length) :
    (buffer.splice start (start + part.length) part).set? (start + part.length) 0 =
      some (buffer.overwrite start (part ++ [0])) := by
  have front : (buffer.take start).length = start := List.length_take_of_le (by omega)
  have last : start + part.length < buffer.length := by omega
  have ended := set?_append (buffer.take start ++ part)
    (buffer.drop (start + part.length + 1)) buffer[start + part.length] 0
  rw [List.length_append, front] at ended
  rw [← Int.natCast_add, Bytes.splice_natCast _ _ (Nat.le_add_right ..) (by omega),
    List.drop_eq_getElem_cons last, ended, Bytes.overwrite, List.length_append,
    List.append_assoc, List.append_assoc]
  rfl

theorem putText_eq (start : Nat) (value : Value) (buffer : Bytes) :
    putText start value buffer = deposit (Write.text start value).content start buffer := by
  rw [putText, Write.content]
  cases fieldBytes value with
  | error e => rfl
  | ok part =>
    change _ = deposit (.ok (part ++ [0])) start buffer
    have length : (part ++ [0]).length = part.length + 1 := List.length_append
    by_cases room : start + part.length + 1 ≤ buffer.length
    · rw [deposit_ok (by omega), length]
      simp only [set?_splice room]
      rw [if_neg (by omega)]
      rfl
    · rw [deposit_short (by omega), length]
      simp only [if_pos (by omega : (buffer.length : Int) < start + part.length + 1)]

namespace Write

variable {first second write : Write} {buffer new : Bytes}

theorem perform_eq (h : write.HasRoom buffer) :
    write.perform buffer = deposit write.content write.start buffer := by
  cases write with
  | number size start value => exact putNumber_eq h
  | text start value => exact putText_eq start value buffer

theorem HasRoom.of_length {after : Bytes} (h : write.HasRoom buffer)
    (same : after.length = buffer.length) : write.HasRoom after := by
  cases write with
  | number size start value => exact Nat.le_trans h (Nat.le_of_eq same.symm)
  | text start value => trivial

theorem content_number {size start : Nat} {value : Value} :
    (number size start value).content = .ok new ↔
      ∃ n : Nat, value.toInt = .ok (n : Int) ∧ n < 256 ^ size ∧ new = .ofNat size n := by
  constructor
  · intro h
    obtain ⟨n, number, h⟩ := exists_of_bind_eq_ok h
    split at h
    · cases h
    · rename_i fits
      rw [not_or, Int.not_lt, Int.not_le] at fits
      obtain ⟨n, rfl⟩ := Int.eq_ofNat_of_zero_le fits.1
      cases h
      exact ⟨n, eq_ok_of_mapError number, by exact_mod_cast fits.2, rfl⟩
  · rintro ⟨n, number, fits, rfl⟩
    have inside : ¬((n : Int) < 0 ∨ 256 ^ size ≤ (n : Int)) := by
      rw [not_or, Int.not_lt, Int.not_le]
      exact ⟨Int.natCast_nonneg n, by exact_mod_cast fits⟩
    rw [content, number]
    simp only [Except.mapError, ok_bind, if_neg inside]
    rfl

theorem content_text {start : Nat} {value : Value} :
    (text start value).content = .ok new ↔
      ∃ part, value.toBytes = .ok part ∧ 0 ∉ part ∧ new = part ++ [0] := by
  constructor
  · intro h
    obtain ⟨part, written, h⟩ := exists_of_bind_eq_ok h
    obtain ⟨converted, free⟩ := writes_iff.mp written
    cases h
    exact ⟨part, converted, free, rfl⟩
  · rintro ⟨part, converted, free, rfl⟩
    have written : fieldBytes value = .ok part := writes_iff.mpr ⟨converted, free⟩
    rw [content, written]
    rfl

theorem perform_comm (room : first.HasRoom buffer) (place : second.HasRoom buffer)
    (apart : ∀ i, first.Covers i → ¬second.Covers i) :
    (second.perform (first.perform buffer).2).2 = (first.perform (second.perform buffer).2).2 ∧
      (second.perform (first.perform buffer).2).1 = (second.perform buffer).1 ∧
      (first.perform (second.perform buffer).2).1 = (first.perform buffer).1 := by
  have one := (confined_deposit first.content first.start buffer).length
  have two := (confined_deposit second.content second.start buffer).length
  rw [perform_eq room, perform_eq place, perform_eq (place.of_length one),
    perform_eq (room.of_length two)]
  refine ⟨deposit_comm ?_, deposit_congr _ _ one, deposit_congr _ _ two⟩
  intro new old written planned i here there
  exact apart i ⟨new, written, here⟩ ⟨old, planned, there⟩

end Write

section Put

variable {buffer : Bytes} {start size : Nat} {value : Value}

theorem putText_error_iff : (∃ error, (putText start value buffer).1 = .error error) ↔
    ∀ part, value.toBytes = .ok part → 0 ∈ part ∨ buffer.length < start + part.length + 1 := by
  rw [putText_eq, deposit_error_iff]
  constructor
  · intro short part converted
    by_cases zero : 0 ∈ part
    · exact .inl zero
    · have length := short _ (Write.content_text.mpr ⟨part, converted, zero, rfl⟩)
      rw [List.length_append, ← Nat.add_assoc] at length
      exact .inr length
  · intro short new written
    obtain ⟨part, converted, free, rfl⟩ := Write.content_text.mp written
    rw [List.length_append, ← Nat.add_assoc]
    exact (short part converted).resolve_left free

theorem readText_putText {text : String} {next : Int}
    (h : (putText start (.text text) buffer).1 = .ok next) : ∃ stop : Nat, next = stop ∧
      ∀ bound, stop ≤ clamp buffer.length bound →
        readText (putText start (.text text) buffer).2 start bound = (some text, stop) := by
  rw [putText_eq] at h ⊢
  obtain ⟨new, written, -, rfl, after⟩ := exists_of_deposit h
  obtain ⟨part, converted, free, rfl⟩ := Write.content_text.mp written
  cases converted
  refine ⟨_, rfl, fun bound inside => ?_⟩
  rw [List.length_append, List.length_singleton, ← Nat.add_assoc] at inside ⊢
  rw [after, readText_overwrite free inside, Utf8.decode_encode]

theorem putNumber_of_toInt {n : Int} (hn : value.toInt = .ok n)
    (room : start + size ≤ buffer.length) :
    (n < 0 ∨ 256 ^ size ≤ n → (putNumber size start value buffer).1 = .error (.outOfRange n size)) ∧
    (0 ≤ n ∧ n < 256 ^ size →
      (putNumber size start value buffer).1 = .ok ((start + size : Nat) : Int) ∧
      ∀ bound, start + size ≤ clamp buffer.length bound →
        (readNumber size (putNumber size start value buffer).2 start bound : Int) = n) := by
  constructor
  · intro outside
    rw [putNumber, hn]
    simp only [if_pos outside]
  · rintro ⟨nonnegative, small⟩
    obtain ⟨n, rfl⟩ := Int.eq_ofNat_of_zero_le nonnegative
    have small : n < 256 ^ size := by exact_mod_cast small
    have length := Bytes.length_ofNat size n
    have written : (Write.number size start value).content = .ok (.ofNat size n) :=
      Write.content_number.mpr ⟨n, hn, small, rfl⟩
    rw [putNumber_eq room, written, deposit_ok (by rwa [length]), length]
    refine ⟨rfl, fun bound inside => ?_⟩
    rw [readNumber_overwrite length (by rwa [length]), Bytes.toNat_ofNat_of_lt small]

end Put

/-- Writing in place does what the writers say, and is all or nothing from any start that is not in
front of the buffer: a failure leaves the buffer as it was, and success changes nothing outside of
what is written, which is then read back. A text is refused exactly if it has no form in bytes, or
one with a zero byte, or one that is too long; a number exactly if it is too large for its bytes.
Writes to different positions do not depend on their order, failures included. -/
theorem writing_in_place (buffer : Bytes) :
    (∀ (start : Nat) (value : Value),
      let outcome := putText start value buffer
      writeText buffer start value = outcome.1.map (outcome.2, ·) ∧
      Confined buffer start outcome ∧
      ((∃ error, outcome.1 = .error error) ↔ ∀ part, value.toBytes = .ok part →
        0 ∈ part ∨ buffer.length < start + part.length + 1)) ∧
    (∀ (start : Nat) (text : String),
      let outcome := putText start (.text text) buffer
      ((∃ error, outcome.1 = .error error) ↔
        '\x00' ∈ text.toList ∨ buffer.length < start + (Utf8.encode text).length + 1) ∧
      ∀ next, outcome.1 = .ok next → ∃ stop : Nat, next = stop ∧
        ∀ bound, stop ≤ clamp buffer.length bound →
          readText outcome.2 start bound = (some text, stop)) ∧
    (∀ (size start : Nat) (value : Value) (n : Int), start + size ≤ buffer.length →
      value.toInt = .ok n →
      let outcome := putNumber size start value buffer
      writeNumber size buffer start value = outcome.1.map (outcome.2, ·) ∧
      Confined buffer start outcome ∧
      (n < 0 ∨ 256 ^ size ≤ n → outcome.1 = .error (.outOfRange n size)) ∧
      (0 ≤ n ∧ n < 256 ^ size → outcome.1 = .ok ((start + size : Nat) : Int) ∧
        ∀ bound, start + size ≤ clamp buffer.length bound →
          (readNumber size outcome.2 start bound : Int) = n)) ∧
    ∀ first second : Write, first.HasRoom buffer → second.HasRoom buffer →
      (∀ i, first.Covers i → ¬second.Covers i) →
      (second.perform (first.perform buffer).2).2 = (first.perform (second.perform buffer).2).2 ∧
        (second.perform (first.perform buffer).2).1 = (second.perform buffer).1 ∧
        (first.perform (second.perform buffer).2).1 = (first.perform buffer).1 := by
  refine ⟨fun start value => ⟨writeText_eq_put .., ?_, putText_error_iff⟩,
    fun start text => ⟨?_, fun next => readText_putText⟩,
    fun size start value n room hn => ⟨writeNumber_eq_put .., ?_, putNumber_of_toInt hn room⟩,
    fun first second room place apart => ?_⟩
  · rw [putText_eq]
    exact confined_deposit ..
  · rw [putText_error_iff, ← Utf8.zero_mem_encode_iff]
    constructor
    · exact fun refused => refused _ rfl
    · rintro refused _ ⟨⟩
      exact refused
  · rw [putNumber_eq room]
    exact confined_deposit ..
  · exact Write.perform_comm room place apart

def stale : Bytes := List.replicate 10 0xAA

def greatest : Write := .number lengthSize 0 (.int (2 ^ 32 - 1))

def lastText : Write := .text 4 (.text "é€")

theorem writing_in_place_last_byte :
    (∃ stop : Nat, (putText 4 (.text "é€") stale).1 = .ok stop ∧ stop = 10 ∧
      readText (putText 4 (.text "é€") stale).2 4 none = (some "é€", stop)) ∧
    (∃ error, (putText 5 (.text "é€") stale).1 = .error error) ∧
    (readNumber lengthSize (greatest.perform stale).2 0 none : Int) = 2 ^ 32 - 1 ∧
    (putNumber lengthSize 0 (.int (2 ^ 32)) stale).1 = .error (.outOfRange (2 ^ 32) 4) ∧
    (lastText.perform (greatest.perform stale).2).2 =
      (greatest.perform (lastText.perform stale).2).2 := by
  have numberRoom : 0 + lengthSize ≤ stale.length := by decide
  obtain ⟨-, texts, numbers, orders⟩ := writing_in_place stale
  have written : (putText 4 (.text "é€") stale).1 = .ok ((10 : Nat) : Int) := by rfl
  obtain ⟨stop, same, back⟩ := (texts 4 "é€").2 _ written
  have whole : stop = 10 := (Int.ofNat.inj same).symm
  have apart : ∀ i, greatest.Covers i → ¬lastText.Covers i := by
    rintro i ⟨new, first, -, before⟩ ⟨old, second, behind, -⟩
    cases first
    simp only [Bytes.length_ofNat] at before
    exact Nat.lt_irrefl _ (Nat.lt_of_le_of_lt behind before)
  refine ⟨⟨stop, whole ▸ written, whole, back none (whole ▸ Nat.le_refl _)⟩, ?_, ?_, ?_, ?_⟩
  · exact (texts 5 "é€").1.mpr (.inr (by decide))
  · exact ((numbers lengthSize 0 _ _ numberRoom rfl).2.2.2 (by decide)).2 none numberRoom
  · exact (numbers lengthSize 0 _ _ numberRoom rfl).2.2.1 (by decide)
  · exact (orders greatest lastText numberRoom trivial apart).1

end Frame

end ChatLink
