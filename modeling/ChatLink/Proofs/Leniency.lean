import ChatLink.Frame.Record
import ChatLink.Proofs.Bound
import ChatLink.Proofs.RoundTrip

namespace ChatLink.Frame

def shownFields (code : UInt8) : Nat :=
  if code = dataCode ∨ code = broadcastCode then 2 else if code = keyCode then 1 else 0

namespace Anatomy

variable {received data : Bytes} {bound : Option Int}

def field (parts : Anatomy received) (i : Nat) : Value :=
  .ofText? (parts.segments[i]?.map Utf8.decode)

inductive Tells (parts : Anatomy received) : Option Event → Prop
  | data (h : parts.code = dataCode) :
      Tells parts (some (.message (parts.field 0) (.int (1000 * parts.time.toNat)) (parts.field 1)
        (.bool false)))
  | broadcast (h : parts.code = broadcastCode) :
      Tells parts (some (.message (parts.field 0) (.int (1000 * parts.time.toNat)) (parts.field 1)
        (.bool true)))
  | key (h : parts.code = keyCode) : Tells parts (some (.keyOffer (parts.field 0)))
  | nothing (h : keyCode < parts.code) : Tells parts none

theorem code_cases (code : UInt8) :
    code = dataCode ∨ code = broadcastCode ∨ code = keyCode ∨ keyCode < code := by
  simp only [dataCode, broadcastCode, keyCode, UInt8.lt_iff_toNat_lt, ← UInt8.toNat_inj,
    UInt8.reduceToNat]
  omega

theorem event?_frame_of_message {parts : Anatomy received} (broadcast : Bool)
    (h : parts.code = messageCode broadcast) :
    parts.frame.event? = some (.message (parts.field 0) (.int (1000 * parts.time.toNat))
      (parts.field 1) (.bool broadcast)) := by
  have few : parts.code.toNat ≤ 1 := by
    rw [h]
    cases broadcast <;> decide
  have text : parts.frame.text? = parts.segments[1]?.map Utf8.decode := by
    simp [frame, text?, textsOf, few, List.head?_eq_getElem?]
  rw [event?_of_code (congrArg UInt8.toNat h), text]
  simp [frame, field, List.head?_eq_getElem?]

theorem event?_frame_of_key {parts : Anatomy received} (h : parts.code = keyCode) :
    parts.frame.event? = some (.keyOffer (parts.field 0)) := by
  simp [event?, kind, frame, field, h, List.head?_eq_getElem?]

theorem event?_frame_of_other {parts : Anatomy received} (h : keyCode < parts.code) :
    parts.frame.event? = none := by
  have high : 2 < parts.code.toNat := UInt8.lt_iff_toNat_lt.mp h
  obtain ⟨n, hn⟩ : ∃ n, parts.code.toNat = n + 3 := ⟨parts.code.toNat - 3, by omega⟩
  cases n <;> simp [event?, kind, frame, hn, Kind.ofCode]

theorem tells (parts : Anatomy received) : parts.Tells parts.frame.event? := by
  rcases code_cases parts.code with h | h | h | h
  · rw [event?_frame_of_message false h]
    exact .data h
  · rw [event?_frame_of_message true h]
    exact .broadcast h
  · rw [event?_frame_of_key h]
    exact .key h
  · rw [event?_frame_of_other h]
    exact .nothing h

theorem getElem?_code (parts : Anatomy received) : received[codeOffset]? = some parts.code := by
  have offset : codeOffset = (parts.size ++ parts.time).length := by
    simp [parts.length_size, parts.length_time, codeOffset, lengthSize, timeSize]
  calc
    received[codeOffset]? =
        (parts.size ++ parts.time ++ parts.code :: parts.body)[codeOffset]? := by
      rw [List.append_assoc, ← parts.eq]
    _ = some parts.code := by simp [offset]

theorem Tells.unique {other : Bytes} {a : Anatomy received} {b : Anatomy other}
    {event event' : Option Event} (h : a.Tells event) (h' : b.Tells event') (code : b.code = a.code)
    (time : a.code ≠ keyCode → b.time = a.time)
    (fields : ∀ i < shownFields a.code, b.field i = a.field i) : event' = event := by
  cases h <;> cases h' <;> grind [shownFields, dataCode, broadcastCode, keyCode]

theorem tells_decode (parts : Anatomy (data.take (clamp data.length bound))) :
    parts.Tells (decode data bound).1 := by
  rw [decode_of_parse parts.parse_eq]
  exact parts.tells

end Anatomy

/-- Datagrams that differ in their lengths as they declare them, behind the last field that is shown, or
in the time of a frame of keys. -/
inductive Alike : Bytes → Bytes → Prop
  | length {size size' rest : Bytes} (h : size.length ≤ lengthSize)
      (same : size'.length = size.length) : Alike (size ++ rest) (size' ++ rest)
  | behind {size time rest rest' : Bytes} {code : UInt8} {shown : List Bytes}
      (hs : size.length = lengthSize) (ht : time.length = timeSize)
      (free : ∀ field ∈ shown, 0 ∉ field) (ended : shown.length = shownFields code) :
      Alike (size ++ (time ++ code :: (body shown ++ rest)))
        (size ++ (time ++ code :: (body shown ++ rest')))
  | time {size time time' rest : Bytes} (hs : size.length = lengthSize)
      (ht : time.length = timeSize) (ht' : time'.length = timeSize) :
      Alike (size ++ (time ++ keyCode :: rest)) (size ++ (time' ++ keyCode :: rest))

namespace Alike

variable {received received' : Bytes}

theorem anatomies (h : Alike received received') :
    received.length < headerSize ∧ received'.length < headerSize ∨
      ∃ (a : Anatomy received) (b : Anatomy received'), b.code = a.code ∧
        (a.code ≠ keyCode → b.time = a.time) ∧
        ∀ i < shownFields a.code, b.segments[i]? = a.segments[i]? := by
  cases h with
  | @length size size' rest h same =>
    by_cases short : (size ++ rest).length < headerSize
    · exact .inl ⟨short, by simpa [same] using short⟩
    obtain ⟨⟨whole, time, code, body, segments, tail, hs, ht, split, eq⟩⟩ :=
      Anatomy.nonempty (Nat.not_lt.mp short)
    obtain ⟨more, rfl⟩ : size <+: whole :=
      List.prefix_of_prefix_length_le (List.prefix_append size rest)
        (eq ▸ List.prefix_append whole _) (hs ▸ h)
    rw [List.append_assoc, List.append_cancel_left_eq] at eq
    have hs' : (size' ++ more).length = lengthSize := by simpa [same] using hs
    have eq' : size' ++ rest = size' ++ more ++ (time ++ code :: body) := by
      rw [eq, List.append_assoc]
    exact .inr ⟨⟨_, time, code, body, segments, tail, hs, ht, split, by rw [eq, List.append_assoc]⟩,
      ⟨_, time, code, body, segments, tail, hs', ht, split, eq'⟩, rfl, fun _ => rfl, fun _ _ => rfl⟩
  | @behind size time rest rest' code shown hs ht free ended =>
    obtain ⟨segments, tail, split⟩ := Segments.exists_of rest
    obtain ⟨segments', tail', split'⟩ := Segments.exists_of rest'
    refine .inr ⟨⟨size, time, code, _, _, tail, hs, ht, split.body_append free, rfl⟩,
      ⟨size, time, code, _, _, tail', hs, ht, split'.body_append free, rfl⟩, rfl, fun _ => rfl, ?_⟩
    intro i inside
    rw [← ended] at inside
    simp [List.getElem?_append_left inside]
  | @time size time time' rest hs ht ht' =>
    obtain ⟨segments, tail, split⟩ := Segments.exists_of rest
    exact .inr ⟨⟨size, time, keyCode, rest, segments, tail, hs, ht, split, rfl⟩,
      ⟨size, time', keyCode, rest, segments, tail, hs, ht', split, rfl⟩, rfl,
      fun other => absurd rfl other, fun _ _ => rfl⟩

end Alike

section Decode

variable {data other : Bytes} {bound limit : Option Int}

theorem decode_of_short (h : clamp data.length bound < headerSize) :
    decode data bound = (none, []) := by
  rw [decode, parse_eq_none_iff.mpr h]

theorem decode_of_alike
    (h : Alike (data.take (clamp data.length bound)) (other.take (clamp other.length limit))) :
    (decode other limit).1 = (decode data bound).1 := by
  obtain ⟨short, short'⟩ | ⟨a, b, code, time, segments⟩ := h.anatomies
  · rw [length_take_clamp] at short short'
    rw [decode_of_short short, decode_of_short short']
  · apply a.tells_decode.unique b.tells_decode code time
    intro i shown
    simp [Anatomy.field, segments i shown]

theorem lengthMismatch_ne_eventNotice (frame : Frame) (declared n : Nat) :
    .lengthMismatch declared n ≠ frame.eventNotice := by
  unfold eventNotice
  cases frame.kind <;> simp

theorem mem_readingNotices_iff {frame : Frame} {declared n : Nat} :
    .lengthMismatch declared n ∈ frame.readingNotices ↔
      declared = frame.length ∧ n = frame.received ∧ declared ≠ n := by
  unfold readingNotices
  split <;> split <;> simp <;> grind

theorem lengthMismatch_mem_iff {declared n : Nat} :
    .lengthMismatch declared n ∈ (decode data bound).2 ↔
      headerSize ≤ clamp data.length bound ∧
        declared = Bytes.toNat ((data.take (clamp data.length bound)).take lengthSize) ∧
        n = clamp data.length bound ∧ declared ≠ n := by
  by_cases short : clamp data.length bound < headerSize
  · simp [decode_of_short short, Nat.not_le.mpr short]
  · have header := Nat.not_lt.mp short
    obtain ⟨parts⟩ := Anatomy.nonempty (header.trans_eq (length_take_clamp data bound).symm)
    have size := parts.take_length
    rw [decode, parts.parse_eq]
    simp only [List.mem_append, mem_readingNotices_iff, List.mem_singleton,
      lengthMismatch_ne_eventNotice, or_false, Anatomy.frame, size, length_take_clamp, header,
      true_and]

theorem toRecord_eventNotice (frame : Frame) :
    frame.toRecord.eventNotice = .ok frame.eventNotice := by
  rw [Record.eventNotice, toRecord_kind, eventNotice]
  cases frame.kind <;> rfl

theorem decode_eq_none_iff : (decode data bound).1 = none ↔
    clamp data.length bound < headerSize ∨
      ∃ code, (data.take (clamp data.length bound))[codeOffset]? = some code ∧ keyCode < code := by
  by_cases short : clamp data.length bound < headerSize
  · simp [decode_of_short short, short]
  · have header := Nat.not_lt.mp short
    obtain ⟨parts⟩ := Anatomy.nonempty (header.trans_eq (length_take_clamp data bound).symm)
    simp only [parts.getElem?_code, short, false_or, Option.some.injEq, exists_eq_left']
    have told := parts.tells_decode
    constructor
    · intro none
      rw [none] at told
      cases told with
      | nothing h => exact h
    · intro other
      rw [decode_of_parse parts.parse_eq, Anatomy.event?_frame_of_other other]

/-- How datagrams are read, whatever is wrong with them. Nothing that a frame can hold makes the reading
fail; a datagram is no event only if it is too short or has another code; a wrong length is reported and
changes nothing; and of two datagrams that are alike the events are the same. -/
theorem leniency (data : Bytes) (bound : Option Int) :
    let received := data.take (clamp data.length bound)
    (∀ frame, parse data bound = some frame →
      frame.toRecord.event? = .ok (decode data bound).1 ∧
        frame.toRecord.eventNotice = .ok frame.eventNotice) ∧
    ((decode data bound).1 = none ↔ clamp data.length bound < headerSize ∨
      ∃ code, received[codeOffset]? = some code ∧ keyCode < code) ∧
    (headerSize ≤ clamp data.length bound →
      ∃ parts : Anatomy received, parts.Tells (decode data bound).1) ∧
    (∀ declared n, .lengthMismatch declared n ∈ (decode data bound).2 ↔
      headerSize ≤ clamp data.length bound ∧ declared = Bytes.toNat (received.take lengthSize) ∧
        n = clamp data.length bound ∧ declared ≠ n) ∧
    ∀ (other : Bytes) (limit : Option Int),
      Alike received (other.take (clamp other.length limit)) →
        (decode other limit).1 = (decode data bound).1 := by
  refine ⟨?_, decode_eq_none_iff, ?_, fun _ _ => lengthMismatch_mem_iff, ?_⟩
  · intro frame parsed
    rw [decode_of_parse parsed]
    exact ⟨toRecord_event? frame, toRecord_eventNotice frame⟩
  · intro header
    obtain ⟨parts⟩ := Anatomy.nonempty (header.trans_eq (length_take_clamp data bound).symm)
    exact ⟨parts, parts.tells_decode⟩
  · intro other limit alike
    exact decode_of_alike alike

theorem leniency_tampered :
    (decode [0, 0, 0, 99, 0, 0, 0, 0, 0, 5, 1, 0x61, 0, 0x62, 0] none).1 =
        some (.message (.text "a") (.int 5000) (.text "b") (.bool true)) ∧
      .lengthMismatch 99 15 ∈ (decode [0, 0, 0, 99, 0, 0, 0, 0, 0, 5, 1, 0x61, 0, 0x62, 0] none).2 ∧
      (decode [0, 0, 0, 15, 0, 0, 0, 0, 0, 5, 1, 0x61, 0, 0x62, 0] none).1 =
        (decode [0, 0, 0, 99, 0, 0, 0, 0, 0, 5, 1, 0x61, 0, 0x62, 0] none).1 ∧
      (decode [0, 0, 0, 99, 0, 0, 0, 0, 0, 5, 1, 0x61, 0, 0x62, 0, 0xFF, 0, 7] (some 17)).1 =
        (decode [0, 0, 0, 99, 0, 0, 0, 0, 0, 5, 1, 0x61, 0, 0x62, 0] none).1 ∧
      (decode [0, 0, 0, 13, 0, 0, 0, 0, 0, 9, 2, 0x62, 0] none).1 =
        (decode [0, 0, 0, 13, 0, 0, 0, 0, 0, 7, 2, 0x62, 0] none).1 := by
  obtain ⟨-, -, -, mismatch, same⟩ :=
    leniency [0, 0, 0, 99, 0, 0, 0, 0, 0, 5, 1, 0x61, 0, 0x62, 0] none
  obtain ⟨-, -, -, -, same'⟩ := leniency [0, 0, 0, 13, 0, 0, 0, 0, 0, 7, 2, 0x62, 0] none
  refine ⟨?_, (mismatch 99 15).mpr (by decide), same _ none ?_, same _ (some 17) ?_, same' _ none ?_⟩
  · rw [← Utf8.decode_encode "a", ← Utf8.decode_encode "b"]
    rfl
  · show Alike ([0, 0, 0, 99] ++ _) ([0, 0, 0, 15] ++ _)
    exact .length (by decide) rfl
  · show Alike ([0, 0, 0, 99] ++ ([0, 0, 0, 0, 0, 5] ++ 1 :: (body [[0x61], [0x62]] ++ [])))
      ([0, 0, 0, 99] ++ ([0, 0, 0, 0, 0, 5] ++ 1 :: (body [[0x61], [0x62]] ++ [0xFF, 0])))
    exact .behind rfl rfl (by decide) rfl
  · show Alike ([0, 0, 0, 13] ++ ([0, 0, 0, 0, 0, 7] ++ keyCode :: [0x62, 0]))
      ([0, 0, 0, 13] ++ ([0, 0, 0, 0, 0, 9] ++ keyCode :: [0x62, 0]))
    exact .time rfl rfl rfl

end Decode

end ChatLink.Frame
