import ChatLink.Notice
import ChatLink.Proofs.Anatomy
import ChatLink.Proofs.Offsets

namespace ChatLink.Frame

def reading (data : Bytes) (bound : Option Int) : Option Frame × List Notice :=
  match parse data bound with
  | none => (none, [])
  | some frame => (some frame, frame.readingNotices)

section Readers

variable (data : Bytes) (bound : Option Int) {first last : Nat}

theorem length_take_clamp : (data.take (clamp data.length bound)).length = clamp data.length bound := by
  rw [List.length_take, Nat.min_eq_left (clamp_le ..)]

theorem take_take_clamp : (data.take (clamp data.length bound)).take
    (clamp (data.take (clamp data.length bound)).length none) =
      data.take (clamp data.length bound) := by
  rw [clamp_none, List.take_length]

variable {data bound} in
theorem slice_take (h : first ≤ last) (hl : last ≤ clamp data.length bound) :
    Bytes.slice (data.take (clamp data.length bound)) first last = Bytes.slice data first last := by
  have whole := Nat.le_trans hl (clamp_le ..)
  rw [Bytes.slice, Bytes.slice, length_take_clamp]
  simp only [position_natCast, Nat.min_eq_left hl, Nat.min_eq_left whole,
    Nat.min_eq_left (Nat.le_trans h hl), Nat.min_eq_left (Nat.le_trans h whole), List.take_take]

theorem readNumber_take (size start : Nat) :
    readNumber size (data.take (clamp data.length bound)) start none =
      readNumber size data start bound := by
  rw [readNumber, readNumber, clamp_none, length_take_clamp]
  split
  · rfl
  · rename_i enough
    rw [← Int.natCast_add, slice_take (Nat.le_add_right ..) (by omega)]

theorem readText_take (start : Nat) :
    readText (data.take (clamp data.length bound)) start none = readText data start bound := by
  have within := clamp_le data.length bound
  simp only [readText, clamp_none, length_take_clamp, position_natCast, field?_eq_head?]
  by_cases inside : start ≤ clamp data.length bound
  · rw [Nat.min_eq_left inside, Nat.min_eq_left (Nat.le_trans inside within), List.drop_take,
      List.take_take, Nat.min_self]
  · have past : clamp data.length bound - min start data.length = 0 := by omega
    rw [Nat.min_eq_right (Nat.le_of_not_le inside), Nat.sub_self, past]
    rfl

theorem seekText_take (start : Nat) :
    seekText (data.take (clamp data.length bound)) start none = seekText data start bound := by
  rw [seekText_eq, seekText_eq, readText_take]

end Readers

/-- Buffers with the same bytes in front of their bounds are read alike, as is what stands in front
of the bound by itself: every number, every text, the frame, the event, and what is reported. The
scanner and the loop over the texts are no exception. -/
theorem reading_bounded (data : Bytes) (bound : Option Int) :
    reading (data.take (clamp data.length bound)) none = reading data bound ∧
    decode (data.take (clamp data.length bound)) none = decode data bound ∧
    scan (data.take (clamp data.length bound)) none = scan data bound ∧
    (∀ size start : Nat,
      readNumber size (data.take (clamp data.length bound)) start none =
        readNumber size data start bound ∧
      readText (data.take (clamp data.length bound)) start none = readText data start bound ∧
      seekText (data.take (clamp data.length bound)) start none = seekText data start bound) ∧
    ∀ (other : Bytes) (limit : Option Int),
      other.take (clamp other.length limit) = data.take (clamp data.length bound) →
        reading other limit = reading data bound ∧ decode other limit = decode data bound ∧
          scan other limit = scan data bound := by
  have alike (other : Bytes) (limit : Option Int)
      (h : other.take (clamp other.length limit) = data.take (clamp data.length bound)) :
      reading other limit = reading data bound ∧ decode other limit = decode data bound ∧
        scan other limit = scan data bound := by
    rw [scan_eq_parse, scan_eq_parse, reading, reading, decode, decode, parse_congr h]
    exact ⟨rfl, rfl, rfl⟩
  obtain ⟨sameReading, sameEvent, sameScan⟩ := alike _ none (take_take_clamp data bound)
  refine ⟨sameReading, sameEvent, sameScan, fun size start => ⟨?_, ?_, ?_⟩, alike⟩
  · exact readNumber_take data bound size start
  · exact readText_take data bound start
  · exact seekText_take data bound start

theorem reading_bounded_stale :
    reading [0, 0, 0, 13, 0, 0, 0, 0, 0, 5, 0, 0x61, 0, 0x62, 0] (some 13) =
        reading [0, 0, 0, 13, 0, 0, 0, 0, 0, 5, 0, 0x61, 0] none ∧
      decode [0, 0, 0, 13, 0, 0, 0, 0, 0, 5, 0, 0x61, 0, 0x62, 0] (some 13) =
        decode [0, 0, 0, 13, 0, 0, 0, 0, 0, 5, 0, 0x61, 0] none ∧
      (parse [0, 0, 0, 13, 0, 0, 0, 0, 0, 5, 0, 0x61, 0, 0x62, 0] (some 13)).map (·.texts) =
        some [] ∧
      (parse [0, 0, 0, 13, 0, 0, 0, 0, 0, 5, 0, 0x61, 0, 0x62, 0] none).map (·.texts) =
        some ["b"] := by
  have alike := (reading_bounded [0, 0, 0, 13, 0, 0, 0, 0, 0, 5, 0, 0x61, 0] none).2.2.2.2
    [0, 0, 0, 13, 0, 0, 0, 0, 0, 5, 0, 0x61, 0, 0x62, 0] (some 13) rfl
  refine ⟨alike.1, alike.2.1, rfl, ?_⟩
  exact congrArg (fun text => some [text]) (Utf8.decode_encode "b")

end ChatLink.Frame
