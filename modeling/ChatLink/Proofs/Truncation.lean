import ChatLink.Proofs.Written
import Mathlib.Data.List.Infix

namespace ChatLink.Frame

structure Shortens (cut whole : Frame) : Prop where
  length : cut.length = whole.length
  time : cut.time = whole.time
  code : cut.code = whole.code
  peer : cut.peer = none ∨ cut.peer = whole.peer
  texts : cut.texts <+: whole.texts
  silent : cut.peer = none → cut.texts = []

theorem prefix_tail {α : Type} {fewer all : List α} (h : fewer <+: all) :
    fewer.tail <+: all.tail := by
  rw [← List.drop_one, ← List.drop_one]
  exact h.drop 1

theorem prefix_textsOf {α : Type} {fewer all : List α} (code : Nat) (h : fewer <+: all) :
    textsOf code fewer <+: textsOf code all := by
  rw [textsOf, textsOf]
  split
  · exact h.take 1
  · split
    · exact h.take 2
    · exact h

namespace Anatomy

variable {received data : Bytes} {bound : Option Int}

theorem exists_cut (a : Anatomy received) {k : Nat} (h : headerSize ≤ k) :
    ∃ b : Anatomy (received.take k), b.size = a.size ∧ b.time = a.time ∧ b.code = a.code ∧
      b.segments <+: a.segments ∧
      (a.tail = [] → k < received.length → b.segments.length < a.segments.length) := by
  obtain ⟨size, time, code, body, segments, tail, hs, ht, split, rfl⟩ := a
  obtain ⟨fewer, rest, cut, pre⟩ := split.take (k - headerSize)
  have header : k = size.length + (time.length + (k - headerSize + 1)) := by
    rw [hs, ht]
    simp only [lengthSize, timeSize, headerSize] at h ⊢
    omega
  have eq : (size ++ (time ++ code :: body)).take k =
      size ++ (time ++ code :: body.take (k - headerSize)) := by
    conv => lhs; rw [header]
    rw [List.take_length_add_append, List.take_length_add_append, List.take_succ_cons]
  refine ⟨⟨size, time, code, _, fewer, rest, hs, ht, cut, eq⟩, rfl, rfl, rfl, pre, ?_⟩
  intro whole short
  cases whole
  apply split.length_lt cut pre
  rw [List.length_append, List.length_append, List.length_cons] at short
  omega

theorem shortens {cut : Bytes} {b : Anatomy cut} {a : Anatomy received} (size : b.size = a.size)
    (time : b.time = a.time) (code : b.code = a.code) (pre : b.segments <+: a.segments) :
    Shortens b.frame a.frame where
  length := congrArg Bytes.toNat size
  time := congrArg Bytes.toNat time
  code := congrArg UInt8.toNat code
  peer := by
    simp only [frame]
    cases first : b.segments with
    | nil => exact .inl rfl
    | cons segment fewer =>
      rw [first] at pre
      obtain ⟨rest, all⟩ := pre
      rw [← all]
      exact .inr rfl
  texts := by
    simp only [frame, code]
    exact (prefix_textsOf _ (prefix_tail pre)).map _
  silent := by
    simp only [frame]
    intro none
    rw [Option.map_eq_none_iff, List.head?_eq_none_iff] at none
    rw [none, textsOf]
    simp

end Anatomy

def ReadsAs (value : Value) (text : String) : Prop :=
  ∃ part, Writes value part ∧ Utf8.decode part = text

theorem ReadsAs.eq_of_text {s text : String} (h : ReadsAs (.text s) text) : text = s := by
  obtain ⟨part, writes, rfl⟩ := h
  obtain rfl := writes.eq_encode
  exact Utf8.decode_encode s

section Written

variable {code : UInt8} {n m : Nat} {parts : List Bytes}

theorem exists_cut_layout (h : ∀ part ∈ parts, 0 ∉ part) (hn : n < 2 ^ 48) (header : headerSize ≤ m)
    (short : m < (layout code n parts).length) :
    ∃ fewer, fewer <+: parts ∧ fewer.length < parts.length ∧
      ∃ cut, parse ((layout code n parts).take m) none = some cut ∧ cut.time = n ∧
        cut.code = code.toNat ∧ cut.peer = fewer.head?.map Utf8.decode ∧
        cut.texts = (textsOf code.toNat fewer.tail).map Utf8.decode := by
  obtain ⟨b, -, time, hcode, pre, fewer⟩ := (Anatomy.ofLayout code h n).exists_cut header
  refine ⟨b.segments, pre, fewer rfl short, b.frame, b.parse_eq_of_take ?_, ?_, ?_, rfl, ?_⟩
  · rw [clamp_none, List.take_length]
  · rw [Anatomy.frame, time]
    exact Bytes.toNat_ofNat_of_lt hn
  · exact congrArg UInt8.toNat hcode
  · rw [Anatomy.frame, hcode]
    rfl

end Written

theorem shortens_of_le {data : Bytes} {k k' : Nat} (header : headerSize ≤ k) (hk : k ≤ k')
    (within : k' ≤ data.length) :
    ∃ cut whole, parse data (some k) = some cut ∧ parse data (some k') = some whole ∧
      Shortens cut whole := by
  have bounded {m : Nat} (h : m ≤ data.length) :
      data.take (clamp data.length (some (m : Nat))) = data.take m := by
    rw [clamp_natCast, Nat.min_eq_left h]
  have enough : headerSize ≤ (data.take k').length := by
    rw [List.length_take, Nat.min_eq_left within]
    exact Nat.le_trans header hk
  obtain ⟨a⟩ := Anatomy.nonempty enough
  obtain ⟨b, size, time, code, pre, -⟩ := a.exists_cut header
  have front : data.take (clamp data.length (some (k : Nat))) = (data.take k').take k := by
    rw [bounded (Nat.le_trans hk within), List.take_take, Nat.min_eq_left hk]
  exact ⟨b.frame, a.frame, b.parse_eq_of_take front, a.parse_eq_of_take (bounded within),
    Anatomy.shortens size time code pre⟩

/-- Of a message, the peer alone is left, or nothing: the text is whole only at the end. -/
theorem decode_cut_message {peer text time : Value} {broadcast : Bool} {frame : Bytes} {m : Nat}
    (h : writeMessage peer text broadcast time = .ok frame) (short : m < frame.length) :
    (m < headerSize → (decode (frame.take m) none).1 = none) ∧
    (headerSize ≤ m → ∃ (name : String) (seconds : Nat) (left : Option String),
      ReadsAs peer name ∧ time.toInt = .ok (seconds : Int) ∧ (left = none ∨ left = some name) ∧
      (decode (frame.take m) none).1 =
        some (.message (.ofText? left) (.int (1000 * seconds)) .null (.bool broadcast))) := by
  obtain ⟨p, t, n, hp, ht, hn, most, -, rfl⟩ := layout_of_writeMessage h
  constructor
  · intro less
    have none : parse ((layout (messageCode broadcast) n [p, t]).take m) none = none := by
      rw [parse_eq_none_iff, clamp_none, List.length_take]
      omega
    rw [decode, none]
  · intro header
    have free : ∀ part ∈ [p, t], 0 ∉ part :=
      zero_not_mem_of_writes (.cons hp (.cons ht .nil))
    obtain ⟨fewer, pre, less, cut, parsed, seconds, code, name, texts⟩ :=
      exists_cut_layout free most header short
    have left : fewer = [] ∨ fewer = [p] := by
      rcases List.prefix_cons_iff.mp pre with none | ⟨rest, rfl, pre⟩
      · exact .inl none
      · rw [List.length_cons, List.length_cons, List.length_singleton] at less
        rw [List.eq_nil_of_length_eq_zero (by omega : rest.length = 0)]
        exact .inr rfl
    have text : cut.text? = none := by
      rw [text?, texts]
      obtain rfl | rfl := left <;> simp [textsOf]
    refine ⟨Utf8.decode p, n, cut.peer, ⟨p, hp, rfl⟩, hn, ?_, ?_⟩
    · rw [name]
      obtain rfl | rfl := left
      · exact .inl rfl
      · exact .inr rfl
    · rw [decode_of_parse parsed, event?_of_code code, text, seconds]
      rfl

theorem secrets_cut_key {peer first second hops : Value} {frame : Bytes} {m : Nat}
    (h : encodeKey peer first second hops = .ok frame) (header : headerSize ≤ m)
    (short : m < frame.length) :
    ∃ secrets cut,
      List.Forall₂ ReadsAs (first :: if second.isTrue then [second] else []) secrets ∧
      parse (frame.take m) none = some cut ∧ cut.secrets <+: secrets := by
  obtain ⟨parts, n, written, -, most, -, rfl⟩ := layout_of_encodeKey h
  obtain ⟨fewer, pre, -, cut, parsed, -, code, -, texts⟩ :=
    exists_cut_layout (zero_not_mem_of_writes written) most header short
  cases written with
  | @cons _ p _ others hp secrets =>
    refine ⟨others.map Utf8.decode, cut, ?_, parsed, ?_⟩
    · rw [List.forall₂_map_right_iff]
      exact secrets.imp fun value part writes => ⟨part, writes, rfl⟩
    · have key : cut.kind = .key := by
        rw [kind, code]
        rfl
      rw [Frame.secrets, if_pos key, texts]
      exact ((List.take_prefix 2 _).trans (prefix_tail pre)).map _

/-- A receive buffer that is too small loses fields, and never a part of one. -/
theorem truncation :
    (∀ (data : Bytes) (k k' : Nat), headerSize ≤ k → k ≤ k' → k' ≤ data.length →
      ∃ cut whole, parse data (some k) = some cut ∧ parse data (some k') = some whole ∧
        Shortens cut whole) ∧
    (∀ (peer text time : Value) (broadcast : Bool) (frame : Bytes) (m : Nat),
      writeMessage peer text broadcast time = .ok frame → m < frame.length →
        (m < headerSize → (decode (frame.take m) none).1 = none) ∧
        (headerSize ≤ m → ∃ (name : String) (seconds : Nat) (left : Option String),
          ReadsAs peer name ∧ time.toInt = .ok (seconds : Int) ∧
          (left = none ∨ left = some name) ∧
          (decode (frame.take m) none).1 =
            some (.message (.ofText? left) (.int (1000 * seconds)) .null (.bool broadcast)))) ∧
    ∀ (peer first second hops : Value) (frame : Bytes) (m : Nat),
      encodeKey peer first second hops = .ok frame → headerSize ≤ m → m < frame.length →
        ∃ secrets cut,
          List.Forall₂ ReadsAs (first :: if second.isTrue then [second] else []) secrets ∧
          parse (frame.take m) none = some cut ∧ cut.secrets <+: secrets := by
  refine ⟨?_, ?_, ?_⟩
  · intro data k k' header hk within
    exact shortens_of_le header hk within
  · intro peer text time broadcast frame m written short
    exact decode_cut_message written short
  · intro peer first second hops frame m written header short
    exact secrets_cut_key written header short

/-- The cuts at 12 and at 15 fall inside a character. -/
theorem truncation_multibyte :
    ∃ message key,
      writeMessage (.text "é") (.text "€") false (.int 5) = .ok message ∧ message.length = 18 ∧
      encodeKey (.text "bob") (.text "é") (.text "€") (.int 7) = .ok key ∧ key.length = 22 ∧
      (∃ cut whole, parse message (some 12) = some cut ∧ parse message (some 15) = some whole ∧
        Shortens cut whole) ∧
      (decode (message.take 10) none).1 = none ∧
      (∃ left, (left = none ∨ left = some "é") ∧
        (decode (message.take 15) none).1 =
          some (.message (.ofText? left) (.int 5000) .null (.bool false))) ∧
      ∃ cut, parse (key.take 20) none = some cut ∧ cut.secrets <+: ["é", "€"] := by
  obtain ⟨message, written⟩ :
      ∃ frame, writeMessage (.text "é") (.text "€") false (.int 5) = .ok frame := ⟨_, rfl⟩
  obtain ⟨key, offered⟩ :
      ∃ frame, encodeKey (.text "bob") (.text "é") (.text "€") (.int 7) = .ok frame := ⟨_, rfl⟩
  have size : message.length = 18 := by
    cases written
    rfl
  have room : key.length = 22 := by
    cases offered
    rfl
  obtain ⟨shorter, cutMessage, cutKey⟩ := truncation
  obtain ⟨-, heard⟩ := cutMessage _ _ _ _ _ 15 written (by omega)
  obtain ⟨name, seconds, left, read, time, whole, event⟩ := heard (by decide)
  obtain rfl := read.eq_of_text
  cases time
  obtain ⟨secrets, cut, readings, parsed, pre⟩ := cutKey _ _ _ _ _ 20 offered (by decide) (by omega)
  obtain ⟨⟩ | ⟨first, ⟨⟩ | ⟨second, ⟨⟩⟩⟩ := readings
  obtain rfl := first.eq_of_text
  obtain rfl := second.eq_of_text
  refine ⟨message, key, written, size, offered, room, ?_, ?_, ⟨left, whole, event⟩, cut, parsed, pre⟩
  · exact shorter message 12 15 (by decide) (by decide) (by omega)
  · exact (cutMessage _ _ _ _ _ 10 written (by omega)).1 (by decide)

end ChatLink.Frame
