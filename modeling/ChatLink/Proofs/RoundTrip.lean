import ChatLink.Notice
import ChatLink.Proofs.Anatomy

namespace ChatLink.Frame

structure Fits (texts : List String) : Prop where
  noNul : ∀ text ∈ texts, '\x00' ∉ text.toList
  size : sizeOf (texts.map Utf8.encode) < 2 ^ 32

instance (texts : List String) : Decidable (Fits texts) :=
  decidable_of_iff (_ ∧ _) ⟨fun h => ⟨h.1, h.2⟩, fun h => ⟨h.noNul, h.size⟩⟩

theorem Fits.parts {texts : List String} (h : Fits texts) :
    ∀ part ∈ texts.map Utf8.encode, 0 ∉ part := by
  intro part hp
  obtain ⟨text, ht, rfl⟩ := List.mem_map.mp hp
  exact Utf8.zero_not_mem_encode (h.noNul text ht)

theorem mapM_fieldBytes {texts : List String} (h : ∀ text ∈ texts, '\x00' ∉ text.toList) :
    (texts.map Value.text).mapM fieldBytes = .ok (texts.map Utf8.encode) := by
  induction texts with
  | nil => rfl
  | cons text texts ih =>
    rw [List.forall_mem_cons] at h
    rw [List.map_cons, List.mapM_cons, fieldBytes_text h.1, ok_bind, ih h.2]
    rfl

theorem parse_texts (code : UInt8) {time : Nat} {texts : List String} (tail : Bytes)
    (h : Fits texts) (ht : time < 2 ^ 48) :
    parse (layout code time (texts.map Utf8.encode) ++ tail)
        (some (layout code time (texts.map Utf8.encode)).length) =
      some {
        length := (layout code time (texts.map Utf8.encode)).length
        received := (layout code time (texts.map Utf8.encode)).length
        time
        code := code.toNat
        peer := texts.head?
        texts := (Kind.ofCode code.toNat).limit texts.tail } := by
  rw [length_layout, parse_layout code tail h.parts ht h.size, Utf8.map_decode_encode]

theorem parse_unbounded (data : Bytes) : parse data none = parse data (some data.length) := by
  apply parse_congr
  rw [clamp_none, clamp_natCast, Nat.min_self]

theorem parse_layout_alone (code : UInt8) {time : Nat} {parts : List Bytes}
    (h : ∀ part ∈ parts, 0 ∉ part) (ht : time < 2 ^ 48) (hsize : sizeOf parts < 2 ^ 32) :
    parse (layout code time parts) none =
      some {
        length := sizeOf parts
        received := sizeOf parts
        time
        code := code.toNat
        peer := (parts.map Utf8.decode).head?
        texts := (Kind.ofCode code.toNat).limit (parts.map Utf8.decode).tail } := by
  have parsed := parse_layout code [] h ht hsize
  rw [List.append_nil] at parsed
  rw [parse_unbounded, length_layout]
  exact parsed

theorem decode_unbounded (data : Bytes) : decode data none = decode data (some data.length) := by
  rw [decode, decode, parse_unbounded]

def messageCode (broadcast : Bool) : UInt8 := if broadcast then broadcastCode else dataCode

def writeMessage (peer text : Value) (broadcast : Bool) (time : Value) :
    Except EncodeError Bytes := do
  encodeMessage (← messageFields peer text) broadcast time

theorem decode_of_parse {data : Bytes} {bound : Option Int} {frame : Frame}
    (h : parse data bound = some frame) : (decode data bound).1 = frame.event? := by
  rw [decode, h]

theorem exists_of_decode {data : Bytes} {bound : Option Int} {event : Event}
    (h : (decode data bound).1 = some event) :
    ∃ frame, parse data bound = some frame ∧ frame.event? = some event := by
  rw [decode] at h
  cases parsed : parse data bound with
  | none =>
    rw [parsed] at h
    cases h
  | some frame =>
    rw [parsed] at h
    exact ⟨frame, rfl, h⟩

theorem event?_of_code {frame : Frame} {broadcast : Bool}
    (h : frame.code = (messageCode broadcast).toNat) :
    frame.event? = some (.message (.ofText? frame.peer) (.int (1000 * frame.time))
      (.ofText? frame.text?) (.bool broadcast)) := by
  cases broadcast <;> simp [event?, kind, h, messageCode, Int.mul_comm]

theorem exists_code_of_event? {frame : Frame} {peer timestamp text broadcast : Value}
    (h : frame.event? = some (.message peer timestamp text broadcast)) :
    ∃ loud, frame.code = (messageCode loud).toNat := by
  match code : frame.code with
  | 0 => exact ⟨false, rfl⟩
  | 1 => exact ⟨true, rfl⟩
  | 2 | 3 | n + 4 => simp [event?, kind, code, Kind.ofCode] at h

section Message

variable {peer text : String} {seconds : Nat}

theorem encodeMessage_text {time : Value} (broadcast : Bool) (h : Fits [peer, text])
    (ht : time.toInt = .ok (seconds : Int)) (hmax : seconds < 2 ^ 48) :
    encodeMessage ([peer, text].map Utf8.encode) broadcast time =
      .ok (layout (messageCode broadcast) seconds ([peer, text].map Utf8.encode)) :=
  build_eq h.parts ht hmax h.size

theorem decode_message (broadcast : Bool) (tail : Bytes) (h : Fits [peer, text])
    (hmax : seconds < 2 ^ 48) :
    decode (layout (messageCode broadcast) seconds ([peer, text].map Utf8.encode) ++ tail)
        (some (layout (messageCode broadcast) seconds ([peer, text].map Utf8.encode)).length) =
      (some (.message (.text peer) (.int (1000 * seconds)) (.text text) (.bool broadcast)),
        [.messageFrom (.text peer)]) := by
  rw [decode, parse_texts _ tail h hmax]
  cases broadcast <;>
    simp [messageCode, event?, kind, text?, Value.ofText?, readingNotices, eventNotice, Kind.limit,
      Int.mul_comm]

theorem decode_message_alone (broadcast : Bool) (h : Fits [peer, text]) (hmax : seconds < 2 ^ 48) :
    decode (layout (messageCode broadcast) seconds ([peer, text].map Utf8.encode)) none =
      (some (.message (.text peer) (.int (1000 * seconds)) (.text text) (.bool broadcast)),
        [.messageFrom (.text peer)]) := by
  have decoded := decode_message broadcast [] h hmax
  rwa [List.append_nil, ← decode_unbounded] at decoded

/-- What is read back is what was written: the peer, the text, the kind of message, and the time cut
off to whole seconds. -/
theorem message_round_trip (broadcast time : Value) (h : Fits [peer, text])
    (ht : time.toInt = .ok (seconds : Int)) (hmax : seconds < 2 ^ 48) :
    ∃ frame, writeMessage (.text peer) (.text text) broadcast.isTrue time = .ok frame ∧
      ∀ tail : Bytes,
        parse (frame ++ tail) (some frame.length) =
          some {
            length := frame.length
            received := frame.length
            time := seconds
            code := if broadcast.isTrue then 1 else 0
            peer
            texts := [text] } ∧
        (decode (frame ++ tail) (some frame.length)).1 =
          some (.message (.text peer) (.int (1000 * seconds)) (.text text)
            (.bool broadcast.isTrue)) ∧
        ∀ notice ∈ (decode (frame ++ tail) (some frame.length)).2, notice.level ≠ .warning := by
  have written : messageFields (.text peer) (.text text) = .ok ([peer, text].map Utf8.encode) :=
    mapM_fieldBytes h.noNul
  refine ⟨layout (messageCode broadcast.isTrue) seconds ([peer, text].map Utf8.encode), ?_, ?_⟩
  · rw [writeMessage, written, ok_bind, encodeMessage_text _ h ht hmax]
  · intro tail
    rw [decode_message _ tail h hmax, parse_texts _ tail h hmax]
    refine ⟨?_, rfl, ?_⟩
    · cases broadcast.isTrue <;> rfl
    · simp [Notice.level]

theorem message_round_trip_multibyte :
    Fits ["", "é€😀"] ∧
      (Value.real (.ofDecimal false 170000000025 (-2))).toInt = .ok (1700000000 : Nat) ∧
      ∃ frame, writeMessage (.text "") (.text "é€😀") true
          (.real (.ofDecimal false 170000000025 (-2))) = .ok frame ∧
        ∀ tail : Bytes, (decode (frame ++ tail) (some frame.length)).1 =
          some (.message (.text "") (.int 1700000000000) (.text "é€😀") (.bool true)) := by
  have fits : Fits ["", "é€😀"] := by decide
  have whole :
      (Value.real (.ofDecimal false 170000000025 (-2))).toInt = .ok (1700000000 : Nat) := rfl
  obtain ⟨frame, written, read⟩ := message_round_trip (.bool true) _ fits whole (by decide)
  exact ⟨fits, whole, frame, written, fun tail => (read tail).2.1⟩

end Message

/-- An empty second secret is as good as none, while an empty first one is a secret. -/
def secretsOf (first : String) (second : Option String) : List String :=
  first :: second.toList.filter (· ≠ "")

theorem length_secretsOf_le (first : String) (second : Option String) :
    (secretsOf first second).length ≤ 2 := by
  have atMost : (second.toList.filter (· ≠ "")).length ≤ second.toList.length :=
    List.length_filter_le ..
  rw [secretsOf, List.length_cons]
  cases second with
  | none => exact Nat.le_succ_of_le (Nat.succ_le_succ atMost)
  | some second => exact Nat.succ_le_succ atMost

section Key

variable {peer first : String} {second : Option String} {hops : Value} {limit : Nat}

theorem encodeKey_text (h : Fits (peer :: secretsOf first second))
    (hhops : hops.toInt = .ok (limit : Int)) (hmax : limit < 2 ^ 48) :
    encodeKey (.text peer) (.text first) (.ofText? second) hops =
      .ok (layout keyCode limit ((peer :: secretsOf first second).map Utf8.encode)) := by
  have values : [Value.text peer, .text first] ++
      (if (Value.ofText? second).isTrue then [.ofText? second] else []) =
        (peer :: secretsOf first second).map .text := by
    cases second with
    | none => rfl
    | some second =>
      by_cases empty : second = ""
      · subst empty
        rfl
      · simp [Value.ofText?, Value.isTrue, secretsOf, empty]
  rw [encodeKey, values, mapM_fieldBytes h.noNul, ok_bind]
  exact build_eq h.parts hhops hmax h.size

theorem decode_key (tail : Bytes) (h : Fits (peer :: secretsOf first second))
    (hmax : limit < 2 ^ 48) :
    decode (layout keyCode limit ((peer :: secretsOf first second).map Utf8.encode) ++ tail)
        (some (layout keyCode limit ((peer :: secretsOf first second).map Utf8.encode)).length) =
      (some (.keyOffer (.text peer)), [.keyFrom (.text peer)]) := by
  rw [decode, parse_texts _ tail h hmax]
  simp [event?, kind, Value.ofText?, readingNotices, eventNotice]

theorem decode_key_alone (h : Fits (peer :: secretsOf first second)) (hmax : limit < 2 ^ 48) :
    decode (layout keyCode limit ((peer :: secretsOf first second).map Utf8.encode)) none =
      (some (.keyOffer (.text peer)), [.keyFrom (.text peer)]) := by
  have decoded := decode_key [] h hmax
  rwa [List.append_nil, ← decode_unbounded] at decoded

/-- The secrets of a request for keys come back one by one, so that the second is never taken for
the first. -/
theorem key_round_trip (h : Fits (peer :: secretsOf first second))
    (hhops : hops.toInt = .ok (limit : Int)) (hmax : limit < 2 ^ 48) :
    ∃ bytes, encodeKey (.text peer) (.text first) (.ofText? second) hops = .ok bytes ∧
      ∀ tail : Bytes,
        (∃ frame, parse (bytes ++ tail) (some bytes.length) = some frame ∧
          frame.kind = .key ∧ frame.code = 2 ∧ frame.length = bytes.length ∧
          frame.received = bytes.length ∧ frame.time = limit ∧ frame.peer = some peer ∧
          frame.secrets = secretsOf first second) ∧
        (decode (bytes ++ tail) (some bytes.length)).1 = some (.keyOffer (.text peer)) ∧
        ∀ notice ∈ (decode (bytes ++ tail) (some bytes.length)).2, notice.level ≠ .warning := by
  refine ⟨_, encodeKey_text h hhops hmax, fun tail => ⟨⟨_, parse_texts _ tail h hmax, rfl, rfl, rfl,
    rfl, rfl, rfl, ?_⟩, ?_, ?_⟩⟩
  · exact List.take_of_length_le (length_secretsOf_le first second)
  · rw [decode_key tail h hmax]
  · rw [decode_key tail h hmax]
    simp [Notice.level]

theorem key_round_trip_empty_first :
    Fits ("bob" :: secretsOf "" (some "xyz")) ∧ (Value.int 5).toInt = .ok (5 : Nat) ∧
      ∃ bytes, encodeKey (.text "bob") (.text "") (.text "xyz") (.int 5) = .ok bytes ∧
        ∀ tail : Bytes, ∃ frame, parse (bytes ++ tail) (some bytes.length) = some frame ∧
          frame.secrets = ["", "xyz"] := by
  have fits : Fits ("bob" :: secretsOf "" (some "xyz")) := by decide
  have whole : (Value.int 5).toInt = .ok (5 : Nat) := rfl
  obtain ⟨bytes, written, read⟩ := key_round_trip fits whole (by decide)
  refine ⟨fits, whole, bytes, written, fun tail => ?_⟩
  obtain ⟨⟨frame, parsed, _, _, _, _, _, _, secrets⟩, _⟩ := read tail
  exact ⟨frame, parsed, secrets⟩

end Key

end ChatLink.Frame
