import ChatLink.Proofs.RoundTrip
import ChatLink.Proofs.WellFormed
import Mathlib.Data.List.Induction

namespace ChatLink

namespace Bytes

theorem toNat_lt (bytes : Bytes) : toNat bytes < 256 ^ bytes.length := by
  induction bytes using List.reverseRecOn with
  | nil => exact Nat.one_pos
  | append_singleton bytes b ih =>
    have digit := b.toNat_lt
    rw [toNat_concat, List.length_append, List.length_singleton, Nat.pow_succ]
    omega

theorem ofNat_toNat (bytes : Bytes) : ofNat bytes.length (toNat bytes) = bytes := by
  induction bytes using List.reverseRecOn with
  | nil => rfl
  | append_singleton bytes b ih =>
    have digit := b.toNat_lt
    have quotient : (256 * toNat bytes + b.toNat) / 256 = toNat bytes := by omega
    have remainder : UInt8.ofNat (256 * toNat bytes + b.toNat) = b := by
      apply UInt8.toNat_inj.mp
      rw [UInt8.toNat_ofNat']
      omega
    rw [toNat_concat, List.length_append, List.length_singleton, ofNat, quotient, ih, remainder]

end Bytes

namespace Frame

structure Exact (received : Bytes) (parts : List Bytes) : Prop where
  length : Bytes.toNat (received.take lengthSize) = received.length
  body : received.drop headerSize = body parts
  noNul : ∀ part ∈ parts, 0 ∉ part
  wellFormed : ∀ part ∈ parts, Utf8.WellFormed part

theorem exact_layout (code : UInt8) (time : Nat) {texts : List String} (h : Fits texts) :
    Exact (layout code time (texts.map Utf8.encode)) (texts.map Utf8.encode) where
  length := by
    have size := Bytes.length_ofNat lengthSize (sizeOf (texts.map Utf8.encode))
    rw [length_layout, layout, List.append_assoc, List.take_left' size,
      Bytes.toNat_ofNat_of_lt h.size]
  body := by
    rw [layout, List.append_assoc, drop_header (Bytes.length_ofNat ..) (Bytes.length_ofNat ..)]
  noNul := h.parts
  wellFormed := by
    intro part written
    obtain ⟨text, -, rfl⟩ := List.mem_map.mp written
    exact Utf8.wellFormed_encode text

section Parts

variable {received : Bytes} {parts : List Bytes}

namespace Exact

theorem map_encode (h : Exact received parts) :
    (parts.map Utf8.decode).map Utf8.encode = parts := by
  rw [List.map_map]
  calc
    parts.map (Utf8.encode ∘ Utf8.decode) = parts.map id :=
      List.map_congr_left fun part mem => (h.wellFormed part mem).encode_decode
    _ = parts := List.map_id parts

theorem body_eq (h : Exact received parts) (a : Anatomy received) : a.body = Frame.body parts :=
  a.drop_eq.symm.trans h.body

theorem segments_eq (h : Exact received parts) (a : Anatomy received) : a.segments = parts := by
  have split := Segments.of_body h.noNul List.not_mem_nil
  rw [List.append_nil, ← h.body_eq a] at split
  exact (a.split.unique split).1

theorem layout_eq (h : Exact received parts) (a : Anatomy received) :
    layout a.code a.frame.time parts = received := by
  have size : Bytes.ofNat lengthSize (sizeOf parts) = a.size := by
    rw [sizeOf_eq, ← h.body_eq a, ← a.length_eq, ← h.length, a.take_length, ← a.length_size,
      Bytes.ofNat_toNat]
  have time : Bytes.ofNat timeSize a.frame.time = a.time := by
    rw [Anatomy.frame, ← a.length_time, Bytes.ofNat_toNat]
  rw [layout, size, time, ← h.body_eq a, List.append_assoc, ← a.eq]

end Exact

/-- Writing what was read gives back bytes that could have been written, and no others. -/
theorem layout_eq_iff (a : Anatomy received) {texts : List String} (h : Fits texts) :
    layout a.code a.frame.time (texts.map Utf8.encode) = received ↔
      ∃ parts, parts.map Utf8.decode = texts ∧ Exact received parts := by
  constructor
  · intro same
    refine ⟨texts.map Utf8.encode, ?_, ?_⟩
    · exact Utf8.map_decode_encode texts
    · conv => lhs; rw [← same]
      exact exact_layout _ _ h
  · rintro ⟨parts, rfl, exact⟩
    rw [exact.map_encode, exact.layout_eq a]

end Parts

theorem noNul_of_parse {data : Bytes} {bound : Option Int} {frame : Frame}
    (h : parse data bound = some frame) :
    ∀ text ∈ frame.peer.toList ++ frame.texts, '\x00' ∉ text.toList := by
  intro text mem
  obtain ⟨a, rfl⟩ := parse_eq_some_iff.mp h
  obtain ⟨segment, inside, rfl⟩ := a.exists_segment mem
  -- Ill-formed bytes are read as U+FFFD, so that none of them makes the character zero.
  exact Utf8.zero_not_mem_decode (a.split.zero_not_mem segment inside)

theorem Anatomy.time_lt {received : Bytes} (a : Anatomy received) : a.frame.time < 2 ^ 48 := by
  have most := Bytes.toNat_lt a.time
  rwa [a.length_time] at most

theorem eq_some_of_ofText? {given : Option String} {text : String}
    (h : Value.ofText? given = .text text) : given = some text := by
  cases given with
  | none => cases h
  | some _ => exact congrArg some (Value.text.inj h)

/-- A pass of reading and writing after which another one changes nothing. -/
structure Settles (rewrite : Bytes → Option Int → Option (Except EncodeError Bytes)) (data : Bytes)
    (bound : Option Int) (again : Bytes) : Prop where
  written : rewrite data bound = some (.ok again)
  event : (decode again none).1 = (decode data bound).1
  fixed : rewrite again none = some (.ok again)

def rewriteMessage (data : Bytes) (bound : Option Int) : Option (Except EncodeError Bytes) :=
  match (decode data bound).1 with
  | some (.message (.text peer) (.int timestamp) (.text text) (.bool broadcast)) =>
    some (writeMessage (.text peer) (.text text) broadcast (.int (timestamp / 1000)))
  | _ => none

section Message

variable {data : Bytes} {bound : Option Int} {peer text : String}

theorem rewriteMessage_eq {seconds : Nat} {broadcast : Bool}
    (h : (decode data bound).1 =
      some (.message (.text peer) (.int (1000 * seconds)) (.text text) (.bool broadcast)))
    (fits : Fits [peer, text]) (hmax : seconds < 2 ^ 48) :
    rewriteMessage data bound =
      some (.ok (layout (messageCode broadcast) seconds ([peer, text].map Utf8.encode))) := by
  have whole : (1000 * seconds : Int) / 1000 = seconds :=
    Int.mul_ediv_cancel_left _ (by decide)
  have written : messageFields (.text peer) (.text text) = .ok ([peer, text].map Utf8.encode) :=
    mapM_fieldBytes fits.noNul
  rw [rewriteMessage, h]
  simp only [whole]
  rw [writeMessage, written, ok_bind, encodeMessage_text _ fits (Value.toInt_int _) hmax]

theorem exact_iff_message {received : Bytes} (a : Anatomy received) (hp : a.frame.peer = some peer)
    (ht : a.frame.text? = some text) :
    (∃ parts, parts.map Utf8.decode = [peer, text] ∧ Exact received parts) ↔
      ∃ p t, Exact received [p, t] := by
  constructor
  · rintro ⟨parts, read, exact⟩
    obtain ⟨p, rest, rfl, -, read⟩ := List.map_eq_cons_iff.mp read
    obtain ⟨t, none, rfl, -, read⟩ := List.map_eq_cons_iff.mp read
    rw [List.map_eq_nil_iff.mp read] at exact
    exact ⟨p, t, exact⟩
  · rintro ⟨p, t, exact⟩
    have single : textsOf a.code.toNat [t] = [t] := by simp [textsOf]
    simp only [text?, Anatomy.frame, exact.segments_eq a, List.tail_cons, single] at hp ht
    cases hp
    cases ht
    exact ⟨[p, t], rfl, exact⟩

theorem settles_message {timestamp broadcast : Value}
    (h : (decode data bound).1 =
      some (.message (.text peer) timestamp (.text text) broadcast))
    (small : sizeOf ([peer, text].map Utf8.encode) < 2 ^ 32) :
    ∃ again, Settles rewriteMessage data bound again ∧
      (again = data.take (clamp data.length bound) ↔
        ∃ p t, Exact (data.take (clamp data.length bound)) [p, t]) := by
  obtain ⟨frame, parsed, event⟩ := exists_of_decode h
  have noNul := noNul_of_parse parsed
  obtain ⟨loud, code⟩ := exists_code_of_event? event
  rw [event?_of_code code, Option.some.injEq, Event.message.injEq] at event
  obtain ⟨hp, rfl, ht, rfl⟩ := event
  replace hp := eq_some_of_ofText? hp
  replace ht := eq_some_of_ofText? ht
  have fits : Fits [peer, text] := by
    refine ⟨List.forall_mem_cons.mpr ⟨?_, List.forall_mem_singleton.mpr ?_⟩, small⟩
    · exact noNul peer (List.mem_append_left _ (Option.mem_toList.mpr hp))
    · exact noNul text (List.mem_append_right _ (List.mem_of_mem_head? ht))
  obtain ⟨a, rfl⟩ := parse_eq_some_iff.mp parsed
  have read := congrArg Prod.fst (decode_message_alone loud fits a.time_lt)
  refine ⟨_, ⟨rewriteMessage_eq h fits a.time_lt, read.trans h.symm,
    rewriteMessage_eq read fits a.time_lt⟩, ?_⟩
  have same : messageCode loud = a.code := UInt8.toNat_inj.mp code.symm
  rw [same, layout_eq_iff a fits, exact_iff_message a hp ht]

end Message

def rewriteKey (data : Bytes) (bound : Option Int) : Option (Except EncodeError Bytes) :=
  match parse data bound with
  | some frame =>
    match frame.code, frame.peer, frame.texts with
    | 2, some peer, first :: rest =>
      some (encodeKey (.text peer) (.text first) (.ofText? rest.head?) (.int frame.time))
    | _, _, _ => none
  | none => none

section Key

variable {data : Bytes} {bound : Option Int} {frame : Frame} {peer first : String}
  {second : Option String}

theorem rewriteKey_eq (h : parse data bound = some frame) (code : frame.code = 2)
    (hp : frame.peer = some peer) (ht : frame.texts = first :: second.toList)
    (fits : Fits (peer :: secretsOf first second)) (hmax : frame.time < 2 ^ 48) :
    rewriteKey data bound =
      some (.ok (layout keyCode frame.time ((peer :: secretsOf first second).map Utf8.encode))) := by
  have rest : second.toList.head? = second := by cases second <;> rfl
  simp only [rewriteKey, h, code, hp, ht, rest]
  rw [encodeKey_text fits (Value.toInt_int _) hmax]

theorem exact_iff_key {received : Bytes} (a : Anatomy received) (code : a.frame.code = 2)
    (hp : a.frame.peer = some peer) (ht : a.frame.texts = first :: second.toList) :
    (∃ parts, parts.map Utf8.decode = peer :: secretsOf first second ∧ Exact received parts) ↔
      ∃ p s more, more.length ≤ 1 ∧ [] ∉ more ∧ Exact received (p :: s :: more) := by
  constructor
  · rintro ⟨parts, read, exact⟩
    obtain ⟨p, rest, rfl, -, read⟩ := List.map_eq_cons_iff.mp read
    obtain ⟨s, more, rfl, -, read⟩ := List.map_eq_cons_iff.mp read
    refine ⟨p, s, more, ?_, ?_, exact⟩
    · have most := length_secretsOf_le first second
      rw [secretsOf, ← read, List.length_cons, List.length_map] at most
      exact Nat.le_of_succ_le_succ most
    · intro empty
      have filtered : Utf8.decode [] ∈ more.map Utf8.decode := List.mem_map_of_mem empty
      rw [read, Utf8.decode_nil] at filtered
      simp at filtered
  · rintro ⟨p, s, more, most, nonempty, exact⟩
    have whole : textsOf 2 (s :: more) = s :: more :=
      List.take_of_length_le (Nat.succ_le_succ most)
    change a.code.toNat = 2 at code
    simp only [Anatomy.frame, exact.segments_eq a, code, List.tail_cons, whole] at hp ht
    obtain ⟨rfl, read⟩ := List.cons.inj ht
    cases hp
    -- No second secret is left out, since only no bytes are written for the empty text.
    have kept : second.toList.filter (· ≠ "") = second.toList := by
      apply List.filter_eq_self.mpr
      intro text mem
      obtain ⟨part, inside, rfl⟩ := List.mem_map.mp (read ▸ mem)
      have wellFormed := exact.wellFormed part (List.mem_cons_of_mem _ (List.mem_cons_of_mem _ inside))
      rw [decide_eq_true_iff]
      intro empty
      rw [← wellFormed.encode_decode, empty] at inside
      exact nonempty inside
    refine ⟨p :: s :: more, ?_, exact⟩
    rw [secretsOf, kept, ← read]
    rfl

theorem secretsOf_filter (first : String) (second : Option String) :
    secretsOf first (second.filter (· ≠ "")) = secretsOf first second := by
  rw [secretsOf, secretsOf, Option.toList_filter, List.filter_filter]
  simp only [Bool.and_self]

theorem settles_key (parsed : parse data bound = some frame) (code : frame.code = 2)
    (hp : frame.peer = some peer) (ht : frame.texts = first :: second.toList)
    (small : sizeOf ((peer :: secretsOf first second).map Utf8.encode) < 2 ^ 32) :
    ∃ again, Settles rewriteKey data bound again ∧
      parse again none = some {
        length := again.length
        received := again.length
        time := frame.time
        code := 2
        peer
        texts := secretsOf first second } ∧
      (again = data.take (clamp data.length bound) ↔
        ∃ p s more, more.length ≤ 1 ∧ [] ∉ more ∧
          Exact (data.take (clamp data.length bound)) (p :: s :: more)) := by
  have noNul := noNul_of_parse parsed
  rw [hp, ht] at noNul
  have fits : Fits (peer :: secretsOf first second) := by
    refine ⟨fun text mem => noNul text ?_, small⟩
    rw [secretsOf] at mem
    exact List.cons_subset_cons _ (List.cons_subset_cons _ (List.filter_subset_self _)) mem
  obtain ⟨a, rfl⟩ := parse_eq_some_iff.mp parsed
  obtain ⟨again, written⟩ :
      ∃ again, again = layout keyCode a.frame.time ((peer :: secretsOf first second).map Utf8.encode) :=
    ⟨_, rfl⟩
  have most : (secretsOf first second).take 2 = secretsOf first second :=
    List.take_of_length_le (length_secretsOf_le first second)
  have read : parse again none = some {
      length := again.length
      received := again.length
      time := a.frame.time
      code := 2
      peer
      texts := secretsOf first second } := by
    have parsed := parse_texts keyCode [] fits a.time_lt
    rw [List.append_nil, ← parse_unbounded, ← written] at parsed
    exact parsed.trans (congrArg some (congrArg _ most))
  refine ⟨again, ⟨?_, ?_, ?_⟩, read, ?_⟩
  · rw [written]
    exact rewriteKey_eq parsed code hp ht fits a.time_lt
  · rw [decode_of_parse read, decode_of_parse parsed]
    simp [event?, kind, code, hp, Kind.ofCode]
  · have filtered := secretsOf_filter first second
    have texts : secretsOf first second = first :: (second.filter (· ≠ "")).toList := by
      rw [Option.toList_filter, secretsOf]
    have same := rewriteKey_eq read rfl rfl texts (filtered.symm ▸ fits) a.time_lt
    rwa [filtered, ← written] at same
  · have same : keyCode = a.code := UInt8.toNat_inj.mp code.symm
    rw [written, same, layout_eq_iff a fits, exact_iff_key a code hp ht]

end Key

/-- One pass of reading and writing is as good as any more, whatever was received. -/
theorem rewriting_settles (data : Bytes) (bound : Option Int) :
    (∀ frame, parse data bound = some frame →
      ∀ text ∈ frame.peer.toList ++ frame.texts, '\x00' ∉ text.toList) ∧
    (∀ (peer text : String) (timestamp broadcast : Value),
      (decode data bound).1 = some (.message (.text peer) timestamp (.text text) broadcast) →
      sizeOf ([peer, text].map Utf8.encode) < 2 ^ 32 →
        ∃ again, Settles rewriteMessage data bound again ∧
          (again = data.take (clamp data.length bound) ↔
            ∃ p t, Exact (data.take (clamp data.length bound)) [p, t])) ∧
    ∀ (frame : Frame) (peer first : String) (second : Option String),
      parse data bound = some frame → frame.code = 2 → frame.peer = some peer →
      frame.texts = first :: second.toList →
      sizeOf ((peer :: secretsOf first second).map Utf8.encode) < 2 ^ 32 →
        ∃ again, Settles rewriteKey data bound again ∧
          parse again none = some {
            length := again.length
            received := again.length
            time := frame.time
            code := 2
            peer
            texts := secretsOf first second } ∧
          (again = data.take (clamp data.length bound) ↔
            ∃ p s more, more.length ≤ 1 ∧ [] ∉ more ∧
              Exact (data.take (clamp data.length bound)) (p :: s :: more)) := by
  refine ⟨fun frame => noNul_of_parse, ?_, ?_⟩
  · intro peer text timestamp broadcast event small
    exact settles_message event small
  · intro frame peer first second parsed code hp ht small
    exact settles_key parsed code hp ht small

theorem rewriting_settles_ill_formed :
    (∃ again, Settles rewriteMessage
        [0, 0, 0, 99, 0, 0, 0, 0, 0, 5, 0, 0x61, 0xFF, 0, 0xC3, 0] none again ∧
      (decode again none).1 =
        some (.message (.text "a\uFFFD") (.int 5000) (.text "\uFFFD") (.bool false)) ∧
      again ≠ [0, 0, 0, 99, 0, 0, 0, 0, 0, 5, 0, 0x61, 0xFF, 0, 0xC3, 0]) ∧
    ∃ again, Settles rewriteKey
        [0, 0, 0, 18, 0, 0, 0, 0, 0, 7, 2, 0x62, 0, 0xE2, 0x82, 0xAC, 0, 0] none again ∧
      again ≠ [0, 0, 0, 18, 0, 0, 0, 0, 0, 7, 2, 0x62, 0, 0xE2, 0x82, 0xAC, 0, 0] := by
  have event : (decode [0, 0, 0, 99, 0, 0, 0, 0, 0, 5, 0, 0x61, 0xFF, 0, 0xC3, 0] none).1 =
      some (.message (.text "a\uFFFD") (.int 5000) (.text "\uFFFD") (.bool false)) := by
    have peer : Utf8.decode [0x61, 0xFF] = "a\uFFFD" := by
      simp [Utf8.decode, Utf8.read, Utf8.lead?, Utf8.follow]
    have text : Utf8.decode [0xC3] = "\uFFFD" := by
      simp [Utf8.decode, Utf8.read, Utf8.lead?, Utf8.follow]
    rw [← peer, ← text]
    rfl
  have parsed : parse [0, 0, 0, 18, 0, 0, 0, 0, 0, 7, 2, 0x62, 0, 0xE2, 0x82, 0xAC, 0, 0] none =
      some { length := 18, received := 18, time := 7, code := 2, peer := some "b",
             texts := ["€", ""] } := by
    rw [← Utf8.decode_encode "b", ← Utf8.decode_encode "€", ← Utf8.decode_encode ""]
    rfl
  constructor
  · obtain ⟨again, settles, same⟩ := (rewriting_settles _ _).2.1 _ _ _ _ event (by decide)
    refine ⟨again, settles, settles.event.trans event, fun equal => ?_⟩
    obtain ⟨p, t, exact⟩ := same.mp equal
    exact absurd exact.length (by decide)
  · obtain ⟨again, settles, read, -⟩ :=
      (rewriting_settles _ _).2.2 _ "b" "€" (some "") parsed rfl rfl rfl (by decide)
    refine ⟨again, settles, fun equal => ?_⟩
    rw [equal, parsed] at read
    cases read

end Frame

end ChatLink
