import ChatLink.Proofs.Scan

namespace ChatLink

namespace Frame

section Header

variable {size time : Bytes} (hs : size.length = lengthSize) (ht : time.length = timeSize)
include hs ht

theorem drop_header (code : UInt8) (body : Bytes) :
    (size ++ (time ++ code :: body)).drop headerSize = body := by
  have header : headerSize = size.length + (time.length + 1) := by rw [hs, ht]; rfl
  rw [header, List.drop_length_add_append, List.drop_length_add_append]
  rfl

theorem getD_code (code : UInt8) (body : Bytes) :
    (size ++ (time ++ code :: body)).getD codeOffset 0 = code := by
  have offset : codeOffset = size.length + time.length := by rw [hs, ht]; rfl
  rw [← List.append_assoc, offset, ← List.length_append, List.getD_eq_getElem?_getD,
    List.getElem?_append_right (Nat.le_refl _), Nat.sub_self]
  rfl

end Header

structure Anatomy (received : Bytes) where
  size : Bytes
  time : Bytes
  code : UInt8
  body : Bytes
  segments : List Bytes
  tail : Bytes
  length_size : size.length = lengthSize
  length_time : time.length = timeSize
  split : Segments body segments tail
  eq : received = size ++ (time ++ code :: body)

/-- Messages have one text, keys one or two, and frames of other codes any number. -/
def textsOf {α : Type} (code : Nat) (texts : List α) : List α :=
  if code ≤ 1 then texts.take 1 else if code = 2 then texts.take 2 else texts

theorem limit_eq_textsOf (code : Nat) (texts : List String) :
    (Kind.ofCode code).limit texts = textsOf code texts := by
  match code with
  | 0 | 1 | 2 | 3 => rfl
  | n + 4 => simp [Kind.ofCode, Kind.limit, textsOf]

theorem map_textsOf (code : Nat) (segments : List Bytes) :
    (textsOf code segments).map Utf8.decode = textsOf code (segments.map Utf8.decode) := by
  simp only [textsOf, List.map_take, apply_ite (List.map Utf8.decode)]

theorem textsOf_subset {α : Type} (code : Nat) (texts : List α) : textsOf code texts ⊆ texts := by
  rw [textsOf]
  split
  · exact List.take_subset 1 texts
  · split
    · exact List.take_subset 2 texts
    · exact List.Subset.refl texts

namespace Anatomy

variable {received data : Bytes} {bound : Option Int}

def frame (a : Anatomy received) : Frame where
  length := a.size.toNat
  received := received.length
  time := a.time.toNat
  code := a.code.toNat
  peer := a.segments.head?.map Utf8.decode
  texts := (textsOf a.code.toNat a.segments.tail).map Utf8.decode

theorem nonempty (h : headerSize ≤ received.length) : Nonempty (Anatomy received) := by
  obtain ⟨segments, tail, split⟩ := Segments.exists_of (received.drop headerSize)
  have code : codeOffset < received.length := h
  refine ⟨received.take lengthSize, (received.drop lengthSize).take timeSize,
    received[codeOffset], received.drop headerSize, segments, tail, ?_, ?_, split, ?_⟩
  · rw [List.length_take]
    simp only [lengthSize, headerSize] at h ⊢
    omega
  · rw [List.length_take, List.length_drop]
    simp only [lengthSize, timeSize, headerSize] at h ⊢
    omega
  · have last := List.drop_eq_getElem_cons code
    have next := List.take_append_drop timeSize (received.drop lengthSize)
    rw [List.drop_drop] at next
    calc
      received = received.take lengthSize ++ received.drop lengthSize :=
        (List.take_append_drop ..).symm
      _ = received.take lengthSize ++ ((received.drop lengthSize).take timeSize ++
          received.drop codeOffset) := congrArg _ next.symm
      _ = _ := by rw [last]; rfl

theorem take_length (a : Anatomy received) : received.take lengthSize = a.size := by
  obtain ⟨size, time, code, body, segments, tail, hs, ht, split, rfl⟩ := a
  exact List.take_left' hs

theorem drop_eq (a : Anatomy received) : received.drop headerSize = a.body := by
  obtain ⟨size, time, code, body, segments, tail, hs, ht, split, rfl⟩ := a
  exact drop_header hs ht code body

theorem length_eq (a : Anatomy received) : received.length = headerSize + a.body.length := by
  have length := congrArg List.length a.eq
  rw [List.length_append, List.length_append, List.length_cons, a.length_size, a.length_time]
    at length
  simp only [length, lengthSize, timeSize, headerSize]
  omega

theorem parse_eq (a : Anatomy (data.take (clamp data.length bound))) :
    parse data bound = some a.frame := by
  have within := clamp_le data.length bound
  have count := a.length_eq
  rw [List.length_take, Nat.min_eq_left within] at count
  obtain ⟨size, time, code, body, segments, tail, hs, ht, split, eq⟩ := a
  change clamp data.length bound = headerSize + body.length at count
  simp only [parse, frame]
  generalize clamp data.length bound = received at within count eq ⊢
  have header : headerSize ≤ received := count ▸ Nat.le_add_right ..
  have whole := List.take_append_drop received data
  rw [eq, List.append_assoc, List.append_assoc, List.cons_append] at whole
  have readSize : readNumber lengthSize data 0 (some received) = size.toNat := by
    rw [← whole] at within ⊢
    exact readNumber_append received [] size _ hs (Nat.le_trans (by decide) header) within
  have readTime : readNumber timeSize data lengthSize (some received) = time.toNat := by
    have room : size.length + timeSize ≤ received := hs ▸ Nat.le_trans (by decide) header
    rw [← whole] at within ⊢
    rw [← hs]
    exact readNumber_append received size time _ ht room within
  have readCode : data.getD codeOffset 0 = code := by rw [← whole, getD_code hs ht]
  rw [if_neg (Nat.not_lt.mpr header), readSize, readTime, readCode]
  simp only [eq, drop_header hs ht, split.fields_eq, map_textsOf, limit_eq_textsOf, List.head?_map,
    List.map_tail]
  rw [← eq, List.length_take, Nat.min_eq_left within]

theorem exists_segment (a : Anatomy received) {text : String}
    (h : text ∈ a.frame.peer.toList ++ a.frame.texts) :
    ∃ segment ∈ a.segments, Utf8.decode segment = text := by
  rcases List.mem_append.mp h with first | later
  · obtain ⟨segment, head, read⟩ := Option.map_eq_some_iff.mp (Option.mem_toList.mp first)
    exact ⟨segment, List.mem_of_mem_head? head, read⟩
  · obtain ⟨segment, mem, read⟩ := List.mem_map.mp later
    exact ⟨segment, List.mem_of_mem_tail (textsOf_subset _ _ mem), read⟩

theorem parse_eq_of_take (a : Anatomy received)
    (h : data.take (clamp data.length bound) = received) : parse data bound = some a.frame := by
  subst h
  exact a.parse_eq

theorem unique (a b : Anatomy received) : a = b := by
  obtain ⟨size, time, code, body, segments, tail, hs, ht, split, eq⟩ := a
  obtain ⟨size', time', code', body', segments', tail', hs', ht', split', eq'⟩ := b
  obtain ⟨rfl, behind⟩ := List.append_inj (eq.symm.trans eq') (hs.trans hs'.symm)
  obtain ⟨rfl, last⟩ := List.append_inj behind (ht.trans ht'.symm)
  obtain ⟨rfl, rfl⟩ := List.cons.inj last
  obtain ⟨rfl, rfl⟩ := split.unique split'
  rfl

end Anatomy

theorem parse_eq_some_iff {data : Bytes} {bound : Option Int} {frame : Frame} :
    parse data bound = some frame ↔
      ∃ a : Anatomy (data.take (clamp data.length bound)), a.frame = frame := by
  constructor
  · intro h
    have enough : headerSize ≤ (data.take (clamp data.length bound)).length := by
      apply Nat.not_lt.mp
      intro short
      rw [List.length_take, Nat.min_eq_left (clamp_le ..)] at short
      rw [parse_eq_none_iff.mpr short] at h
      cases h
    obtain ⟨a⟩ := Anatomy.nonempty enough
    exact ⟨a, Option.some.inj (a.parse_eq.symm.trans h)⟩
  · rintro ⟨a, rfl⟩
    exact a.parse_eq

theorem parse_congr {data other : Bytes} {bound limit : Option Int}
    (h : other.take (clamp other.length limit) = data.take (clamp data.length bound)) :
    parse other limit = parse data bound := by
  apply Option.ext
  intro frame
  rw [parse_eq_some_iff, parse_eq_some_iff, h]

/-- The only ways out of parsing are too few bytes for a header and the frame made of the parts. -/
theorem parse_parts (data : Bytes) (bound : Option Int) :
    (parse data bound = none ↔ clamp data.length bound < headerSize) ∧
    (∀ frame, parse data bound = some frame ↔
      ∃ parts : Anatomy (data.take (clamp data.length bound)),
        (∀ others, others = parts) ∧ parts.frame = frame) ∧
    scan data bound = parse data bound := by
  refine ⟨parse_eq_none_iff, fun frame => ?_, scan_eq_parse data bound⟩
  rw [parse_eq_some_iff]
  constructor
  · rintro ⟨parts, made⟩
    exact ⟨parts, fun others => others.unique parts, made⟩
  · rintro ⟨parts, -, made⟩
    exact ⟨parts, made⟩

section Layout

variable (code : UInt8) {time : Nat} {parts : List Bytes} (tail : Bytes)
  (h : ∀ part ∈ parts, 0 ∉ part)

def Anatomy.ofLayout (time : Nat) : Anatomy (layout code time parts) where
  size := .ofNat lengthSize (sizeOf parts)
  time := .ofNat timeSize time
  code
  body := Frame.body parts
  segments := parts
  tail := []
  length_size := Bytes.length_ofNat ..
  length_time := Bytes.length_ofNat ..
  split := by
    have split := Segments.of_body h List.not_mem_nil
    rwa [List.append_nil] at split
  eq := by rw [layout, List.append_assoc]

include h in
theorem parse_layout (ht : time < 2 ^ 48) (hsize : sizeOf parts < 2 ^ 32) :
    parse (layout code time parts ++ tail) (some (sizeOf parts : Nat)) =
      some {
        length := sizeOf parts
        received := sizeOf parts
        time
        code := code.toNat
        peer := (parts.map Utf8.decode).head?
        texts := (Kind.ofCode code.toNat).limit (parts.map Utf8.decode).tail } := by
  have front : (layout code time parts ++ tail).take
      (clamp (layout code time parts ++ tail).length (some (sizeOf parts : Nat))) =
        layout code time parts := by
    rw [clamp_natCast, List.length_append, length_layout, Nat.min_eq_left (Nat.le_add_right ..),
      ← length_layout code time, List.take_left]
  have size : (Bytes.ofNat lengthSize (sizeOf parts)).toNat = sizeOf parts :=
    Bytes.toNat_ofNat_of_lt hsize
  have seconds : (Bytes.ofNat timeSize time).toNat = time := Bytes.toNat_ofNat_of_lt ht
  rw [(Anatomy.ofLayout code h time).parse_eq_of_take front]
  simp only [Anatomy.frame, Anatomy.ofLayout, size, seconds, length_layout, limit_eq_textsOf,
    List.head?_map, map_textsOf, List.map_tail]

end Layout

end Frame

end ChatLink
