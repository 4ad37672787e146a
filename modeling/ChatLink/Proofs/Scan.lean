import ChatLink.Proofs.Segments

namespace ChatLink.Frame

theorem Kind.limit_append_of_hasRoom {kind : Kind} {texts : List String} (text : String)
    (room : kind.hasRoom texts) : kind.limit (texts ++ [text]) = texts ++ [text] := by
  cases kind with
  | data | broadcast | key =>
    simp only [hasRoom, most?, Option.all_some, decide_eq_true_eq] at room
    apply List.take_of_length_le
    rwa [List.length_append, List.length_singleton]
  | secret | unknown => rfl

theorem Kind.limit_append_of_full {kind : Kind} {texts : List String} (more : List String)
    (full : ¬kind.hasRoom texts) (h : kind.limit texts = texts) :
    kind.limit (texts ++ more) = texts := by
  cases kind with
  | data | broadcast | key =>
    simp only [hasRoom, most?, Option.all_some, decide_eq_true_eq, Nat.not_lt] at full
    change List.take _ _ = _ at h
    change List.take _ _ = _
    rw [List.take_append_of_le_length full, h]
  | secret | unknown => exact absurd rfl full

theorem field?_eq_head? (room : Nat) (bytes : Bytes) :
    field? room bytes = (fields (bytes.take room)).head? := by
  induction bytes generalizing room with
  | nil => rw [field?_nil, List.take_nil, fields_nil, List.head?_nil]
  | cons b bytes ih =>
    cases room with
    | zero => rfl
    | succ room =>
      rw [List.take_succ_cons, field?, fields]
      split
      · rfl
      · rw [ih]
        cases fields (bytes.take room) <;> rfl

theorem readText_eq_head? (data : Bytes) (start : Int) (bound : Option Int) :
    readText data start bound =
      match (fields ((data.take (clamp data.length bound)).drop
        (position data.length start))).head? with
      | some field => (some (Utf8.decode field), position data.length start + field.length + 1)
      | none => (none, clamp data.length bound) := by
  rw [List.drop_take, ← field?_eq_head?]
  rfl

section Read

variable {data : Bytes} {bound start : Nat} {segment rest tail : Bytes} {segments : List Bytes}

theorem readText_eq (hs : start ≤ bound) (hb : bound ≤ data.length) :
    readText data start (some bound) =
      match (fields ((data.take bound).drop start)).head? with
      | some field => (some (Utf8.decode field), start + field.length + 1)
      | none => (none, bound) := by
  rw [readText_eq_head?, clamp_natCast, Nat.min_eq_left hb, position_natCast,
    Nat.min_eq_left (Nat.le_trans hs hb)]

theorem lt_of_drop (hb : bound ≤ data.length)
    (h : (data.take bound).drop start = segment ++ 0 :: rest) : start + segment.length < bound := by
  have length := congrArg List.length h
  rw [List.length_drop, List.length_take, List.length_append, List.length_cons] at length
  omega

theorem drop_next (h : (data.take bound).drop start = segment ++ 0 :: rest) :
    (data.take bound).drop (start + segment.length + 1) = rest := by
  rw [Nat.add_assoc, ← List.drop_drop, h, List.drop_length_add_append]
  rfl

/-- What is still to be read is what the segments behind `start` are, so that every turn takes the
first of them away. -/
theorem readTexts_eq {kind : Kind} {texts : List String} (hb : bound ≤ data.length)
    (h : Segments ((data.take bound).drop start) segments tail) (hs : start ≤ bound)
    (ht : kind.limit texts = texts) :
    readTexts data bound kind texts start =
      kind.limit (texts ++ segments.map Utf8.decode) := by
  -- The induction is on the segments, so the texts read so far and the position are generalised.
  generalize he : (data.take bound).drop start = bytes at h
  induction h generalizing start texts with
  | @tail tail free =>
    rw [readTexts, readText_eq hs hb, he, fields_eq_nil free]
    simp [ht]
  | @ended segment rest tail segments free more ih =>
    have inside := lt_of_drop hb he
    have text : readText data start (some bound) =
        (some (Utf8.decode segment), start + segment.length + 1) := by
      rw [readText_eq hs hb, he, fields_append free]
      rfl
    rw [readTexts]
    split
    · rename_i room
      split
      · rename_i absent
        rw [text] at absent
        cases absent
      · rename_i found
        rw [text] at found
        cases found
        rw [ih inside (Kind.limit_append_of_hasRoom _ room.2) (drop_next he), List.append_assoc]
        rfl
    · rename_i full
      have more : start < bound := Nat.lt_of_le_of_lt (Nat.le_add_right ..) inside
      rw [Kind.limit_append_of_full _ (fun room => full ⟨more, room⟩) ht]

theorem scan_eq_parse (data : Bytes) (bound : Option Int) : scan data bound = parse data bound := by
  obtain ⟨segments, tail, h⟩ :=
    Segments.exists_of ((data.take (clamp data.length bound)).drop headerSize)
  have within := clamp_le data.length bound
  rw [scan, parse]
  generalize clamp data.length bound = received at h within
  by_cases short : received < headerSize
  · rw [if_pos short, if_pos short]
  rw [if_neg short, if_neg short]
  have start := Nat.not_lt.mp short
  have empty (kind : Kind) : kind.limit [] = [] := by cases kind <;> rfl
  simp only [readText_eq start within, h.fields_eq]
  generalize he : (data.take received).drop headerSize = bytes at h
  cases h with
  | tail free =>
    simp only [List.head?_nil, List.map_nil, List.tail_nil, empty]
    rw [readTexts, if_neg (fun more => Nat.lt_irrefl _ more.1)]
  | ended free more =>
    simp only [List.head?_cons, List.map_cons, List.tail_cons]
    rw [readTexts_eq within (drop_next he ▸ more) (lt_of_drop within he) (empty _),
      List.nil_append]

end Read

end ChatLink.Frame
