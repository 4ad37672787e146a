import ChatLink.Proofs.Layout

namespace ChatLink.Frame

inductive Segments : Bytes → List Bytes → Bytes → Prop
  | tail {tail : Bytes} (h : 0 ∉ tail) : Segments tail [] tail
  | ended {segment rest tail : Bytes} {segments : List Bytes} (h : 0 ∉ segment)
      (more : Segments rest segments tail) :
      Segments (segment ++ 0 :: rest) (segment :: segments) tail

theorem body_cons_append (part : Bytes) (parts : List Bytes) (tail : Bytes) :
    body (part :: parts) ++ tail = part ++ 0 :: (body parts ++ tail) := by
  change part ++ [0] ++ body parts ++ tail = _
  simp only [List.append_assoc, List.cons_append, List.nil_append]

namespace Segments

variable {bytes tail : Bytes} {segments : List Bytes}

theorem body_append {front : List Bytes} (h : ∀ segment ∈ front, 0 ∉ segment)
    (more : Segments bytes segments tail) :
    Segments (body front ++ bytes) (front ++ segments) tail := by
  induction front with
  | nil => exact more
  | cons segment front ih =>
    rw [List.forall_mem_cons] at h
    rw [body_cons_append]
    exact .ended h.1 (ih h.2)

theorem of_body (h : ∀ segment ∈ segments, 0 ∉ segment) (ht : 0 ∉ tail) :
    Segments (body segments ++ tail) segments tail := by
  simpa using body_append h (.tail ht)

theorem eq_body (h : Segments bytes segments tail) : bytes = body segments ++ tail := by
  induction h with
  | tail h => rfl
  | ended h more ih => rw [body_cons_append, ← ih]

theorem zero_not_mem (h : Segments bytes segments tail) : ∀ segment ∈ segments, 0 ∉ segment := by
  induction h with
  | tail h => exact List.forall_mem_nil _
  | ended h more ih => exact List.forall_mem_cons.mpr ⟨h, ih⟩

theorem fields_eq (h : Segments bytes segments tail) : fields bytes = segments := by
  induction h with
  | tail h => exact fields_eq_nil h
  | ended h more ih => rw [fields_append h, ih]

theorem unique {others : List Bytes} {other : Bytes} (h : Segments bytes segments tail)
    (k : Segments bytes others other) : segments = others ∧ tail = other := by
  obtain rfl : segments = others := h.fields_eq.symm.trans k.fields_eq
  exact ⟨rfl, List.append_cancel_left (h.eq_body.symm.trans k.eq_body)⟩

theorem cons (b : UInt8) (h : Segments bytes segments tail) :
    ∃ segments tail, Segments (b :: bytes) segments tail := by
  by_cases zero : b = 0
  · subst zero
    exact ⟨[] :: segments, tail, .ended List.not_mem_nil h⟩
  · cases h with
    | tail h => exact ⟨_, _, .tail (List.not_mem_cons_of_ne_of_not_mem (Ne.symm zero) h)⟩
    | ended h more =>
      exact ⟨_, _, .ended (List.not_mem_cons_of_ne_of_not_mem (Ne.symm zero) h) more⟩

theorem exists_of (bytes : Bytes) : ∃ segments tail, Segments bytes segments tail := by
  induction bytes with
  | nil => exact ⟨_, _, .tail List.not_mem_nil⟩
  | cons b bytes ih =>
    obtain ⟨segments, tail, h⟩ := ih
    exact h.cons b

/-- A cut inside a segment leaves it without its end, so that it is none any more. -/
theorem take (h : Segments bytes segments tail) (k : Nat) :
    ∃ fewer rest, Segments (bytes.take k) fewer rest ∧ fewer <+: segments := by
  -- The cut is counted from the start of each segment in turn.
  induction h generalizing k with
  | tail h => exact ⟨[], _, .tail fun zero => h (List.mem_of_mem_take zero), List.nil_prefix⟩
  | @ended segment rest tail segments h more ih =>
    by_cases inside : k ≤ segment.length
    · rw [List.take_append_of_le_length inside]
      exact ⟨[], _, .tail fun zero => h (List.mem_of_mem_take zero), List.nil_prefix⟩
    · obtain ⟨j, rfl⟩ : ∃ j, k = segment.length + (j + 1) := ⟨k - segment.length - 1, by omega⟩
      obtain ⟨fewer, left, cut, pre⟩ := ih j
      rw [List.take_length_add_append, List.take_succ_cons]
      exact ⟨segment :: fewer, left, .ended h cut, List.cons_prefix_cons.mpr ⟨rfl, pre⟩⟩

/-- What is cut off anything that ends with a zero byte takes a segment away. -/
theorem length_lt {fewer : List Bytes} {k : Nat} (h : Segments bytes segments [])
    (cut : Segments (bytes.take k) fewer tail) (pre : fewer <+: segments) (short : k < bytes.length) :
    fewer.length < segments.length := by
  refine Nat.lt_of_le_of_ne pre.length_le fun same => ?_
  obtain rfl := pre.eq_of_length same
  have whole := congrArg List.length h.eq_body
  have part := congrArg List.length cut.eq_body
  rw [List.length_append, List.length_nil] at whole
  rw [List.length_append, List.length_take] at part
  omega

end Segments

end ChatLink.Frame
