import ChatLink.Proofs.Quads

/-!
What stands between the colons of an address: groups of hexadecimal digits, a dotted quad at the end
for the last two, and at most one gap, which is filled with zeros.
-/

namespace ChatLink.Address

section Groups

variable {part : List Char} {n : Nat}

structure Hextet (part : List Char) (n : Nat) : Prop where
  numeral : Numeral 16 part n
  short : part.length ≤ 4

theorem Hextet.ne_nil (h : Hextet part n) : part ≠ [] := by
  rintro rfl
  obtain ⟨zeros, same⟩ := h.numeral
  exact Nat.toDigits_ne_nil (List.append_eq_nil_iff.mp same.symm).2

theorem group?_cases : group? part = some n ↔
    (1 ≤ part.length ∧ part.length ≤ 4) ∧ numeral? 16 part = some n := by
  simp [group?, Option.bind_eq_some_iff]

theorem group?_eq_some_iff : group? part = some n ↔ Hextet part n := by
  rw [group?_cases]
  constructor
  · rintro ⟨⟨some, short⟩, read⟩
    have nonempty : part ≠ [] := List.ne_nil_of_length_pos some
    exact ⟨(numeral?_eq_some_iff (by decide) (by decide) nonempty).mp read, short⟩
  · intro h
    exact ⟨⟨List.length_pos_iff.mpr h.ne_nil, h.short⟩,
      (numeral?_eq_some_iff (by decide) (by decide) h.ne_nil).mpr h.numeral⟩

inductive Part : List Char → Option Nat → Prop
  | gap : Part [] none
  | group {part : List Char} {n : Nat} : Hextet part n → Part part (some n)

theorem part?_eq_some_iff {o : Option Nat} : parts?.part? part = some o ↔ Part part o := by
  rw [parts?.part?]
  constructor
  · intro h
    split at h
    · rename_i empty
      rw [List.isEmpty_iff.mp empty, ← Option.some.inj h]
      exact .gap
    · obtain ⟨n, read, rfl⟩ := Option.map_eq_some_iff.mp h
      exact .group (group?_eq_some_iff.mp read)
  · rintro (_ | hextet)
    · rfl
    · rw [if_neg (by simp [hextet.ne_nil]), group?_eq_some_iff.mpr hextet]
      rfl

inductive Row : List (List Char) → List Nat → Prop
  | groups {parts : List (List Char)} {groups : List Nat} :
    List.Forall₂ Hextet parts groups → Row parts groups
  | quad {parts : List (List Char)} {groups : List Nat} {last : List Char} {n : Nat} :
    List.Forall₂ Hextet parts groups → Quad last n →
    Row (parts ++ [last]) (groups ++ [n / 65536, n % 65536])

inductive Reads : List (List Char) → List (Option Nat) → Prop
  | parts {raw : List (List Char)} {parts : List (Option Nat)} :
    List.Forall₂ Part raw parts → Reads raw parts
  | quad {raw : List (List Char)} {parts : List (Option Nat)} {last : List Char} {n : Nat} :
    List.Forall₂ Part raw parts → Quad last n →
    Reads (raw ++ [last]) (parts ++ [some (n / 65536), some (n % 65536)])

end Groups

section Characters

def IsPlain (c : Char) : Prop := (Text.hexDigit? c).isSome ∨ c = '.'

instance (c : Char) : Decidable (IsPlain c) := inferInstanceAs (Decidable (_ ∨ _))

variable {parts : List (List Char)} {groups : List Nat} {part : List Char} {n : Nat} {c : Char}

theorem Hextet.isSome_hexDigit? (h : Hextet part n) (hc : c ∈ part) :
    (Text.hexDigit? c).isSome :=
  Address.isSome_hexDigit? (group?_cases.mp (group?_eq_some_iff.mpr h)).2 hc

theorem Hextet.dot_not_mem (h : Hextet part n) : '.' ∉ part := fun dot =>
  absurd (h.isSome_hexDigit? dot) (by decide)

theorem isSome_hexDigit?_of_toDigits (h : c ∈ Nat.toDigits 10 n) : (Text.hexDigit? c).isSome := by
  have numeral : Numeral 10 (Nat.toDigits 10 n) n := numeral_ten_iff.mpr ⟨0, rfl⟩
  exact Address.isSome_hexDigit?
    ((numeral?_eq_some_iff (by decide) (by decide) Nat.toDigits_ne_nil).mpr numeral) h

theorem Quad.isPlain (h : Quad part n) (hc : c ∈ part) : IsPlain c := by
  cases h with
  | octets =>
    obtain dot | ⟨octet, inside, mem⟩ := mem_joined hc
    · exact .inr dot
    · obtain ⟨n, -, rfl⟩ := List.mem_map.mp inside
      exact .inl (isSome_hexDigit?_of_toDigits mem)

theorem Quad.dot_mem (h : Quad part n) : '.' ∈ part := by
  cases h with
  | octets => simp

theorem isPlain_of_hextets (h : List.Forall₂ Hextet parts groups) :
    ∀ part ∈ parts, ∀ c ∈ part, IsPlain c := by
  induction h with
  | nil => exact nofun
  | cons first later ih =>
    rw [List.forall_mem_cons]
    exact ⟨fun c hc => .inl (first.isSome_hexDigit? hc), ih⟩

theorem Row.isPlain (h : Row parts groups) : ∀ part ∈ parts, ∀ c ∈ part, IsPlain c := by
  cases h with
  | groups hextets => exact isPlain_of_hextets hextets
  | quad hextets quad =>
    rw [List.forall_mem_append, List.forall_mem_singleton]
    exact ⟨isPlain_of_hextets hextets, fun c => quad.isPlain⟩

end Characters

section Raw

variable {raw : List (List Char)} {parts : List (Option Nat)} {text last : List Char}

theorem Part.dot_not_mem {part : List Char} {o : Option Nat} (h : Part part o) : '.' ∉ part := by
  cases h with
  | gap => exact List.not_mem_nil
  | group hextet => exact hextet.dot_not_mem

theorem dot_not_mem_of_parts (h : List.Forall₂ Part raw parts) : ∀ part ∈ raw, '.' ∉ part := by
  induction h with
  | nil => exact nofun
  | cons first later ih =>
    rw [List.forall_mem_cons]
    exact ⟨first.dot_not_mem, ih⟩

theorem mapM_part?_iff : raw.mapM parts?.part? = some parts ↔ List.Forall₂ Part raw parts := by
  simp only [mapM_eq_some_iff, part?_eq_some_iff]

theorem reads_concat_iff : Reads (raw ++ [last]) parts ↔
    if '.' ∈ last then ∃ n front, Quad last n ∧ List.Forall₂ Part raw front ∧
      front ++ [some (n / 65536), some (n % 65536)] = parts
    else List.Forall₂ Part (raw ++ [last]) parts := by
  constructor
  · generalize same : raw ++ [last] = all
    rintro (each | ⟨front, quad⟩)
    · subst same
      rw [if_neg (dot_not_mem_of_parts each last (by simp))]
      exact each
    · obtain ⟨rfl, tail⟩ := List.append_inj' same rfl
      obtain rfl := (List.cons.inj tail).1
      rw [if_pos quad.dot_mem]
      exact ⟨_, _, quad, front, rfl⟩
  · intro h
    split at h
    · obtain ⟨n, front, quad, each, rfl⟩ := h
      exact .quad each quad
    · exact .parts h

theorem parts?_cases (h : pieces ':' text = raw ++ [last]) : parts? text = some parts ↔
    3 ≤ (raw ++ [last]).length ∧ if '.' ∈ last then ∃ n front, quad? last = some n ∧
      raw.mapM parts?.part? = some front ∧
      front ++ [some (n / 65536), some (n % 65536)] = parts
    else (raw ++ [last]).mapM parts?.part? = some parts := by
  rw [parts?, h]
  simp only [List.getLastD_concat, List.dropLast_concat, List.contains_iff_mem]
  split <;> simp [Option.bind_eq_some_iff]

theorem parts?_eq_some_iff : parts? text = some parts ↔
    3 ≤ (pieces ':' text).length ∧ Reads (pieces ':' text) parts := by
  obtain ⟨raw, last, split⟩ := (List.eq_nil_or_concat' _).resolve_left (pieces_ne_nil ':' text)
  rw [parts?_cases split, split, reads_concat_iff]
  simp only [mapM_part?_iff, quad?_eq_some_iff]

end Raw

section Sides

variable {raw before after : List (List Char)} {parts front rest : List (Option Nat)}
  {high low groups : List Nat}

/-- The parts of one side of a gap: groups, or nothing between the gap and the end. -/
inductive Side : List (Option Nat) → List Nat → Prop
  | nothing : Side [none] []
  | groups (groups : List Nat) : Side (groups.map some) groups

theorem mapM_id_iff : parts.mapM id = some groups ↔ parts = groups.map some := by
  have equal : List.Forall₂ (· = ·) parts (groups.map some) ↔ parts = groups.map some := by
    rw [List.forall₂_eq_eq_eq]
  rw [mapM_eq_some_iff, ← equal, List.forall₂_map_right_iff]
  rfl

theorem side?_eq_some_iff : side? parts = some groups ↔ Side parts groups := by
  rw [side?]
  constructor
  · intro h
    split at h
    · rename_i nothing
      rw [nothing, ← Option.some.inj h]
      exact .nothing
    · rw [mapM_id_iff.mp h]
      exact .groups groups
  · rintro (_ | _)
    · rfl
    · rw [if_neg, mapM_id_iff]
      intro same
      cases groups with
      | nil => cases same
      | cons => cases same

inductive Fills : List (Option Nat) → List Nat → Prop
  | full {groups : List Nat} : groups.length = 8 → Fills (groups.map some) groups
  | gap {front rest : List (Option Nat)} {high low : List Nat} :
    front ≠ [] → Side front high → rest ≠ [] → Side rest low → high.length + low.length < 8 →
    Fills (front ++ none :: rest)
      (high ++ List.replicate (8 - high.length - low.length) 0 ++ low)

theorem exists_gap {i : Nat} (h : parts.tail.dropLast.findIdx? (·.isNone) = some i) :
    parts = parts.take (i + 1) ++ none :: parts.drop (i + 2) ∧ parts.take (i + 1) ≠ [] ∧
      parts.drop (i + 2) ≠ [] := by
  obtain ⟨inside, isNone, -⟩ := List.findIdx?_eq_some_iff_getElem.mp h
  rw [List.length_dropLast, List.length_tail] at inside
  have here : i + 1 < parts.length := by omega
  rw [List.getElem_dropLast, List.getElem_tail, Option.isNone_iff_eq_none] at isNone
  refine ⟨?_, ?_, ?_⟩
  · rw [← isNone, List.getElem_cons_drop, List.take_append_drop]
  · rw [ne_eq, List.take_eq_nil_iff, not_or]
    exact ⟨Nat.succ_ne_zero i, List.ne_nil_of_length_pos (by omega)⟩
  · rw [ne_eq, List.drop_eq_nil_iff]
    omega

theorem Side.isSome_tail (h : Side front high) : ∀ o ∈ front.tail, o.isNone = false := by
  cases h with
  | nothing => exact nofun
  | groups =>
    intro o ho
    obtain ⟨n, -, rfl⟩ := List.mem_map.mp (List.mem_of_mem_tail ho)
    rfl

/-- The parts in front of a gap are groups, but the first of all, which is not looked at. -/
theorem findIdx?_gap (before : front ≠ []) (side : Side front high) (after : rest ≠ []) :
    ∃ i, (front ++ none :: rest).tail.dropLast.findIdx? (·.isNone) = some i ∧
      (front ++ none :: rest).take (i + 1) = front ∧
      (front ++ none :: rest).drop (i + 2) = rest := by
  obtain ⟨first, others, rfl⟩ := List.exists_cons_of_ne_nil before
  have inner : ((first :: others) ++ none :: rest).tail.dropLast =
      others ++ none :: rest.dropLast := by
    rw [List.cons_append, List.tail_cons, List.dropLast_append_of_ne_nil (List.cons_ne_nil _ _),
      List.dropLast_cons_of_ne_nil after]
  have front : others.findIdx? (·.isNone) = none := List.findIdx?_eq_none_iff.mpr side.isSome_tail
  refine ⟨others.length, ?_, ?_, ?_⟩
  · rw [inner, List.findIdx?_append, front]
    simp [List.findIdx?_cons]
  · exact List.take_left' (by simp)
  · rw [List.append_cons]
    exact List.drop_left' (by simp)

theorem groups?_eq_some_iff : groups? parts = some groups ↔ Fills parts groups := by
  rw [groups?]
  constructor
  · intro h
    split at h
    · simp only [Option.bind_eq_bind, Option.bind_eq_some_iff] at h
      obtain ⟨all, each, h⟩ := h
      split at h
      · cases h
        rw [mapM_id_iff.mp each]
        exact .full ‹_›
      · cases h
    · rename_i i found
      obtain ⟨same, some, more⟩ := exists_gap found
      simp only [Option.bind_eq_bind, Option.bind_eq_some_iff, side?_eq_some_iff] at h
      obtain ⟨high, before, low, after, h⟩ := h
      split at h
      · cases h
        exact same ▸ .gap some before more after ‹_›
      · cases h
  · rintro (eight | ⟨some, before, more, after, fewer⟩)
    · have inner : (groups.map Option.some).tail.dropLast.findIdx? (·.isNone) = none := by
        refine List.findIdx?_eq_none_iff.mpr fun o ho => ?_
        exact (Side.groups groups).isSome_tail o (List.mem_of_mem_dropLast ho)
      rw [inner]
      simp [mapM_id_iff.mpr rfl, eight]
    · obtain ⟨i, found, front, rest⟩ := findIdx?_gap some before more
      rw [found]
      simp [front, rest, side?_eq_some_iff.mpr before, side?_eq_some_iff.mpr after, fewer]

end Sides

end ChatLink.Address
