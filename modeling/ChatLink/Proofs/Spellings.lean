import ChatLink.Proofs.Gaps

/-!
The spellings of an address of 128 bits, and that they are what is read. An address has many: zeros
may stand in front of a group or be left out, either case will do, a run of groups that are zero may
be left to two colons, and the last two groups may be a dotted quad.
-/

namespace ChatLink.Address

section Written

variable {raw before after parts : List (List Char)} {front rest : List (Option Nat)}
  {high low groups : List Nat} {text : List Char}

/-- Eight groups with colons between them, or fewer with two colons in place of those that are
missing and zero. -/
inductive Written : List Char → List Nat → Prop
  | full {parts : List (List Char)} {groups : List Nat} :
    Row parts groups → groups.length = 8 → Written (joined ':' parts) groups
  | compressed {before after : List (List Char)} {high low : List Nat} :
    List.Forall₂ Hextet before high → Row after low → high.length + low.length < 8 →
    Written (joined ':' before ++ ':' :: ':' :: joined ':' after)
      (high ++ List.replicate (8 - high.length - low.length) 0 ++ low)

theorem parts_some_iff :
    List.Forall₂ Part raw (groups.map some) ↔ List.Forall₂ Hextet raw groups := by
  have group : ∀ part n, Part part (some n) ↔ Hextet part n := by
    intro part n
    constructor
    · rintro ⟨hextet⟩
      assumption
    · exact .group
  simp only [List.forall₂_map_right_iff, group]

theorem reads_some_iff : Reads raw (groups.map some) ↔ Row raw groups := by
  constructor
  · generalize same : groups.map some = parts
    rintro (each | ⟨each, quad⟩)
    · subst same
      exact .groups (parts_some_iff.mp each)
    · obtain ⟨front, pair, rfl, rfl, last⟩ := List.map_eq_append_iff.mp same
      obtain rfl : pair = [_, _] := List.map_injective_iff.mpr (Option.some_injective _) last
      exact .quad (parts_some_iff.mp each) quad
  · rintro (each | ⟨each, quad⟩)
    · exact .parts (parts_some_iff.mpr each)
    · rw [List.map_append]
      exact .quad (parts_some_iff.mpr each) quad

theorem parts_gap_iff : List.Forall₂ Part raw (front ++ none :: rest) ↔
    ∃ before after, raw = before ++ [] :: after ∧ List.Forall₂ Part before front ∧
      List.Forall₂ Part after rest := by
  constructor
  · intro each
    have before := List.forall₂_take_append _ _ _ each
    obtain ⟨_, after, ⟨⟩, later, split⟩ :=
      List.forall₂_cons_right_iff.mp (List.forall₂_drop_append _ _ _ each)
    exact ⟨_, after, by rw [← split, List.take_append_drop], before, later⟩
  · rintro ⟨before, after, rfl, each, later⟩
    exact List.rel_append each (.cons .gap later)

theorem reads_gap_iff : Reads raw (front ++ none :: rest) ↔
    ∃ before after, raw = before ++ [] :: after ∧ List.Forall₂ Part before front ∧
      Reads after rest := by
  constructor
  · generalize same : front ++ none :: rest = parts
    rintro (each | @⟨raw, parts, last, n, each, quad⟩)
    · subst same
      obtain ⟨before, after, rfl, first, later⟩ := parts_gap_iff.mp each
      exact ⟨before, after, rfl, first, .parts later⟩
    · -- neither of the last two parts is the gap
      obtain ⟨inner, rfl, tail⟩ | ⟨inner, rfl, tail⟩ := List.append_eq_append_iff.mp same
      · cases inner with
        | nil => cases tail
        | cons o inner =>
          cases tail
          obtain ⟨before, after, rfl, first, later⟩ := parts_gap_iff.mp each
          exact ⟨before, after ++ [last], by simp, first, .quad later quad⟩
      · have inside : none ∈ [some (n / 65536), some (n % 65536)] := by simp [tail]
        simp at inside
  · rintro ⟨before, after, rfl, first, later | @⟨after, parts, last, n, later, quad⟩⟩
    · exact .parts (parts_gap_iff.mpr ⟨before, after, rfl, first, later⟩)
    · have each := parts_gap_iff.mpr ⟨before, after, rfl, first, later⟩
      have split := Reads.quad each quad
      rwa [List.append_assoc, List.append_assoc] at split

def edge (parts : List (List Char)) : List (List Char) := if parts = [] then [[]] else parts

theorem edge_ne_nil (parts : List (List Char)) : edge parts ≠ [] := by
  rw [edge]
  split
  · exact List.cons_ne_nil _ _
  · assumption

@[simp] theorem joined_edge (separator : Char) (parts : List (List Char)) :
    joined separator (edge parts) = joined separator parts := by
  rw [edge]
  split
  · rename_i none
    rw [none]
    rfl
  · rfl

theorem exists_side (groups : List Nat) : ∃ parts, parts ≠ [] ∧ Side parts groups := by
  cases groups with
  | nil => exact ⟨_, List.cons_ne_nil _ _, .nothing⟩
  | cons n groups => exact ⟨_, List.cons_ne_nil _ _, .groups (n :: groups)⟩

theorem edge_of_ne_nil (h : parts ≠ []) : edge parts = parts := if_neg h

theorem parts_side_iff (some : front ≠ []) (side : Side front high) :
    List.Forall₂ Part before front ↔
      ∃ parts, edge parts = before ∧ List.Forall₂ Hextet parts high := by
  cases side with
  | nothing =>
    constructor
    · rintro (_ | ⟨⟨⟩, ⟨⟩⟩)
      exact ⟨[], rfl, .nil⟩
    · rintro ⟨_, rfl, ⟨⟩⟩
      exact .cons .gap .nil
  | groups =>
    have nonempty : ∀ {parts}, List.Forall₂ Hextet parts high → parts ≠ [] := by
      rintro _ each rfl
      cases each
      exact some rfl
    rw [parts_some_iff]
    constructor
    · intro each
      exact ⟨before, edge_of_ne_nil (nonempty each), each⟩
    · rintro ⟨parts, rfl, each⟩
      rw [edge_of_ne_nil (nonempty each)]
      exact each

theorem Row.eq_nil_iff (h : Row parts groups) : parts = [] ↔ groups = [] := by
  cases h with
  | groups each =>
    rw [← List.length_eq_zero_iff, ← List.length_eq_zero_iff, each.length_eq]
  | quad => simp

theorem Row.length_le (h : Row parts groups) : groups.length ≤ parts.length + 1 := by
  cases h with
  | groups each => exact Nat.le_succ_of_le each.length_eq.ge
  | quad each => simp [each.length_eq]

theorem reads_side_iff (some : rest ≠ []) (side : Side rest low) :
    Reads after rest ↔ ∃ parts, edge parts = after ∧ Row parts low := by
  cases side with
  | nothing =>
    constructor
    · generalize same : [none] = parts
      rintro (each | ⟨each, quad⟩)
      · subst same
        obtain _ | ⟨⟨⟩, ⟨⟩⟩ := each
        exact ⟨[], rfl, .groups .nil⟩
      · have length := congrArg List.length same
        simp at length
    · rintro ⟨_, rfl, row⟩
      rw [row.eq_nil_iff.mpr rfl]
      exact .parts (.cons .gap .nil)
  | groups =>
    have nonempty : ∀ {parts}, Row parts low → parts ≠ [] := fun row none =>
      some (by rw [row.eq_nil_iff.mp none, List.map_nil])
    rw [reads_some_iff]
    constructor
    · intro row
      exact ⟨after, edge_of_ne_nil (nonempty row), row⟩
    · rintro ⟨parts, rfl, row⟩
      rw [edge_of_ne_nil (nonempty row)]
      exact row

theorem joined_gap (before after : List (List Char)) :
    joined ':' (edge before ++ [] :: edge after) =
      joined ':' before ++ ':' :: ':' :: joined ':' after := by
  have later : joined ':' ([] :: edge after) = ':' :: joined ':' after := by
    rw [← List.singleton_append, joined_append (List.cons_ne_nil _ _) (edge_ne_nil after),
      joined_edge]
    rfl
  rw [joined_append (edge_ne_nil before) (List.cons_ne_nil _ _), joined_edge, later]

theorem colon_not_mem_edge (plain : ∀ part ∈ parts, ∀ c ∈ part, IsPlain c) :
    ∀ part ∈ edge parts, ':' ∉ part := by
  intro part inside colon
  rw [edge] at inside
  split at inside
  · rw [List.mem_singleton.mp inside] at colon
    cases colon
  · exact absurd (plain part inside _ colon) (by decide)

theorem exists_parts (h : Written text groups) :
    ∃ parts, parts? text = some parts ∧ Fills parts groups := by
  simp only [parts?_eq_some_iff]
  cases h with
  | @full parts groups row eight =>
    have some : parts ≠ [] := by
      rw [ne_eq, row.eq_nil_iff, ← List.length_eq_zero_iff, eight]
      decide
    have free := colon_not_mem_edge row.isPlain
    rw [edge_of_ne_nil some] at free
    rw [pieces_joined free some]
    have many := row.length_le
    exact ⟨_, ⟨by omega, reads_some_iff.mpr row⟩, .full eight⟩
  | @compressed before after high low each row fewer =>
    obtain ⟨front, some, side⟩ := exists_side high
    obtain ⟨rest, more, side'⟩ := exists_side low
    have free : ∀ part ∈ edge before ++ [] :: edge after, ':' ∉ part := by
      rw [List.forall_mem_append, List.forall_mem_cons]
      exact ⟨colon_not_mem_edge (isPlain_of_hextets each), List.not_mem_nil,
        colon_not_mem_edge row.isPlain⟩
    have three : 3 ≤ (edge before ++ [] :: edge after).length := by
      have := List.length_pos_iff.mpr (edge_ne_nil before)
      have := List.length_pos_iff.mpr (edge_ne_nil after)
      rw [List.length_append, List.length_cons]
      omega
    rw [← joined_gap, pieces_joined free (by simp)]
    refine ⟨_, ⟨three, reads_gap_iff.mpr ⟨_, _, rfl, ?_, ?_⟩⟩, .gap some side more side' fewer⟩
    · exact (parts_side_iff some side).mpr ⟨before, rfl, each⟩
    · exact (reads_side_iff more side').mpr ⟨after, rfl, row⟩

theorem written_iff :
    (∃ parts, parts? text = some parts ∧ Fills parts groups) ↔ Written text groups := by
  constructor
  · rintro ⟨parts, read, fills⟩
    obtain ⟨-, reads⟩ := parts?_eq_some_iff.mp read
    rw [← joined_pieces ':' text]
    cases fills with
    | full eight => exact .full (reads_some_iff.mp reads) eight
    | gap some side more side' fewer =>
      obtain ⟨_, _, split, each, later⟩ := reads_gap_iff.mp reads
      obtain ⟨before, rfl, hextets⟩ := (parts_side_iff some side).mp each
      obtain ⟨after, rfl, row⟩ := (reads_side_iff more side').mp later
      rw [split, joined_gap]
      exact .compressed hextets row fewer
  · exact exists_parts

theorem mem_written {c : Char} (h : Written text groups) (hc : c ∈ text) : IsPlain c ∨ c = ':' := by
  have row : ∀ {parts : List (List Char)}, (∀ part ∈ parts, ∀ c ∈ part, IsPlain c) →
      c ∈ joined ':' parts → IsPlain c ∨ c = ':' := by
    intro parts plain mem
    obtain colon | ⟨part, inside, mem⟩ := mem_joined mem
    · exact .inr colon
    · exact .inl (plain part inside c mem)
  cases h with
  | full parts => exact row parts.isPlain hc
  | compressed each parts =>
    simp only [List.mem_append, List.mem_cons] at hc
    obtain before | colon | colon | after := hc
    · exact row (isPlain_of_hextets each) before
    · exact .inr colon
    · exact .inr colon
    · exact row parts.isPlain after

end Written

section Spells

variable {text : List Char} {n : Nat}

def ofGroups (groups : List Nat) : Nat := groups.foldl (fun n group => 65536 * n + group) 0

/-- An address, and a scope behind it that is not part of its number. -/
inductive Spells : List Char → Nat → Prop
  | plain {text : List Char} {groups : List Nat} :
    Written text groups → Spells text (ofGroups groups)
  | inScope {text scope : List Char} {groups : List Nat} : Written text groups → scope ≠ [] →
    '%' ∉ scope → '/' ∉ scope → Spells (text ++ '%' :: scope) (ofGroups groups)

theorem unscoped?_eq_some_iff {address : List Char} : unscoped? text = some address ↔
    '%' ∉ address ∧ (text = address ∨
      ∃ scope, scope ≠ [] ∧ '%' ∉ scope ∧ text = address ++ '%' :: scope) := by
  rw [unscoped?]
  constructor
  · intro h
    split at h
    · rename_i split
      cases h
      obtain ⟨whole, free⟩ := (pieces_eq_iff (List.cons_ne_nil _ _)).mp split
      rw [joined_singleton] at whole
      exact ⟨free address (by simp), .inl whole⟩
    · rename_i scope split
      split at h
      · cases h
      · rename_i some
        cases h
        obtain ⟨whole, free⟩ := (pieces_eq_iff (List.cons_ne_nil _ _)).mp split
        rw [joined_cons_cons, joined_singleton] at whole
        refine ⟨free address (by simp), .inr ⟨scope, ?_, free scope (by simp), whole⟩⟩
        exact fun none => some (List.isEmpty_iff.mpr none)
    · cases h
  · rintro ⟨unscoped, rfl | ⟨scope, some, single, rfl⟩⟩
    · have split : pieces '%' text = [text] :=
        (pieces_eq_iff (List.cons_ne_nil _ _)).mpr ⟨by simp, by simpa using unscoped⟩
      rw [split]
    · have split : pieces '%' (address ++ '%' :: scope) = [address, scope] :=
        (pieces_eq_iff (List.cons_ne_nil _ _)).mpr ⟨by simp, by simp [unscoped, single]⟩
      rw [split]
      simp [some]

theorem hextets?_cases : hextets? text = some n ↔
    ∃ address groups, unscoped? text = some address ∧ Written address groups ∧
      ofGroups groups = n := by
  simp only [hextets?, Option.bind_eq_bind, Option.bind_eq_some_iff, groups?_eq_some_iff]
  constructor
  · rintro ⟨address, unscoped, parts, read, groups, fills, same⟩
    exact ⟨address, groups, unscoped, written_iff.mp ⟨parts, read, fills⟩, Option.some.inj same⟩
  · rintro ⟨address, groups, unscoped, written, rfl⟩
    obtain ⟨parts, read, fills⟩ := written_iff.mpr written
    exact ⟨address, unscoped, parts, read, groups, fills, rfl⟩

theorem Written.percent_not_mem {groups : List Nat} (h : Written text groups) : '%' ∉ text :=
  fun percent => absurd (mem_written h percent) (by decide)

theorem Written.slash_not_mem {groups : List Nat} (h : Written text groups) : '/' ∉ text :=
  fun slash => absurd (mem_written h slash) (by decide)

theorem Written.colon_mem {groups : List Nat} (h : Written text groups) : ':' ∈ text := by
  cases h with
  | @full parts groups row eight =>
    have many := row.length_le
    match parts with
    | [] => simp [eight] at many
    | [_] => simp [eight] at many
    | part :: next :: rest => simp
  | compressed => simp

theorem Spells.slash_not_mem (h : Spells text n) : '/' ∉ text := by
  cases h with
  | plain written => exact written.slash_not_mem
  | inScope written some single local' => simp [written.slash_not_mem, local']

theorem Spells.colon_mem (h : Spells text n) : ':' ∈ text := by
  cases h with
  | plain written => exact written.colon_mem
  | inScope written => exact List.mem_append_left _ written.colon_mem

theorem hextets?_eq_some_iff (free : '/' ∉ text) : hextets? text = some n ↔ Spells text n := by
  rw [hextets?_cases]
  constructor
  · rintro ⟨address, groups, unscoped, written, rfl⟩
    obtain ⟨-, rfl | ⟨scope, some, single, rfl⟩⟩ := unscoped?_eq_some_iff.mp unscoped
    · exact .plain written
    · refine .inScope written some single fun slash => free ?_
      simp [slash]
  · rintro (written | ⟨written, some, single, -⟩)
    · exact ⟨_, _, unscoped?_eq_some_iff.mpr ⟨written.percent_not_mem, .inl rfl⟩, written, rfl⟩
    · exact ⟨_, _, unscoped?_eq_some_iff.mpr
        ⟨written.percent_not_mem, .inr ⟨_, some, single, rfl⟩⟩, written, rfl⟩

end Spells

section Text

variable {s : String} {n : Nat}

theorem Quad.colon_not_mem {text : List Char} (h : Quad text n) : ':' ∉ text :=
  fun colon => absurd (h.isPlain colon) (by decide)

theorem Quad.slash_not_mem {text : List Char} (h : Quad text n) : '/' ∉ text :=
  fun slash => absurd (h.isPlain slash) (by decide)

theorem Quad.not_spells {text : List Char} {m : Nat} (h : Quad text m) : ¬Spells text n :=
  fun spells => h.colon_not_mem spells.colon_mem

theorem parse?_of_slash (h : '/' ∈ s.toList) : parse? s = none := by
  rw [parse?, if_pos (List.contains_iff_mem.mpr h)]

theorem parse?_of_no_slash (h : '/' ∉ s.toList) :
    parse? s = ((quad? s.toList).map .v4 <|> (hextets? s.toList).map .v6) := by
  rw [parse?, if_neg (List.contains_iff_mem.not.mpr h)]

theorem parse?_quad : parse? s = some (.v4 n) ↔ Quad s.toList n := by
  by_cases slash : '/' ∈ s.toList
  · rw [parse?_of_slash slash]
    exact ⟨nofun, fun h => absurd slash h.slash_not_mem⟩
  · rw [parse?_of_no_slash slash, ← quad?_eq_some_iff]
    cases quad? s.toList <;> simp

theorem parse?_spelling : parse? s = some (.v6 n) ↔ Spells s.toList n := by
  by_cases slash : '/' ∈ s.toList
  · rw [parse?_of_slash slash]
    exact ⟨nofun, fun h => absurd slash h.slash_not_mem⟩
  · rw [parse?_of_no_slash slash, ← hextets?_eq_some_iff slash]
    cases quad : quad? s.toList with
    | none => simp
    | some m =>
      have not := (quad?_eq_some_iff.mp quad).not_spells (n := n)
      rw [← hextets?_eq_some_iff slash] at not
      simp [not]

theorem Spells.unique {text : List Char} {m : Nat} (h : Spells text n) (h' : Spells text m) :
    n = m := by
  have free := h.slash_not_mem
  rw [← hextets?_eq_some_iff free] at h h'
  exact Option.some.inj (h.symm.trans h')

theorem Quad.unique {text : List Char} {m : Nat} (h : Quad text n) (h' : Quad text m) : n = m := by
  rw [← quad?_eq_some_iff] at h h'
  exact Option.some.inj (h.symm.trans h')

theorem isLoopback_text_iff : (Value.text s).isLoopback ↔
    (∃ n, Quad s.toList n ∧ n / 2 ^ 24 = 127) ∨ Spells s.toList 1 := by
  have made : (Value.text s).isLoopback ↔
      ∃ address, parse? s = some address ∧ address.isLoopback := by
    have value : ofValue? (.text s) = parse? s := rfl
    rw [Value.isLoopback, value]
    cases parse? s <;> simp
  rw [made]
  constructor
  · rintro ⟨n | n, read, near⟩
    · exact .inl ⟨n, parse?_quad.mp read, eq_of_beq near⟩
    · obtain rfl : n = 1 := eq_of_beq near
      exact .inr (parse?_spelling.mp read)
  · rintro (⟨n, quad, near⟩ | spells)
    · exact ⟨_, parse?_quad.mpr quad, beq_iff_eq.mpr near⟩
    · exact ⟨_, parse?_spelling.mpr spells, rfl⟩

end Text

end ChatLink.Address
