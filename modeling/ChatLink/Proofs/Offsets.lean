import ChatLink.Proofs.Scan
import ChatLink.Proofs.WellFormed
import Mathlib.Logic.Function.Iterate
import Mathlib.Order.Nat

namespace ChatLink.Frame

def zeros (data : Bytes) (first limit : Nat) : Set Nat :=
  {i | first ≤ i ∧ i < limit ∧ data[i]? = some 0}

/-- What is to be read between two positions, and where the reading stops. -/
inductive Finds (data : Bytes) (first limit : Nat) : Option String × Nat → Prop
  | text {i : Nat} (h : IsLeast (zeros data first limit) i) :
      Finds data first limit (some (Utf8.decode ((data.take i).drop first)), i + 1)
  | absent (h : zeros data first limit = ∅) : Finds data first limit (none, limit)

section Zeros

variable {data : Bytes} {first limit i : Nat}

theorem zero_mem_iff : 0 ∈ (data.take limit).drop first ↔ (zeros data first limit).Nonempty := by
  simp only [List.mem_iff_getElem?, List.getElem?_drop, List.getElem?_take]
  constructor
  · rintro ⟨k, found⟩
    split at found
    · rename_i inside
      exact ⟨first + k, Nat.le_add_right .., inside, found⟩
    · cases found
  · rintro ⟨i, behind, inside, zero⟩
    refine ⟨i - first, ?_⟩
    rwa [Nat.add_sub_cancel' behind, if_pos inside]

theorem zero_not_mem_of_empty (h : zeros data first limit = ∅) :
    0 ∉ (data.take limit).drop first := by
  rw [zero_mem_iff, h]
  exact Set.not_nonempty_empty

theorem zeros_of_isLeast (h : IsLeast (zeros data first limit) i) : zeros data first i = ∅ := by
  apply Set.eq_empty_of_forall_notMem
  rintro j ⟨behind, before, zero⟩
  have least := h.2 ⟨behind, Nat.lt_trans before h.1.2.1, zero⟩
  exact Nat.not_le.mpr before least

theorem drop_eq_of_isLeast (h : IsLeast (zeros data first limit) i) :
    (data.take limit).drop first =
      (data.take i).drop first ++ 0 :: (data.take limit).drop (i + 1) := by
  obtain ⟨behind, inside, found⟩ := h.1
  obtain ⟨within, zero⟩ := List.getElem?_eq_some_iff.mp found
  have front : (data.take i).length = i := List.length_take_of_le (Nat.le_of_lt within)
  have last : i < (data.take limit).length := by
    rw [List.length_take]
    exact Nat.lt_min.mpr ⟨inside, within⟩
  have parted : data.take limit = data.take i ++ 0 :: (data.take limit).drop (i + 1) :=
    calc data.take limit
      _ = (data.take limit).take i ++ (data.take limit).drop i := (List.take_append_drop ..).symm
      _ = data.take i ++ 0 :: (data.take limit).drop (i + 1) := by
        rw [List.take_take, Nat.min_eq_left (Nat.le_of_lt inside),
          List.drop_eq_getElem_cons last, List.getElem_take, zero]
  calc (data.take limit).drop first
    _ = (data.take i ++ 0 :: (data.take limit).drop (i + 1)).drop first :=
      congrArg (List.drop first) parted
    _ = (data.take i).drop first ++ 0 :: (data.take limit).drop (i + 1) :=
      List.drop_append_of_le_length (by rwa [front])

theorem add_length_of_isLeast (h : IsLeast (zeros data first limit) i) :
    first + ((data.take i).drop first).length = i := by
  obtain ⟨behind, -, zero⟩ := h.1
  obtain ⟨within, -⟩ := List.getElem?_eq_some_iff.mp zero
  rw [List.length_drop, List.length_take_of_le (Nat.le_of_lt within), Nat.add_sub_cancel' behind]

end Zeros

namespace Finds

variable {data : Bytes} {first limit next : Nat} {text : String} {outcome other : Option String × Nat}

theorem unique (h : Finds data first limit outcome) (k : Finds data first limit other) :
    outcome = other := by
  cases h with
  | text h =>
    cases k with
    | text k => rw [h.unique k]
    | absent k => exact absurd (k ▸ h.1) (Set.notMem_empty _)
  | absent h =>
    cases k with
    | text k => exact absurd (h ▸ k.1) (Set.notMem_empty _)
    | absent k => rfl

theorem inside (h : Finds data first limit (some text, next)) : first < next ∧ next ≤ limit := by
  cases h with
  | text h => exact ⟨Nat.lt_succ_of_le h.1.1, h.1.2.1⟩

theorem noNul (h : Finds data first limit (some text, next)) : '\x00' ∉ text.toList := by
  cases h with
  | text h => exact Utf8.zero_not_mem_decode (zero_not_mem_of_empty (zeros_of_isLeast h))

theorem advances (h : Finds data first limit outcome) :
    min limit (first + 1) ≤ outcome.2 ∧ outcome.2 ≤ limit := by
  cases h with
  | text h => exact ⟨Nat.le_trans (Nat.min_le_right ..) (Nat.succ_le_succ h.1.1), h.1.2.1⟩
  | absent h => exact ⟨Nat.min_le_left .., Nat.le_refl _⟩

end Finds

theorem finds_readText (data : Bytes) (start : Int) (bound : Option Int) :
    Finds data (position data.length start) (clamp data.length bound)
      (readText data start bound) := by
  rw [readText_eq_head?]
  generalize position data.length start = first
  generalize clamp data.length bound = limit
  rcases Set.eq_empty_or_nonempty (zeros data first limit) with empty | nonempty
  · rw [fields_eq_nil (zero_not_mem_of_empty empty)]
    exact .absent empty
  · classical
    have least := nonempty.isLeast_natFind
    have free := zero_not_mem_of_empty (zeros_of_isLeast least)
    rw [drop_eq_of_isLeast least, fields_append free]
    simp only [List.head?_cons, add_length_of_isLeast least]
    exact .text least

section Seek

variable {data : Bytes} {start : Int} {limit i : Nat}

theorem slice_natCast (h : limit ≤ data.length) :
    data.slice start limit = (data.take limit).drop (position data.length start) := by
  rw [Bytes.slice, position_natCast, Nat.min_eq_left h]

theorem findIdx?_of_free {bytes : Bytes} (free : 0 ∉ bytes) : bytes.findIdx? (· == 0) = none := by
  rw [List.findIdx?_eq_none_iff]
  intro b mem
  exact beq_eq_false_iff_ne.mpr (ne_of_mem_of_not_mem mem free)

theorem zeroAt?_of_empty (hl : limit ≤ data.length)
    (h : zeros data (position data.length start) limit = ∅) : zeroAt? data start limit = none := by
  rw [zeroAt?, slice_natCast hl, findIdx?_of_free (zero_not_mem_of_empty h), Option.map_none]

theorem zeroAt?_of_isLeast (hl : limit ≤ data.length)
    (h : IsLeast (zeros data (position data.length start) limit) i) :
    zeroAt? data start limit = some i := by
  have before := findIdx?_of_free (zero_not_mem_of_empty (zeros_of_isLeast h))
  rw [zeroAt?, slice_natCast hl, drop_eq_of_isLeast h, List.findIdx?_append, before,
    List.findIdx?_cons, if_pos (beq_self_eq_true _), Option.none_or, Option.map_some,
    Option.map_some, Nat.zero_add, add_length_of_isLeast h]

theorem zeros_of_le (hl : limit ≤ data.length) (h : limit ≤ start) :
    zeros data (position data.length start) limit = ∅ := by
  obtain ⟨start, rfl⟩ := Int.eq_ofNat_of_zero_le (Int.le_trans (Int.natCast_nonneg limit) h)
  apply Set.eq_empty_of_forall_notMem
  rintro i ⟨behind, inside, -⟩
  rw [position_natCast] at behind
  omega

end Seek

/-- The comparisons with the start as it is given leave out only what would come to the same. -/
theorem seekText_eq (data : Bytes) (start : Int) (bound : Option Int) :
    seekText data start bound =
      ((readText data start bound).1, ((readText data start bound).2 : Int)) := by
  have found := finds_readText data start bound
  have within := clamp_le data.length bound
  rw [seekText]
  generalize clamp data.length bound = limit at found within
  generalize readText data start bound = outcome at found
  by_cases past : limit ≤ start
  · rw [if_pos past, found.unique (.absent (zeros_of_le within past))]
  · rw [if_neg past]
    cases found with
    | absent empty => rw [zeroAt?_of_empty within empty]
    | @text i least =>
      simp only [zeroAt?_of_isLeast within least]
      have before : i ≤ data.length := Nat.le_trans (Nat.le_of_lt least.1.2.1) within
      split
      · rename_i same
        subst same
        rw [position_natCast, Nat.min_eq_left before, List.drop_take, Nat.sub_self, List.take_zero,
          Utf8.decode_nil]
        rfl
      · rw [slice_natCast before]
        rfl

def resume (data : Bytes) (bound : Option Int) (offset : Int) : Int :=
  (readText data offset bound).2

section Resume

variable (data : Bytes) (start : Int) (bound : Option Int)

theorem resume_iterate (readings : Nat) : ∃ next : Nat,
    (resume data bound)^[readings + 1] start = next ∧
      min (clamp data.length bound) (position data.length start + readings + 1) ≤ next ∧
      next ≤ clamp data.length bound := by
  induction readings with
  | zero => exact ⟨_, rfl, (finds_readText data start bound).advances⟩
  | succ readings ih =>
    obtain ⟨next, reached, far, inside⟩ := ih
    have advances := (finds_readText data next bound).advances
    rw [position_natCast, Nat.min_eq_left (Nat.le_trans inside (clamp_le ..))] at advances
    rw [Function.iterate_succ_apply', reached]
    exact ⟨_, rfl, by omega, advances.2⟩

theorem resume_reaches {readings : Nat}
    (h : max (clamp data.length bound - position data.length start) 1 ≤ readings) :
    (resume data bound)^[readings] start = clamp data.length bound := by
  obtain ⟨readings, rfl⟩ := Nat.exists_eq_add_of_le' (Nat.le_trans (Nat.le_max_right ..) h)
  obtain ⟨next, reached, far, inside⟩ := resume_iterate data start bound readings
  rw [reached]
  omega

end Resume

/-- A text read from any offset is what stands in front of the first zero byte between the start and
the bound, and the reading stops behind that byte; without one the text is absent, and the reading
stops at the bound. It makes no difference whether the start is counted from the end, nor whether
it is compared as it is given. As many readings as there are positions in front of the bound come
to the bound, and so does a single one where there is none. -/
theorem field_at_offset (data : Bytes) (start : Int) (bound : Option Int) :
    let first := position data.length start
    let limit := clamp data.length bound
    (∀ outcome, readText data start bound = outcome ↔ Finds data first limit outcome) ∧
    seekText data start bound =
      ((readText data start bound).1, ((readText data start bound).2 : Int)) ∧
    (∀ text next, readText data start bound = (some text, next) →
      first < next ∧ next ≤ limit ∧ '\x00' ∉ text.toList) ∧
    readText data first bound = readText data start bound ∧
    ∀ readings, max (limit - first) 1 ≤ readings → (resume data bound)^[readings] start = limit := by
  have found := finds_readText data start bound
  refine ⟨fun outcome => ⟨fun read => read ▸ found, found.unique⟩, seekText_eq .., ?_, ?_,
    fun readings => resume_reaches data start bound⟩
  · intro text next read
    rw [read] at found
    exact ⟨found.inside.1, found.inside.2, found.noNul⟩
  · rw [readText_eq_head?, readText_eq_head?, position_position]

theorem field_at_offset_from_end :
    readText [0x61, 0, 0xFF, 0x62, 0, 0x63, 0] (-5) (some 6) = (some "\uFFFDb", 5) ∧
      (2 < 5 ∧ 5 ≤ 6 ∧ '\x00' ∉ "\uFFFDb".toList) ∧
      (resume [0x61, 0, 0xFF, 0x62, 0, 0x63, 0] (some 6))^[4] (-5) = 6 := by
  have text : Utf8.decode [0xFF, 0x62] = "\uFFFDb" := by
    simp [Utf8.decode, Utf8.read, Utf8.lead?, Utf8.follow]
  have read : readText [0x61, 0, 0xFF, 0x62, 0, 0x63, 0] (-5) (some 6) = (some "\uFFFDb", 5) := by
    rw [← text]
    rfl
  obtain ⟨-, -, inside, -, reached⟩ :=
    field_at_offset [0x61, 0, 0xFF, 0x62, 0, 0x63, 0] (-5) (some 6)
  exact ⟨read, inside _ _ read, reached 4 (by decide)⟩

end ChatLink.Frame
