import ChatLink.Address
import ChatLink.Proofs.Lexing
import Mathlib

namespace ChatLink

namespace Text

variable {c : Char} {d : Nat}

/-- A property of characters that can be checked one by one for those of ASCII. -/
theorem ascii_cases {p : Char → Prop} (ascii : ∀ k < 128, p (Char.ofNat k))
    (large : ∀ c : Char, 128 ≤ c.toNat → p c) (c : Char) : p c := by
  by_cases small : c.toNat < 128
  · rw [← Char.ofNat_toNat c]
    exact ascii _ small
  · exact large c (Nat.not_lt.mp small)

theorem toLower_of_large (h : 128 ≤ c.toNat) : c.toLower = c := by
  apply Char.toLower_eq_of_not_isUpper
  intro upper
  simp only [Char.isUpper, decide_eq_true_eq] at upper
  have most : c.toNat ≤ 90 := upper.2
  omega

theorem hexDigit?_of_large (h : 128 ≤ c.toNat) : hexDigit? c = none := by
  have outside : ∀ k : Char, k.toNat < 128 → ¬c ≤ k := by
    intro k small most
    have : c.toNat ≤ k.toNat := most
    omega
  rw [hexDigit?, if_neg (fun digit => outside '9' (by decide) digit.2),
    if_neg (fun digit => outside 'f' (by decide) digit.2),
    if_neg (fun digit => outside 'F' (by decide) digit.2)]

theorem hexDigit?_eq_some_iff : hexDigit? c = some d ↔ d < 16 ∧ c.toLower = Nat.digitChar d := by
  have known : ∀ k < 128, ∀ d ∈ hexDigit? (Char.ofNat k), d < 16 := by decide
  have same : ∀ k < 128, ∀ d < 16,
      (hexDigit? (Char.ofNat k) = some d ↔ (Char.ofNat k).toLower = Nat.digitChar d) := by decide
  have small : ∀ d < 16, (Nat.digitChar d).toNat < 128 := by decide
  induction c using ascii_cases with
  | ascii k hk =>
    constructor
    · intro digit
      have few := known k hk d digit
      exact ⟨few, (same k hk d few).mp digit⟩
    · rintro ⟨few, digit⟩
      exact (same k hk d few).mpr digit
  | large c hc =>
    rw [hexDigit?_of_large hc, toLower_of_large hc]
    refine ⟨nofun, ?_⟩
    rintro ⟨few, rfl⟩
    exact absurd (small d few) (Nat.not_lt.mpr hc)

theorem isDigit_toLower (c : Char) : c.toLower.isDigit = c.isDigit := by
  have same : ∀ k < 128, (Char.ofNat k).toLower.isDigit = (Char.ofNat k).isDigit := by decide
  induction c using ascii_cases with
  | ascii k hk => exact same k hk
  | large c hc => rw [toLower_of_large hc]

theorem toLower_of_isDigit (h : c.isDigit) : c.toLower = c := by
  have same : ∀ k < 128, (Char.ofNat k).isDigit → (Char.ofNat k).toLower = Char.ofNat k := by decide
  induction c using ascii_cases with
  | ascii k hk => exact same k hk h
  | large c hc => exact toLower_of_large hc

end Text

namespace Address

section Numerals

variable {base n : Nat} {text : List Char} {c : Char}

def significant (base n : Nat) : List Char := if n = 0 then [] else Nat.toDigits base n

theorem significant_eq (hb : 1 < base) (hn : 0 < n) :
    significant base n = significant base (n / base) ++ [Nat.digitChar (n % base)] := by
  rw [significant, if_neg (Nat.ne_of_gt hn), significant]
  by_cases small : n < base
  · rw [if_pos (Nat.div_eq_of_lt small), Nat.toDigits_of_lt_base small, Nat.mod_eq_of_lt small]
    rfl
  · have some : 0 < n / base := Nat.div_pos (Nat.not_lt.mp small) (by omega)
    rw [if_neg (Nat.ne_of_gt some), Nat.toDigits_of_base_le hb (Nat.not_lt.mp small)]

/-- Text that stands for a number: its digits in either case, behind any number of zeros. -/
def Numeral (base : Nat) (text : List Char) (n : Nat) : Prop :=
  ∃ zeros, text.map Char.toLower = List.replicate zeros '0' ++ Nat.toDigits base n

theorem numeral_iff (hb : 1 < base) (ht : text ≠ []) : Numeral base text n ↔
    ∃ zeros, text.map Char.toLower = List.replicate zeros '0' ++ significant base n := by
  rw [significant]
  split
  · rename_i zero
    have single : Nat.toDigits base n = ['0'] := by
      rw [zero, Nat.toDigits_of_lt_base (by omega)]
      rfl
    rw [Numeral, single]
    constructor
    · rintro ⟨zeros, same⟩
      exact ⟨zeros + 1, by rw [same, List.append_nil, List.replicate_succ']⟩
    · rintro ⟨zeros, same⟩
      rw [List.append_nil] at same
      cases zeros with
      | zero => exact absurd (List.map_eq_nil_iff.mp same) ht
      | succ zeros => exact ⟨zeros, by rw [same, List.replicate_succ']⟩
  · rfl

theorem padded_concat {d zeros : Nat} (hb : 1 < base) (hd : d < base) :
    ∃ more, List.replicate zeros '0' ++ significant base n ++ [Nat.digitChar d] =
      List.replicate more '0' ++ significant base (base * n + d) := by
  by_cases nothing : base * n + d = 0
  · obtain ⟨none, rfl⟩ := Nat.add_eq_zero_iff.mp nothing
    obtain rfl : n = 0 := by
      rcases Nat.mul_eq_zero.mp none with _ | zero
      · omega
      · exact zero
    exact ⟨zeros + 1, by simp [significant, List.replicate_succ']⟩
  · refine ⟨zeros, ?_⟩
    rw [significant_eq hb (Nat.pos_of_ne_zero nothing), Nat.mul_add_div (by omega),
      Nat.div_eq_of_lt hd, Nat.add_zero, Nat.mul_add_mod, Nat.mod_eq_of_lt hd, List.append_assoc]

theorem exists_padded_concat {zeros : Nat} (hb : 1 < base)
    (h : List.replicate zeros '0' ++ significant base n ≠ []) :
    ∃ fewer, List.replicate zeros '0' ++ significant base n =
      List.replicate fewer '0' ++ significant base (n / base) ++ [Nat.digitChar (n % base)] := by
  rcases Nat.eq_zero_or_pos n with rfl | positive
  · cases zeros with
    | zero => exact absurd rfl h
    | succ zeros =>
      refine ⟨zeros, ?_⟩
      rw [Nat.zero_div, Nat.zero_mod, significant, if_pos rfl, List.append_nil, List.append_nil,
        List.replicate_succ']
      rfl
  · exact ⟨zeros, by rw [significant_eq hb positive, List.append_assoc]⟩

theorem numeral?_concat : numeral? base (text ++ [c]) = some n ↔
    ∃ m d, numeral? base text = some m ∧ Text.hexDigit? c = some d ∧ d < base ∧
      base * m + d = n := by
  rw [numeral?, List.foldlM_append]
  simp [numeral?, Option.bind_eq_some_iff]

theorem numeral?_eq_some_significant (hb : 1 < base) (most : base ≤ 16) :
    numeral? base text = some n ↔
      ∃ zeros, text.map Char.toLower = List.replicate zeros '0' ++ significant base n := by
  induction text using List.reverseRecOn generalizing n with
  | nil =>
    constructor
    · rintro ⟨⟩
      exact ⟨0, rfl⟩
    · rintro ⟨zeros, same⟩
      obtain ⟨-, none⟩ := List.append_eq_nil_iff.mp same.symm
      rw [significant] at none
      split at none
      · rename_i zero
        rw [zero]
        rfl
      · exact absurd none Nat.toDigits_ne_nil
  | append_singleton text c ih =>
    rw [numeral?_concat, List.map_append, List.map_singleton]
    constructor
    · rintro ⟨m, d, read, digit, small, rfl⟩
      obtain ⟨zeros, same⟩ := ih.mp read
      rw [same, (Text.hexDigit?_eq_some_iff.mp digit).2]
      exact padded_concat hb small
    · rintro ⟨zeros, same⟩
      have last : n % base < base := Nat.mod_lt n (by omega)
      obtain ⟨fewer, split⟩ := exists_padded_concat hb (by rw [← same]; simp)
      obtain ⟨front, digit⟩ := List.append_inj' (same.trans split) rfl
      exact ⟨n / base, n % base, ih.mpr ⟨fewer, front⟩,
        Text.hexDigit?_eq_some_iff.mpr ⟨by omega, List.cons.inj digit |>.1⟩, last,
        Nat.div_add_mod n base⟩

theorem numeral?_eq_some_iff (hb : 1 < base) (most : base ≤ 16) (ht : text ≠ []) :
    numeral? base text = some n ↔ Numeral base text n :=
  (numeral?_eq_some_significant hb most).trans (numeral_iff hb ht).symm

theorem isSome_hexDigit? (h : numeral? base text = some n) (hc : c ∈ text) :
    (Text.hexDigit? c).isSome := by
  induction text using List.reverseRecOn generalizing n with
  | nil => cases hc
  | append_singleton text last ih =>
    obtain ⟨m, d, read, digit, -, -⟩ := numeral?_concat.mp h
    rw [List.mem_append, List.mem_singleton] at hc
    obtain front | rfl := hc
    · exact ih read front
    · rw [digit]
      rfl

end Numerals

section Octets

variable {n : Nat} {part text : List Char}

theorem map_toLower_of_digits (h : ∀ c ∈ text, c.isDigit) : text.map Char.toLower = text :=
  (List.map_congr_left fun c hc => Text.toLower_of_isDigit (h c hc)).trans (List.map_id text)

theorem isDigit_of_padded {zeros : Nat} :
    ∀ c ∈ List.replicate zeros '0' ++ Nat.toDigits 10 n, c.isDigit := by
  intro c hc
  obtain zero | digit := List.mem_append.mp hc
  · rw [List.eq_of_mem_replicate zero]
    rfl
  · exact Nat.isDigit_of_mem_toDigits (by decide) (by decide) digit

theorem numeral_ten_iff :
    Numeral 10 text n ↔ ∃ zeros, text = List.replicate zeros '0' ++ Nat.toDigits 10 n := by
  constructor
  · rintro ⟨zeros, same⟩
    have digits : ∀ c ∈ text, c.isDigit := fun c hc => by
      rw [← Text.isDigit_toLower]
      exact isDigit_of_padded _ (same ▸ List.mem_map_of_mem hc)
    rw [map_toLower_of_digits digits] at same
    exact ⟨zeros, same⟩
  · rintro ⟨zeros, rfl⟩
    exact ⟨zeros, map_toLower_of_digits isDigit_of_padded⟩

theorem octet?_cases : octet? part = some n ↔
    (1 ≤ part.length ∧ part.length ≤ 3 ∧ (part.head? = some '0' → part.length = 1)) ∧
      numeral? 10 part = some n ∧ n < 256 := by
  simp [octet?, Option.bind_eq_some_iff]

theorem octet?_eq_some_iff : octet? part = some n ↔ n < 256 ∧ part = Nat.toDigits 10 n := by
  rw [octet?_cases]
  constructor
  · rintro ⟨⟨some, -, lone⟩, read, small⟩
    refine ⟨small, ?_⟩
    have nonempty : part ≠ [] := List.ne_nil_of_length_pos some
    obtain ⟨zeros, rfl⟩ :=
      numeral_ten_iff.mp ((numeral?_eq_some_iff (by decide) (by decide) nonempty).mp read)
    cases zeros with
    | zero => rfl
    | succ zeros =>
      have digits : 0 < (Nat.toDigits 10 n).length := List.length_pos_iff.mpr Nat.toDigits_ne_nil
      have single := lone rfl
      rw [List.length_append, List.length_replicate] at single
      omega
  · rintro ⟨small, rfl⟩
    have read : Numeral 10 (Nat.toDigits 10 n) n := numeral_ten_iff.mpr ⟨0, rfl⟩
    refine ⟨⟨List.length_pos_iff.mpr Nat.toDigits_ne_nil, ?_, ?_⟩,
      (numeral?_eq_some_iff (by decide) (by decide) Nat.toDigits_ne_nil).mpr read, small⟩
    · exact (Nat.length_toDigits_le_iff (by decide) (by decide)).mpr (by omega)
    · intro zero
      rcases Nat.eq_zero_or_pos n with rfl | positive
      · rfl
      · obtain ⟨c, digits, same, nonzero⟩ := Json.toDigits_head positive
        rw [same] at zero
        exact absurd (Option.some.inj zero) nonzero

end Octets

section Pieces

variable {separator : Char} {text : List Char}

def joined (separator : Char) (pieces : List (List Char)) : List Char :=
  [separator].intercalate pieces

theorem pieces_eq (separator : Char) (text : List Char) :
    pieces separator text = text.splitOn separator := by
  induction text with
  | nil => rfl
  | cons c rest ih =>
    rw [pieces, ih, List.splitOn, List.splitOn, List.splitOnP_cons_eq_if_modifyHead]
    by_cases h : c = separator
    · simp [h]
    · obtain ⟨piece, more, same⟩ := List.exists_cons_of_ne_nil (List.splitOn_ne_nil separator rest)
      rw [List.splitOn] at same
      simp [h, same]

theorem pieces_ne_nil (separator : Char) (text : List Char) : pieces separator text ≠ [] := by
  rw [pieces_eq]
  exact List.splitOn_ne_nil separator text

@[simp] theorem joined_pieces (separator : Char) (text : List Char) :
    joined separator (pieces separator text) = text := by
  rw [pieces_eq]
  exact List.intercalate_splitOn separator

theorem pieces_joined {parts : List (List Char)} (free : ∀ part ∈ parts, separator ∉ part)
    (some : parts ≠ []) : pieces separator (joined separator parts) = parts := by
  rw [pieces_eq]
  exact List.splitOn_intercalate separator free some

theorem not_mem_of_mem_pieces {piece : List Char} (h : piece ∈ pieces separator text) :
    separator ∉ piece := by
  induction text generalizing piece with
  | nil =>
    rw [pieces, List.mem_singleton] at h
    rw [h]
    exact List.not_mem_nil
  | cons c rest ih =>
    rw [pieces] at h
    split at h
    · rw [List.mem_cons] at h
      obtain rfl | later := h
      · exact List.not_mem_nil
      · exact ih later
    · rename_i other
      obtain ⟨first, more, same⟩ := List.exists_cons_of_ne_nil (pieces_ne_nil separator rest)
      simp only [same, List.mem_cons] at h ih
      obtain rfl | later := h
      · rw [List.mem_cons, not_or]
        exact ⟨Ne.symm other, ih (.inl rfl)⟩
      · exact ih (.inr later)

theorem pieces_eq_iff {parts : List (List Char)} (some : parts ≠ []) :
    pieces separator text = parts ↔
      text = joined separator parts ∧ ∀ part ∈ parts, separator ∉ part := by
  constructor
  · rintro rfl
    exact ⟨(joined_pieces separator text).symm, fun _ => not_mem_of_mem_pieces⟩
  · rintro ⟨rfl, free⟩
    exact pieces_joined free some

@[simp] theorem joined_singleton (separator : Char) (part : List Char) :
    joined separator [part] = part :=
  List.intercalate_singleton

@[simp] theorem joined_cons_cons (separator : Char) (part next : List Char)
    (rest : List (List Char)) :
    joined separator (part :: next :: rest) =
      part ++ separator :: joined separator (next :: rest) := by
  simp [joined, List.intercalate_cons_cons]

theorem joined_append {front rest : List (List Char)} (some : front ≠ []) (more : rest ≠ []) :
    joined separator (front ++ rest) =
      joined separator front ++ separator :: joined separator rest := by
  induction front with
  | nil => exact absurd rfl some
  | cons part front ih =>
    cases front with
    | nil =>
      obtain ⟨next, rest, rfl⟩ := List.exists_cons_of_ne_nil more
      simp
    | cons next front =>
      have later := ih (List.cons_ne_nil _ _)
      rw [List.cons_append] at later
      simp [later]

theorem mem_joined {parts : List (List Char)} {c : Char} (h : c ∈ joined separator parts) :
    c = separator ∨ ∃ part ∈ parts, c ∈ part := by
  induction parts with
  | nil => cases h
  | cons part parts ih =>
    cases parts with
    | nil =>
      rw [joined_singleton] at h
      exact .inr ⟨part, List.mem_cons_self, h⟩
    | cons next parts =>
      rw [joined_cons_cons, List.mem_append, List.mem_cons] at h
      obtain first | rfl | later := h
      · exact .inr ⟨part, List.mem_cons_self, first⟩
      · exact .inl rfl
      · obtain same | ⟨other, inside, mem⟩ := ih later
        · exact .inl same
        · exact .inr ⟨other, List.mem_cons_of_mem _ inside, mem⟩

theorem mapM_eq_some_iff {α β : Type} {f : α → Option β} {xs : List α} {ys : List β} :
    xs.mapM f = some ys ↔ List.Forall₂ (fun x y => f x = some y) xs ys := by
  induction xs generalizing ys with
  | nil => simp [eq_comm]
  | cons x xs ih =>
    rw [List.mapM_cons, List.forall₂_cons_left_iff]
    simp only [Option.bind_eq_bind, Option.bind_eq_some_iff, ih, Option.pure_def, Option.some.injEq]
    constructor
    · rintro ⟨y, first, ys, later, rfl⟩
      exact ⟨y, ys, first, later, rfl⟩
    · rintro ⟨y, ys, first, later, rfl⟩
      exact ⟨y, first, ys, later, rfl⟩

end Pieces

section Quads

inductive Quad : List Char → Nat → Prop
  | octets {a b c d : Nat} : a < 256 → b < 256 → c < 256 → d < 256 →
    Quad (joined '.' ([a, b, c, d].map (Nat.toDigits 10))) (((a * 256 + b) * 256 + c) * 256 + d)

variable {text : List Char} {n : Nat}

theorem dot_not_mem_toDigits (n : Nat) : '.' ∉ Nat.toDigits 10 n := by
  intro dot
  have digit := Nat.isDigit_of_mem_toDigits (by decide) (by decide) dot
  revert digit
  decide

theorem pieces_octets (octets : List Nat) (some : octets ≠ []) :
    pieces '.' (joined '.' (octets.map (Nat.toDigits 10))) = octets.map (Nat.toDigits 10) := by
  refine pieces_joined ?_ (List.map_eq_nil_iff.not.mpr some)
  rw [List.forall_mem_map]
  exact fun n _ => dot_not_mem_toDigits n

theorem forall₂_octet?_iff {parts : List (List Char)} {octets : List Nat} :
    List.Forall₂ (fun part n => octet? part = some n) parts octets ↔
      parts = octets.map (Nat.toDigits 10) ∧ ∀ n ∈ octets, n < 256 := by
  induction octets generalizing parts with
  | nil => simp
  | cons n octets ih =>
    simp only [List.forall₂_cons_right_iff, ih]
    simp only [octet?_eq_some_iff, List.map_cons, List.forall_mem_cons]
    constructor
    · rintro ⟨_, _, ⟨small, rfl⟩, ⟨rfl, others⟩, rfl⟩
      exact ⟨rfl, small, others⟩
    · rintro ⟨rfl, small, others⟩
      exact ⟨_, _, ⟨small, rfl⟩, ⟨rfl, others⟩, rfl⟩

theorem quad?_cases : quad? text = some n ↔
    ∃ octets, (pieces '.' text).mapM octet? = some octets ∧ octets.length = 4 ∧
      octets.foldl (fun n octet => 256 * n + octet) 0 = n := by
  simp [quad?, Option.bind_eq_some_iff]

theorem quad?_eq_some_iff : quad? text = some n ↔ Quad text n := by
  simp only [quad?_cases, mapM_eq_some_iff, forall₂_octet?_iff]
  constructor
  · rintro ⟨octets, ⟨split, small⟩, four, rfl⟩
    obtain ⟨a, b, c, d, rfl⟩ := List.length_eq_four.mp four
    rw [← joined_pieces '.' text, split]
    convert Quad.octets (small a (by simp)) (small b (by simp)) (small c (by simp))
      (small d (by simp)) using 1
    simp only [List.foldl_cons, List.foldl_nil]
    omega
  · rintro @⟨a, b, c, d, ha, hb, hc, hd⟩
    refine ⟨[a, b, c, d], ⟨pieces_octets _ (List.cons_ne_nil _ _), ?_⟩, rfl, ?_⟩
    · simp [ha, hb, hc, hd]
    · simp only [List.foldl_cons, List.foldl_nil]
      omega

end Quads

end Address

end ChatLink
