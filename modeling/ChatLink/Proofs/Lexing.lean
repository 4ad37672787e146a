import ChatLink.Json.Token
import ChatLink.Json.Writer
import Mathlib.Data.List.Forall2

namespace ChatLink.Json

section Numbers

variable {n : Nat} {c : Char} {rest : List Char}

theorem isDigit_of_mem (h : c ∈ Nat.toDigits 10 n) : isDigit c := by
  have digit := Nat.isDigit_of_mem_toDigits (by decide) (by decide) h
  simp only [Char.isDigit, Bool.and_eq_true, decide_eq_true_eq] at digit
  simp only [isDigit, Bool.and_eq_true, decide_eq_true_eq]
  exact digit

@[simp] theorem natOf_toDigits (n : Nat) : natOf (Nat.toDigits 10 n) = n :=
  Nat.ofDigitChars_ten_toDigits

theorem toDigits_head (h : 0 < n) : ∃ c digits, Nat.toDigits 10 n = c :: digits ∧ c ≠ '0' := by
  induction n using Nat.strongRecOn with
  | ind n ih =>
    by_cases small : n < 10
    · have single : ∀ m < 10, 0 < m → Nat.digitChar m ≠ '0' := by decide
      exact ⟨_, [], Nat.toDigits_of_lt_base small, single n small h⟩
    · obtain ⟨c, digits, same, nonzero⟩ := ih (n / 10) (by omega) (by omega)
      rw [Nat.toDigits_of_base_le (by decide) (Nat.not_lt.mp small), same]
      exact ⟨c, _, rfl, nonzero⟩

/-- Nothing that could belong to a number stands in front. -/
def EndsNumber : List Char → Prop
  | [] => True
  | c :: _ => isDigit c = false ∧ c ≠ '.' ∧ c ≠ 'e' ∧ c ≠ 'E'

theorem digits?_toDigits (h : EndsNumber rest) :
    digits? (Nat.toDigits 10 n ++ rest) = some (Nat.toDigits 10 n, rest) := by
  have digits : ∀ c ∈ Nat.toDigits 10 n, isDigit c := fun c => isDigit_of_mem
  have taken : rest.takeWhile isDigit = [] := by
    cases rest with
    | nil => rfl
    | cons c rest => rw [List.takeWhile_cons, h.1]; rfl
  have dropped : rest.dropWhile isDigit = rest := by
    cases rest with
    | nil => rfl
    | cons c rest => rw [List.dropWhile_cons, h.1]; rfl
  rw [digits?, List.takeWhile_append_of_pos digits, List.dropWhile_append_of_pos digits, taken,
    dropped, List.append_nil, if_neg]
  rw [List.isEmpty_iff]
  exact Nat.toDigits_ne_nil

theorem whole?_toDigits (h : EndsNumber rest) :
    whole? (Nat.toDigits 10 n ++ rest) = some (Nat.toDigits 10 n, rest) := by
  cases Nat.eq_zero_or_pos n with
  | inl zero =>
    rw [zero]
    rfl
  | inr positive =>
    obtain ⟨c, digits, same, nonzero⟩ := toDigits_head positive
    rw [← digits?_toDigits h, same, List.cons_append, whole?]
    intro _ zero
    exact nonzero (List.cons.inj zero).1

theorem fraction?_of_endsNumber (h : EndsNumber rest) : fraction? rest = some ([], rest) := by
  unfold fraction?
  split
  · exact absurd rfl h.2.1
  · rfl

theorem exponent?_of_endsNumber (h : EndsNumber rest) : exponent? rest = some (none, rest) := by
  unfold exponent?
  split
  · exact absurd rfl h.2.2.1
  · exact absurd rfl h.2.2.2
  · rfl

theorem integer?_toDigits {negative : Bool} {number : Int}
    (h : (if negative then -(n : Int) else n) = number)
    (fits : -2 ^ 63 ≤ number ∧ number < 2 ^ 64) :
    integer? negative (Nat.toDigits 10 n) = some (.int number) := by
  have short : (Nat.toDigits 10 n).length ≤ 20 := by
    rw [Nat.length_toDigits_le_iff (by decide) (by decide)]
    split at h <;> omega
  rw [integer?, if_neg (Nat.not_lt.mpr short)]
  simp only [natOf_toDigits, h, if_pos fits]

theorem unsigned?_toDigits (negative : Bool) {number : Int}
    (h : (if negative then -(n : Int) else n) = number)
    (fits : -2 ^ 63 ≤ number ∧ number < 2 ^ 64) (ends : EndsNumber rest) :
    unsigned? negative (Nat.toDigits 10 n ++ rest) = some (.int number, rest) := by
  rw [unsigned?, whole?_toDigits ends]
  simp [fraction?_of_endsNumber ends, exponent?_of_endsNumber ends, integer?_toDigits h fits]

theorem isDigit_of_head {digits : List Char} (h : Nat.toDigits 10 n = c :: digits) : isDigit c :=
  isDigit_of_mem (h ▸ List.mem_cons_self ..)

theorem exists_toDigits (n : Nat) : ∃ c digits, Nat.toDigits 10 n = c :: digits ∧ isDigit c := by
  cases same : Nat.toDigits 10 n with
  | nil => exact absurd same Nat.toDigits_ne_nil
  | cons c digits => exact ⟨c, digits, rfl, isDigit_of_head same⟩

theorem token?_number {text : List Char} (h : isDigit c ∨ c = '-') :
    token? (c :: text) = (number? (c :: text)).map fun (v, rest) => (.scalar v, rest) := by
  unfold token?
  split
  case h_11 => rfl
  all_goals
    rename_i same
    rw [(List.cons.inj same).1] at h
    exact absurd h (by decide)

theorem toList_toString (number : Int) : (toString number).toList =
    if 0 ≤ number then Nat.toDigits 10 number.toNat else '-' :: Nat.toDigits 10 (-number).toNat := by
  rw [Int.toString_eq_repr, Int.repr_eq_if]
  split
  · rw [Nat.repr_eq_ofList_toDigits, String.toList_ofList]
  · rw [String.toList_append, Nat.repr_eq_ofList_toDigits, String.toList_ofList,
      String.toList_ofList]
    rfl

theorem token?_toString {number : Int} (fits : -2 ^ 63 ≤ number ∧ number < 2 ^ 64)
    (ends : EndsNumber rest) :
    token? ((toString number).toList ++ rest) = some (.scalar (.int number), rest) := by
  rw [toList_toString]
  split
  · rename_i nonnegative
    obtain ⟨c, digits, same, digit⟩ := exists_toDigits number.toNat
    have value := unsigned?_toDigits false (Int.toNat_of_nonneg nonnegative) fits ends
    rw [same, List.cons_append] at value ⊢
    rw [token?_number (.inl digit), number?, value]
    · rfl
    · rintro _ minus
      rw [(List.cons.inj minus).1] at digit
      exact absurd digit (by decide)
  · have magnitude : -((-number).toNat : Int) = number := by omega
    have value := unsigned?_toDigits true magnitude fits ends
    rw [List.cons_append, token?_number (.inr rfl), number?, value]
    rfl

end Numbers

section Strings

variable {rest after : List Char} {pieces : List Piece}

def pieceOf (c : Char) : Piece :=
  if c.toNat < 0x20 ∧ c ∉ ['\x08', '\t', '\n', '\x0c', '\r'] then .unit c.toNat else .char c

theorem unit?_hexadecimal : ∀ n < 0x20, unit? (Text.hexadecimal 4 n) = some n := by
  decide

theorem pieces?_escape (c : Char) (h : pieces? rest = some (pieces, after)) :
    pieces? (escape c ++ rest) = some (pieceOf c :: pieces, after) := by
  rw [escape]
  split
  · rename_i special
    obtain rfl | rfl := special <;> simp [pieces?, escaped?, pieceOf, h]
  rename_i plain
  rw [not_or] at plain
  iterate 5
    split
    · rename_i same
      simp [same, pieces?, escaped?, pieceOf, h]
  split
  · rename_i low
    have number := unit?_hexadecimal c.toNat low
    simp only [Text.hexadecimal, List.nil_append, List.cons_append] at number ⊢
    rw [pieces?, number]
    simp [pieceOf, *]
  · rename_i high
    rw [List.cons_append, List.nil_append, pieces?]
    · simp [pieceOf, high, plain, h]
    · simp [plain]
    · simp [plain]
    · simp [plain]

theorem pieces?_escaped (text : List Char) (rest : List Char) :
    pieces? (text.flatMap escape ++ '"' :: rest) = some (text.map pieceOf, rest) := by
  induction text with
  | nil => rw [List.flatMap_nil, List.nil_append, pieces?]; rfl
  | cons c text ih =>
    rw [List.flatMap_cons, List.append_assoc]
    exact pieces?_escape c ih

theorem join?_unit {n : Nat} (h : n < 0xD800) (pieces : List Piece) :
    join? (.unit n :: pieces) = (join? pieces).map (Char.ofNat n :: ·) := by
  have low : ¬0xD800 ≤ n := Nat.not_le.mpr h
  cases pieces with
  | nil => simp [join?, low]
  | cons piece pieces => cases piece <;> simp [join?, low]

theorem join?_map_pieceOf (text : List Char) : join? (text.map pieceOf) = some text := by
  induction text with
  | nil => rfl
  | cons c text ih =>
    rw [List.map_cons, pieceOf]
    split
    · rename_i low
      rw [join?_unit (by omega), ih, c.ofNat_toNat]
      rfl
    · rw [join?, ih]
      rfl

theorem token?_stringText (s : String) (rest : List Char) :
    token? ((stringText s).toList ++ rest) = some (.scalar (.text s), rest) := by
  have characters : (stringText s).toList ++ rest =
      '"' :: (s.toList.flatMap escape ++ '"' :: rest) := by
    rw [stringText, String.toList_ofList, List.append_assoc]
    rfl
  rw [characters, token?, string?, pieces?_escaped]
  simp [join?_map_pieceOf]

end Strings

section Texts

variable {text rest : List Char} {tokens : List Token} {token : Token}

inductive Lexes : List Char → List Token → Prop
  | nil : Lexes [] []
  | blank {c text tokens} (h : isBlank c) (later : Lexes text tokens) : Lexes (c :: text) tokens
  | token {first rest token tokens} (h : token? (first ++ rest) = some (token, rest))
    (nonempty : first ≠ []) (later : Lexes rest tokens) : Lexes (first ++ rest) (token :: tokens)

theorem go_blank {c : Char} (h : isBlank c) (fuel : Nat) :
    tokens?.go fuel (c :: text) = tokens?.go fuel text := by
  cases fuel <;> simp only [tokens?.go, List.dropWhile_cons_of_pos h]

theorem token?_blank {c : Char} (h : isBlank c) : token? (c :: text) = none := by
  simp only [isBlank, Bool.or_eq_true, beq_iff_eq] at h
  obtain ((rfl | rfl) | rfl) | rfl := h <;> rfl

theorem dropWhile_of_token? (h : token? text = some (token, rest)) :
    text.dropWhile isBlank = text := by
  cases text with
  | nil => rfl
  | cons c text =>
    rw [List.dropWhile_cons_of_neg]
    intro blank
    rw [token?_blank blank] at h
    cases h

/-- There are as many steps as there are characters, and every token takes one of either. -/
theorem Lexes.go_eq (h : Lexes text tokens) {fuel : Nat} (enough : text.length ≤ fuel) :
    tokens?.go fuel text = some tokens := by
  induction h generalizing fuel with
  | nil => cases fuel <;> rfl
  | blank h later ih =>
    rw [go_blank h]
    exact ih (Nat.le_of_succ_le enough)
  | @token first rest token tokens h nonempty later ih =>
    have size := List.length_pos_iff.mpr nonempty
    rw [List.length_append] at enough
    cases fuel with
    | zero => omega
    | succ fuel =>
      rw [tokens?.go, dropWhile_of_token? h]
      split
      · rename_i none
        exact absurd (List.append_eq_nil_iff.mp none).1 nonempty
      · rw [h]
        change (do return token :: (← tokens?.go fuel rest)) = _
        rw [ih (by omega)]
        rfl

theorem Lexes.tokens?_eq (h : Lexes text tokens) : tokens? text = some tokens :=
  h.go_eq (Nat.le_refl _)

theorem lexes_blanks {blanks : List Char} (h : ∀ c ∈ blanks, isBlank c) (later : Lexes rest tokens) :
    Lexes (blanks ++ rest) tokens := by
  induction blanks with
  | nil => exact later
  | cons c blanks ih =>
    rw [List.forall_mem_cons] at h
    exact .blank h.1 (ih h.2)

theorem lexes_indent (level : Nat) (later : Lexes rest tokens) :
    Lexes ((indent level).toList ++ rest) tokens := by
  refine lexes_blanks ?_ later
  rw [indent, String.toList_ofList, List.forall_mem_cons]
  exact ⟨rfl, fun c member => List.eq_of_mem_replicate member ▸ rfl⟩

theorem endsNumber_indent (level : Nat) (rest : List Char) :
    EndsNumber ((indent level).toList ++ rest) := by
  rw [indent, String.toList_ofList]
  exact ⟨rfl, by decide, by decide, by decide⟩

def Marks (s : String) (token : Token) : Prop :=
  ∀ rest, token? (s.toList ++ rest) = some (token, rest)

theorem nonempty_of_token? {first : List Char} (h : token? (first ++ []) = some (token, [])) :
    first ≠ [] := by
  rintro rfl
  cases h

theorem Marks.lexes {s : String} (h : Marks s token) (later : Lexes rest tokens) :
    Lexes (s.toList ++ rest) (token :: tokens) :=
  .token (h rest) (nonempty_of_token? (h [])) later

/-- A text stands for tokens in front of whatever does not lengthen its last number. -/
def Spells (s : String) (tokens : List Token) : Prop :=
  ∀ rest later, EndsNumber rest → Lexes rest later → Lexes (s.toList ++ rest) (tokens ++ later)

theorem Marks.spells {s : String} (h : Marks s token) : Spells s [token] :=
  fun _ _ _ later => h.lexes later

theorem spells_int {number : Int} (fits : -2 ^ 63 ≤ number ∧ number < 2 ^ 64) :
    Spells (toString number) [.scalar (.int number)] :=
  fun _ _ ends later => .token (token?_toString fits ends)
    (nonempty_of_token? (token?_toString fits trivial)) later

theorem spells_entry {s : String} (key : String) (h : Spells s tokens) :
    Spells (stringText key ++ ": " ++ s) (.scalar (.text key) :: .colon :: tokens) := by
  intro rest later ends lexed
  have colon : Marks ":" .colon := fun _ => rfl
  have value := colon.lexes (.blank (c := ' ') rfl (h rest later ends lexed))
  rw [String.toList_append, String.toList_append, List.append_assoc, List.append_assoc]
  exact Marks.lexes (token?_stringText key) value

variable {items : List String} {parts : List (List Token)}

theorem spells_intercalate (level : Nat) (h : List.Forall₂ Spells items parts) :
    Spells (("," ++ indent level).intercalate items) ([.comma].intercalate parts) := by
  intro rest later ends lexed
  rw [String.toList_intercalate]
  induction h with
  | nil => exact lexed
  | @cons item part items parts first others ih =>
    cases others with
    | nil =>
      rw [List.map_singleton, List.intercalate_singleton, List.intercalate_singleton]
      exact first rest later ends lexed
    | cons second others =>
      have comma : Marks "," .comma := fun _ => rfl
      have behind := comma.lexes (lexes_indent level ih)
      rw [List.map_cons, List.map_cons, List.intercalate_cons_cons, List.intercalate_cons_cons,
        String.toList_append]
      rw [List.map_cons, String.toList_append] at behind
      simp only [List.append_assoc, List.cons_append, List.nil_append]
      exact first _ _ ⟨rfl, by decide, by decide, by decide⟩ behind

theorem spells_block {first last : String} {opening closing : Token} (level : Nat)
    (opens : Marks first opening) (closes : Marks last closing)
    (h : List.Forall₂ Spells items parts) :
    Spells (block level first last items) (opening :: ([.comma].intercalate parts ++ [closing])) := by
  intro rest later ends lexed
  have closed := closes.lexes lexed
  rw [block]
  cases h with
  | nil =>
    have empty := opens.lexes closed
    rw [← List.append_assoc, ← String.toList_append] at empty
    exact empty
  | cons item others =>
    have held := spells_intercalate (level + 1) (.cons item others) _ _ (endsNumber_indent level _)
      (lexes_indent level closed)
    have whole := opens.lexes (lexes_indent (level + 1) held)
    rw [if_neg (by simp)]
    simp only [String.toList_append, List.append_assoc, List.cons_append, List.nil_append] at whole ⊢
    exact whole

end Texts

end ChatLink.Json
