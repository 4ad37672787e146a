import ChatLink.Json.Reader
import Mathlib.Data.List.Basic

/-!
The grammar of values over tokens. The reader, which has no more than a stack of what is still open, reads
exactly what the grammar derives, so long as there is room for all that is nested.
-/

namespace ChatLink.Json

structure Member where
  key : String
  tokens : List Token
  value : Value

def Member.pair (member : Member) : String × Value := (member.key, member.value)

def Member.all (member : Member) : List Token :=
  .scalar (.text member.key) :: .colon :: member.tokens

def tableTokens (members : List Member) : List Token :=
  .openTable :: ([.comma].intercalate (members.map Member.all) ++ [.closeTable])

/-- The tokens of a value, where there is room for so many levels. The same key may be given again. -/
inductive Forms : Nat → List Token → Value → Prop
  | scalar (room : Nat) (v : Value) : Forms room [.scalar v] v
  | list {room : Nat} {items : List (List Token × Value)}
      (h : ∀ item ∈ items, Forms room item.1 item.2) :
      Forms (room + 1) (.openList :: ([.comma].intercalate (items.map Prod.fst) ++ [.closeList]))
        (.list (items.map Prod.snd))
  | table {room : Nat} {members : List Member}
      (h : ∀ member ∈ members, Forms room member.tokens member.value) :
      Forms (room + 1) (tableTokens members) (.table (Table.ofList (members.map Member.pair)))

theorem intercalate_cons (first : List Token) (others : List (List Token)) :
    [.comma].intercalate (first :: others) = first ++ others.flatMap (.comma :: ·) := by
  induction others generalizing first with
  | nil => simp
  | cons second others ih => simp [ih]

variable {stack : List Level} {room : Nat} {first used tokens rest : List Token} {v w : Value}
  {items : List (List Token × Value)} {members : List Member}

theorem Forms.mono {more : Nat} (h : Forms room used v) (le : room ≤ more) : Forms more used v := by
  induction h generalizing more with
  | scalar => exact .scalar more _
  | list _ ih =>
    cases more with
    | zero => cases le
    | succ more => exact .list fun item inside => ih item inside (Nat.le_of_succ_le_succ le)
  | table _ ih =>
    cases more with
    | zero => cases le
    | succ more => exact .table fun member inside => ih member inside (Nat.le_of_succ_le_succ le)

theorem Forms.append_ne (h : Forms room used v) (after : List Token) :
    used ++ after ≠ .closeList :: rest := by
  cases h <;> simp [tableTokens]

section Complete

/-- Tokens that have the effect of a value, wherever there is room for so many levels. -/
def Stands (room : Nat) (used : List Token) (v : Value) : Prop :=
  ∀ stack rest, stack.length + room ≤ maxDepth → value? stack (used ++ rest) = finish? stack v rest

theorem value?_items (before : List Value) (h : Stands room first v)
    (others : ∀ item ∈ items, Stands room item.1 item.2)
    (fits : stack.length + 1 + room ≤ maxDepth) :
    value? (.list before :: stack)
        (first ++ ((items.map Prod.fst).flatMap (.comma :: ·) ++ .closeList :: rest)) =
      finish? stack (.list (before.reverse ++ v :: items.map Prod.snd)) rest := by
  rw [h (.list before :: stack) _ fits]
  induction items generalizing first v before with
  | nil => simp [finish?]
  | cons item items ih =>
    rw [List.forall_mem_cons] at others
    have first := others.1 (.list (v :: before) :: stack)
    have later := ih (v :: before) others.1 others.2
    simp [finish?, first _ fits, later]

theorem value?_members (before : List (String × Value)) (key : String) (h : Stands room first v)
    (others : ∀ member ∈ members, Stands room member.tokens member.value)
    (fits : stack.length + 1 + room ≤ maxDepth) :
    value? (.table before key :: stack)
        (first ++ ((members.map Member.all).flatMap (.comma :: ·) ++ .closeTable :: rest)) =
      finish? stack (.table (Table.ofList (before.reverse ++ (key, v) :: members.map Member.pair)))
        rest := by
  rw [h (.table before key :: stack) _ fits]
  induction members generalizing first v before key with
  | nil => simp [finish?]
  | cons member members ih =>
    rw [List.forall_mem_cons] at others
    have later := ih ((key, v) :: before) member.key others.1 others.2
    have first := others.1 (.table ((key, v) :: before) member.key :: stack)
    simp [finish?, Member.all, first _ fits, later, Member.pair]

theorem Forms.stands (h : Forms room used v) : Stands room used v := by
  induction h with
  | scalar room v => simp [Stands, value?]
  | @list room items h ih =>
    intro stack rest fits
    have shallow : ¬maxDepth ≤ stack.length := by omega
    cases items with
    | nil => simp [value?, shallow]
    | cons item items =>
      rw [List.forall_mem_cons] at h ih
      rw [List.map_cons, intercalate_cons]
      simp only [List.cons_append, List.append_assoc, List.nil_append]
      rw [value?, if_neg shallow]
      · exact value?_items [] ih.1 ih.2 (by omega)
      · intro rest
        exact h.1.append_ne _
  | @table room members h ih =>
    intro stack rest fits
    have shallow : ¬maxDepth ≤ stack.length := by omega
    cases members with
    | nil => simp [tableTokens, value?, shallow, Table.ofList, Table.update]
    | cons member members =>
      rw [List.forall_mem_cons] at ih
      rw [tableTokens, List.map_cons, intercalate_cons]
      simp only [List.cons_append, List.append_assoc, List.nil_append, Member.all]
      rw [value?, if_neg shallow]
      exact value?_members [] member.key ih.1 ih.2 (by omega)

end Complete

section Sound

/-- The tokens that are still due behind a value, until all that is open is closed. -/
inductive Closes : List Level → Value → List Token → Value → Prop
  | whole (v : Value) : Closes [] v [] v
  | list {before : List Value} {stack : List Level} {v w : Value}
      {items : List (List Token × Value)} {rest : List Token}
      (h : ∀ item ∈ items, Forms (maxDepth - (stack.length + 1)) item.1 item.2)
      (later : Closes stack (.list (before.reverse ++ v :: items.map Prod.snd)) rest w) :
      Closes (.list before :: stack) v
        ((items.map Prod.fst).flatMap (.comma :: ·) ++ .closeList :: rest) w
  | table {before : List (String × Value)} {key : String} {stack : List Level} {v w : Value}
      {members : List Member} {rest : List Token}
      (h : ∀ member ∈ members, Forms (maxDepth - (stack.length + 1)) member.tokens member.value)
      (later : Closes stack
        (.table (Table.ofList (before.reverse ++ (key, v) :: members.map Member.pair))) rest w) :
      Closes (.table before key :: stack) v
        ((members.map Member.all).flatMap (.comma :: ·) ++ .closeTable :: rest) w

theorem Closes.endList {before : List Value}
    (h : Closes stack (.list (v :: before).reverse) rest w) :
    Closes (.list before :: stack) v (.closeList :: rest) w := by
  have empty : ∀ item ∈ ([] : List (List Token × Value)),
      Forms (maxDepth - (stack.length + 1)) item.1 item.2 :=
    List.forall_mem_nil _
  simpa using Closes.list empty (by simpa using h)

theorem Closes.endTable {before : List (String × Value)} {key : String}
    (h : Closes stack (.table (Table.ofList ((key, v) :: before).reverse)) rest w) :
    Closes (.table before key :: stack) v (.closeTable :: rest) w := by
  have empty : ∀ member ∈ ([] : List Member),
      Forms (maxDepth - (stack.length + 1)) member.tokens member.value :=
    List.forall_mem_nil _
  simpa using Closes.table empty (by simpa using h)

def Opens (stack : List Level) (tokens : List Token) (w : Value) : Prop :=
  ∃ used v rest, tokens = used ++ rest ∧ Forms (maxDepth - stack.length) used v ∧
    Closes stack v rest w

theorem exists_room (shallow : ¬maxDepth ≤ stack.length) :
    ∃ room, maxDepth - stack.length = room + 1 ∧ maxDepth - (stack.length + 1) = room :=
  ⟨maxDepth - (stack.length + 1), by omega, rfl⟩

theorem Opens.emptyList (shallow : ¬maxDepth ≤ stack.length) (h : Closes stack (.list []) rest w) :
    Opens stack (.openList :: .closeList :: rest) w := by
  obtain ⟨room, deep, -⟩ := exists_room shallow
  have empty : ∀ item ∈ ([] : List (List Token × Value)), Forms room item.1 item.2 :=
    List.forall_mem_nil _
  have whole := Forms.list empty
  rw [← deep] at whole
  exact ⟨_, _, rest, by simp, whole, h⟩

theorem Opens.emptyTable (shallow : ¬maxDepth ≤ stack.length) (h : Closes stack (.table []) rest w) :
    Opens stack (.openTable :: .closeTable :: rest) w := by
  obtain ⟨room, deep, -⟩ := exists_room shallow
  have empty : ∀ member ∈ ([] : List Member), Forms room member.tokens member.value :=
    List.forall_mem_nil _
  have whole := Forms.table empty
  rw [← deep] at whole
  exact ⟨_, _, rest, by simp [tableTokens], whole, h⟩

theorem Opens.list (shallow : ¬maxDepth ≤ stack.length) (h : Opens (.list [] :: stack) tokens w) :
    Opens stack (.openList :: tokens) w := by
  obtain ⟨used, v, rest, rfl, forms, closes⟩ := h
  obtain ⟨room, deep, inner⟩ := exists_room shallow
  cases closes with
  | @list _ _ _ _ items rest each later =>
    rw [List.length_cons, inner] at forms
    rw [inner] at each
    have all : ∀ item ∈ (used, v) :: items, Forms room item.1 item.2 :=
      List.forall_mem_cons.mpr ⟨forms, each⟩
    have whole := Forms.list all
    rw [← deep] at whole
    exact ⟨_, _, rest, by simp [intercalate_cons], whole, later⟩

theorem Opens.table {key : String} (shallow : ¬maxDepth ≤ stack.length)
    (h : Opens (.table [] key :: stack) tokens w) :
    Opens stack (.openTable :: .scalar (.text key) :: .colon :: tokens) w := by
  obtain ⟨used, v, rest, rfl, forms, closes⟩ := h
  obtain ⟨room, deep, inner⟩ := exists_room shallow
  cases closes with
  | @table _ _ _ _ _ members rest each later =>
    rw [List.length_cons, inner] at forms
    rw [inner] at each
    have all : ∀ member ∈ ⟨key, used, v⟩ :: members, Forms room member.tokens member.value :=
      List.forall_mem_cons.mpr ⟨forms, each⟩
    have whole := Forms.table all
    rw [← deep] at whole
    exact ⟨_, _, rest, by simp [tableTokens, intercalate_cons, Member.all], whole, later⟩

theorem Opens.nextItem {before : List Value} (h : Opens (.list (v :: before) :: stack) tokens w) :
    Closes (.list before :: stack) v (.comma :: tokens) w := by
  obtain ⟨used, next, rest, rfl, forms, closes⟩ := h
  cases closes with
  | @list _ _ _ _ items rest each later =>
    have all : ∀ item ∈ (used, next) :: items,
        Forms (maxDepth - (stack.length + 1)) item.1 item.2 :=
      List.forall_mem_cons.mpr ⟨forms, each⟩
    simpa using Closes.list all (by simpa using later)

theorem Opens.nextMember {before : List (String × Value)} {key next : String}
    (h : Opens (.table ((key, v) :: before) next :: stack) tokens w) :
    Closes (.table before key :: stack) v (.comma :: .scalar (.text next) :: .colon :: tokens) w := by
  obtain ⟨used, value, rest, rfl, forms, closes⟩ := h
  cases closes with
  | @table _ _ _ _ _ members rest each later =>
    have all : ∀ member ∈ ⟨next, used, value⟩ :: members,
        Forms (maxDepth - (stack.length + 1)) member.tokens member.value :=
      List.forall_mem_cons.mpr ⟨forms, each⟩
    simpa [Member.all] using Closes.table all (by simpa [Member.pair] using later)

/-- Whatever the reader reads has a derivation: one case for each token that it can meet, in front of a
value and behind one. -/
theorem opens_of_value? :
    (∀ stack tokens w, value? stack tokens = some w → Opens stack tokens w) ∧
    ∀ stack (v : Value) tokens w, finish? stack v tokens = some w → Closes stack v tokens w := by
  refine value?.mutual_induct
    (fun stack tokens => ∀ w, value? stack tokens = some w → Opens stack tokens w)
    (fun stack v tokens => ∀ w, finish? stack v tokens = some w → Closes stack v tokens w)
    ?scalar ?deepList ?emptyList ?list ?deepTable ?emptyTable ?table ?noTable ?noValue ?whole
    ?unclosed ?nextItem ?closeList ?nextMember ?closeTable ?stuck
  case scalar =>
    intro stack v rest ih w h
    rw [value?] at h
    exact ⟨[.scalar v], v, rest, rfl, .scalar _ v, ih w h⟩
  case deepList =>
    intro stack rest deep w h
    unfold value? at h
    simp [deep] at h
  case emptyList =>
    intro stack shallow rest ih w h
    rw [value?, if_neg shallow] at h
    exact .emptyList shallow (ih w h)
  case list =>
    intro stack shallow rest filled ih w h
    rw [value?, if_neg shallow] at h
    · exact .list shallow (ih w h)
    · exact filled
  case deepTable =>
    intro stack rest deep w h
    unfold value? at h
    simp [deep] at h
  case emptyTable =>
    intro stack shallow rest ih w h
    rw [value?, if_neg shallow] at h
    exact .emptyTable shallow (ih w h)
  case table =>
    intro stack shallow key rest ih w h
    rw [value?, if_neg shallow] at h
    exact .table shallow (ih w h)
  case noTable =>
    intro stack rest shallow filled keyless w h
    rw [value?, if_neg shallow] at h
    · cases h
    · exact filled
    · exact keyless
  case noValue =>
    intro stack tokens scalar list table w h
    rw [value?] at h
    · cases h
    · exact scalar
    · exact list
    · exact table
  case whole =>
    intro stack v empty w h
    rw [finish?, if_pos empty] at h
    cases h
    cases List.isEmpty_iff.mp empty
    exact .whole v
  case unclosed =>
    intro stack v filled w h
    rw [finish?, if_neg filled] at h
    cases h
  case nextItem =>
    intro v items stack rest ih w h
    rw [finish?] at h
    exact (ih w h).nextItem
  case closeList =>
    intro v items stack rest ih w h
    rw [finish?] at h
    exact .endList (ih w h)
  case nextMember =>
    intro v entries key stack next rest ih w h
    rw [finish?] at h
    exact (ih w h).nextMember
  case closeTable =>
    intro v entries key stack rest ih w h
    rw [finish?] at h
    exact .endTable (ih w h)
  case stuck =>
    intro stack v token rest nextItem closeList closeTable nextMember w h
    rw [finish?] at h
    · cases h
    · exact nextItem
    · exact closeList
    · exact closeTable
    · exact nextMember

end Sound

theorem value?_eq_some_iff : value? [] tokens = some w ↔ Forms maxDepth tokens w := by
  constructor
  · intro h
    obtain ⟨used, v, rest, rfl, forms, closes⟩ := opens_of_value?.1 [] tokens w h
    cases closes
    simpa using forms
  · intro h
    have whole := h.stands [] [] (by simp)
    simpa [finish?] using whole

inductive Single : Value → Prop
  | null : Single .null
  | bool (b) : Single (.bool b)
  | int (n) : Single (.int n)
  | real {x : Binary64} (h : ∀ negative, x ≠ .infinite negative) : Single (.real x)
  | text (s) : Single (.text s)

section Lexed

variable {text after : List Char} {negative : Bool}

theorem single_of_real? {whole fraction : List Char} {exponent : Int}
    (h : real? negative whole fraction exponent = some v) : Single v := by
  rw [real?] at h
  split at h
  · cases h
  · rename_i finite
    cases h
    exact .real finite

theorem single_of_integer? (h : integer? negative text = some v) : Single v := by
  rw [integer?] at h
  split at h
  · exact single_of_real? h
  · dsimp only at h
    generalize (if negative then -(natOf text : Int) else natOf text) = n at h
    split at h
    · cases h
      exact .int n
    · exact single_of_real? h

theorem single_of_unsigned? (h : unsigned? negative text = some (v, after)) : Single v := by
  obtain ⟨_, -, h⟩ := Option.bind_eq_some_iff.mp h
  obtain ⟨_, -, h⟩ := Option.bind_eq_some_iff.mp h
  obtain ⟨_, -, h⟩ := Option.bind_eq_some_iff.mp h
  dsimp only at h
  split at h
  · obtain ⟨_, number, h⟩ := Option.bind_eq_some_iff.mp h
    cases h
    exact single_of_integer? number
  · obtain ⟨_, number, h⟩ := Option.bind_eq_some_iff.mp h
    cases h
    exact single_of_real? number

theorem single_of_number? (h : number? text = some (v, after)) : Single v := by
  unfold number? at h
  split at h <;> exact single_of_unsigned? h

theorem single_of_string? (h : string? text = some (v, after)) : Single v := by
  obtain ⟨_, -, h⟩ := Option.bind_eq_some_iff.mp h
  obtain ⟨_, -, h⟩ := Option.bind_eq_some_iff.mp h
  cases h
  exact .text _

theorem single_of_token? (h : token? text = some (.scalar v, after)) : Single v := by
  unfold token? at h
  split at h <;> try cases h
  · obtain ⟨_, string, h⟩ := Option.map_eq_some_iff.mp h
    cases h
    exact single_of_string? string
  · exact .bool true
  · exact .bool false
  · exact .null
  · obtain ⟨_, number, h⟩ := Option.map_eq_some_iff.mp h
    cases h
    exact single_of_number? number

theorem single_of_tokens? (h : tokens? text = some tokens) :
    ∀ v, .scalar v ∈ tokens → Single v := by
  rw [tokens?] at h
  generalize text.length = fuel at h
  induction fuel generalizing text tokens with
  | zero =>
    rw [tokens?.go] at h
    split at h <;> simp_all
  | succ fuel ih =>
    rw [tokens?.go] at h
    split at h
    · simp_all
    · obtain ⟨⟨token, after⟩, first, h⟩ := Option.bind_eq_some_iff.mp h
      obtain ⟨later, others, h⟩ := Option.bind_eq_some_iff.mp h
      cases h
      intro v inside
      cases inside with
      | head => exact single_of_token? first
      | tail _ inside => exact ih others v inside

end Lexed

variable {content : Bytes}

theorem read_eq_some_iff : read content = some v ↔ ∃ text tokens, Utf8.decode? content = some text ∧
    tokens? text.toList = some tokens ∧ Forms maxDepth tokens v := by
  simp only [read, bind, Option.bind_eq_some_iff, value?_eq_some_iff]
  tauto

def Lists (content : Bytes) (pairs : List (String × Value)) : Prop :=
  ∃ text members, Utf8.decode? content = some text ∧ tokens? text.toList = some (tableTokens members) ∧
    (∀ member ∈ members, Forms (maxDepth - 1) member.tokens member.value) ∧
    pairs = members.map Member.pair

theorem read_eq_table_iff {table : Table} : read content = some (.table table) ↔
    ∃ pairs, Lists content pairs ∧ table = Table.ofList pairs := by
  rw [read_eq_some_iff]
  constructor
  · rintro ⟨text, tokens, decoded, lexed, forms⟩
    cases forms with
    | scalar => cases single_of_tokens? lexed (.table table) (by simp)
    | @table _ members each => exact ⟨_, ⟨text, members, decoded, lexed, each, rfl⟩, rfl⟩
  · rintro ⟨pairs, ⟨text, members, decoded, lexed, each, rfl⟩, rfl⟩
    exact ⟨text, _, decoded, lexed, .table each⟩

end ChatLink.Json
