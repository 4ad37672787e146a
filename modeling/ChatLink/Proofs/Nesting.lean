import ChatLink.Proofs.Grammar
import ChatLink.Proofs.Lexing
import ChatLink.Proofs.Tables
import ChatLink.Proofs.Utf8

namespace ChatLink

/-- Whole numbers, strings, and what is made of them with no key given twice. All this is read as it was
written. -/
inductive Value.Exact : Value → Prop
  | null : Exact .null
  | bool (b) : Exact (.bool b)
  | int (n) : Exact (.int n)
  | text (s) : Exact (.text s)
  | list {items} (h : ∀ v ∈ items, Exact v) : Exact (.list items)
  | table {entries} (h : ∀ entry ∈ entries, Exact entry.2)
    (nodup : (entries.map Prod.fst).Nodup) : Exact (.table entries)

namespace Value

theorem depth_le_of_mem_items {v : Value} {items : List Value} (h : v ∈ items) :
    v.depth ≤ depthOfItems items := by
  induction items with
  | nil => cases h
  | cons first rest ih =>
    rw [depthOfItems]
    obtain rfl | later := List.mem_cons.mp h
    · exact Nat.le_max_left ..
    · exact Nat.le_trans (ih later) (Nat.le_max_right ..)

theorem depthOfEntries_eq (entries : List (String × Value)) :
    depthOfEntries entries = depthOfItems (entries.map Prod.snd) := by
  induction entries with
  | nil => rfl
  | cons entry entries ih => rw [depthOfEntries, ih, List.map_cons, depthOfItems]

end Value

namespace Json

mutual

def tokens : Value → List Token
  | .list items => .openList :: ([.comma].intercalate (itemTokens items) ++ [.closeList])
  | .table entries => .openTable :: ([.comma].intercalate (entryTokens entries) ++ [.closeTable])
  | v => [.scalar v]

def itemTokens : List Value → List (List Token)
  | [] => []
  | v :: rest => tokens v :: itemTokens rest

def entryTokens : List (String × Value) → List (List Token)
  | [] => []
  | (key, v) :: rest => (.scalar (.text key) :: .colon :: tokens v) :: entryTokens rest

end

variable {level : Nat} {v : Value} {s : String} {items : List Value} {texts : List String}
  {entries : List (String × Value)}

section Writing

theorem exists_of_container {p : Prop} [Decidable p] {x : Option (List String)}
    {f : List String → String} (h : (if p then none else x.map f) = some s) :
    ¬p ∧ ∃ texts, x = some texts ∧ s = f texts := by
  split at h
  · cases h
  · rename_i shallow
    obtain ⟨texts, written, same⟩ := Option.map_eq_some_iff.mp h
    exact ⟨shallow, texts, written, same.symm⟩

theorem text?_list (h : text? level (.list items) = some s) : ¬maxNesting ≤ level ∧
    ∃ texts, texts? (level + 1) items = some texts ∧ s = block level "[" "]" texts := by
  rw [text?] at h
  exact exists_of_container h

theorem text?_table (h : text? level (.table entries) = some s) : ¬maxNesting ≤ level ∧
    ∃ texts, entryTexts? (level + 1) entries = some texts ∧ s = block level "\x7b" "\x7d" texts := by
  rw [text?] at h
  exact exists_of_container h

theorem texts?_cons (h : texts? level (v :: items) = some texts) : ∃ first rest,
    text? level v = some first ∧ texts? level items = some rest ∧ texts = first :: rest := by
  rw [texts?] at h
  obtain ⟨first, written, h⟩ := Option.bind_eq_some_iff.mp h
  obtain ⟨rest, later, h⟩ := Option.bind_eq_some_iff.mp h
  exact ⟨first, rest, written, later, (Option.some.inj h).symm⟩

theorem entryTexts?_cons {key : String} (h : entryTexts? level ((key, v) :: entries) = some texts) :
    ∃ first rest, text? level v = some first ∧ entryTexts? level entries = some rest ∧
      texts = (stringText key ++ ": " ++ first) :: rest := by
  rw [entryTexts?] at h
  obtain ⟨first, written, h⟩ := Option.bind_eq_some_iff.mp h
  obtain ⟨rest, later, h⟩ := Option.bind_eq_some_iff.mp h
  exact ⟨first, rest, written, later, (Option.some.inj h).symm⟩

theorem spells_items (each : ∀ v ∈ items, ∀ s, text? level v = some s → Spells s (tokens v))
    (h : texts? level items = some texts) : List.Forall₂ Spells texts (itemTokens items) := by
  induction items generalizing texts with
  | nil =>
    cases h
    exact .nil
  | cons v items ih =>
    rw [List.forall_mem_cons] at each
    obtain ⟨first, rest, written, later, rfl⟩ := texts?_cons h
    exact .cons (each.1 first written) (ih each.2 later)

theorem spells_entries
    (each : ∀ entry ∈ entries, ∀ s, text? level entry.2 = some s → Spells s (tokens entry.2))
    (h : entryTexts? level entries = some texts) :
    List.Forall₂ Spells texts (entryTokens entries) := by
  induction entries generalizing texts with
  | nil =>
    cases h
    exact .nil
  | cons entry entries ih =>
    rw [List.forall_mem_cons] at each
    obtain ⟨first, rest, written, later, rfl⟩ := entryTexts?_cons h
    exact .cons (spells_entry entry.1 (each.1 first written)) (ih each.2 later)

theorem spells_tokens (exact : Value.Exact v) (h : text? level v = some s) : Spells s (tokens v) := by
  induction exact generalizing level s with
  | null =>
    cases h
    exact Marks.spells fun _ => rfl
  | bool b =>
    cases h
    cases b <;> exact Marks.spells fun _ => rfl
  | int n =>
    rw [text?] at h
    split at h
    · rename_i fits
      cases h
      exact spells_int fits
    · cases h
  | text s =>
    cases h
    exact Marks.spells (token?_stringText s)
  | list _ ih =>
    obtain ⟨-, texts, written, rfl⟩ := text?_list h
    rw [tokens]
    exact spells_block level (fun _ => rfl) (fun _ => rfl)
      (spells_items (fun v member s => ih v member) written)
  | table _ _ ih =>
    obtain ⟨-, texts, written, rfl⟩ := text?_table h
    rw [tokens]
    exact spells_block level (fun _ => rfl) (fun _ => rfl)
      (spells_entries (fun entry member s => ih entry member) written)

end Writing

section Reading

theorem itemTokens_eq (items : List Value) : itemTokens items = items.map tokens := by
  induction items with
  | nil => rfl
  | cons v items ih => simp [itemTokens, ih]

theorem entryTokens_eq (entries : List (String × Value)) : entryTokens entries =
    (entries.map fun entry => ⟨entry.1, tokens entry.2, entry.2⟩).map Member.all := by
  induction entries with
  | nil => rfl
  | cons entry entries ih => simp [entryTokens, Member.all, ih]

theorem forms_tokens (exact : Value.Exact v) : Forms v.depth (tokens v) v := by
  induction exact with
  | @list items _ ih =>
    have each : ∀ item ∈ items.map fun v => (tokens v, v),
        Forms (Value.depthOfItems items) item.1 item.2 :=
      List.forall_mem_map.mpr fun v inside =>
        (ih v inside).mono (Value.depth_le_of_mem_items inside)
    have whole := Forms.list each
    simpa [tokens, itemTokens_eq, Value.depth, Nat.add_comm, Function.comp_def] using whole
  | @table entries _ nodup ih =>
    let members : List Member := entries.map fun entry => ⟨entry.1, tokens entry.2, entry.2⟩
    have same : members.map Member.pair = entries := by simp [members, Member.pair, Function.comp_def]
    have each : ∀ member ∈ members,
        Forms (Value.depthOfEntries entries) member.tokens member.value :=
      List.forall_mem_map.mpr fun entry inside => (ih entry inside).mono <| by
        rw [Value.depthOfEntries_eq]
        exact Value.depth_le_of_mem_items (List.mem_map_of_mem (f := Prod.snd) inside)
    have whole := Forms.table each
    rw [same, Table.ofList_of_nodup nodup] at whole
    simpa [tokens, tableTokens, entryTokens_eq, Value.depth, Nat.add_comm, members] using whole
  | _ =>
    rw [tokens]
    · exact .scalar _ _
    all_goals simp

end Reading

section Depth

theorem depth_of_texts?
    (each : ∀ v ∈ items, ∀ s, text? level v = some s → level + v.depth ≤ maxNesting + 1)
    (h : texts? level items = some texts) (shallow : level ≤ maxNesting) :
    level + Value.depthOfItems items ≤ maxNesting + 1 := by
  induction items generalizing texts with
  | nil => exact Nat.le_succ_of_le shallow
  | cons v items ih =>
    rw [List.forall_mem_cons] at each
    obtain ⟨first, rest, written, later, -⟩ := texts?_cons h
    have first := each.1 first written
    have others := ih each.2 later
    rw [Value.depthOfItems]
    omega

theorem exists_texts? (h : entryTexts? level entries = some texts) :
    ∃ values, texts? level (entries.map Prod.snd) = some values := by
  induction entries generalizing texts with
  | nil => exact ⟨[], rfl⟩
  | cons entry entries ih =>
    obtain ⟨first, rest, written, later, -⟩ := entryTexts?_cons h
    obtain ⟨values, held⟩ := ih later
    refine ⟨first :: values, ?_⟩
    rw [List.map_cons, texts?, written, held]
    rfl

theorem depth_of_text? (exact : Value.Exact v) (h : text? level v = some s)
    (shallow : level ≤ maxNesting) : level + v.depth ≤ maxNesting + 1 := by
  induction exact generalizing level s with
  | list _ ih =>
    obtain ⟨inside, texts, written, -⟩ := text?_list h
    have room := Nat.not_le.mp inside
    have deepest := depth_of_texts? (fun v member s h => ih v member h room) written room
    rw [Value.depth]
    omega
  | @table entries _ _ ih =>
    obtain ⟨inside, texts, written, -⟩ := text?_table h
    obtain ⟨values, held⟩ := exists_texts? written
    have room := Nat.not_le.mp inside
    have each : ∀ v ∈ entries.map Prod.snd, ∀ s, text? (level + 1) v = some s →
        level + 1 + v.depth ≤ maxNesting + 1 :=
      List.forall_mem_map.mpr fun entry member s h => ih entry member h room
    have deepest := depth_of_texts? each held room
    rw [Value.depth, Value.depthOfEntries_eq]
    omega
  | _ => exact Nat.succ_le_succ shallow

end Depth

theorem read_write (exact : Value.Exact v) (h : write v = some s) :
    read (Utf8.encode s) = some v := by
  have shallow : 0 + v.depth ≤ maxNesting + 1 := depth_of_text? exact h (Nat.zero_le _)
  have limit : maxNesting + 1 ≤ maxDepth := by decide
  have lexed := spells_tokens exact h [] [] trivial .nil
  rw [List.append_nil, List.append_nil] at lexed
  have forms : Forms maxDepth (tokens v) v := (forms_tokens exact).mono (by omega)
  exact read_eq_some_iff.mpr ⟨s, tokens v, Utf8.decode?_encode s, lexed.tokens?_eq, forms⟩

end Json

end ChatLink
