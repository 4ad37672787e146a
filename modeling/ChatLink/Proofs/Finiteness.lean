import ChatLink.Proofs.Grammar
import ChatLink.Proofs.Tables

namespace ChatLink

inductive Value.Finite : Value → Prop
  | null : Finite .null
  | bool (b) : Finite (.bool b)
  | int (n) : Finite (.int n)
  | real {x : Binary64} (h : ∀ negative, x ≠ .infinite negative) : Finite (.real x)
  | text (s) : Finite (.text s)
  | bytes (bs) : Finite (.bytes bs)
  | list {items} (h : ∀ v ∈ items, Finite v) : Finite (.list items)
  | table {entries} (h : ∀ entry ∈ entries, Finite entry.2) : Finite (.table entries)

theorem Value.Finite.entries {entries : List (String × Value)} (h : Finite (.table entries)) :
    ∀ entry ∈ entries, Finite entry.2 := by
  cases h with
  | table h => exact h

theorem Value.Finite.ne_infinite {v : Value} (h : v.Finite) (negative : Bool) :
    v ≠ .real (.infinite negative) := by
  rintro rfl
  cases h with
  | real h => exact h negative rfl

namespace Json

variable {tokens : List Token} {texts : List (List Token)} {token : Token} {v : Value}

theorem Single.finite (h : Single v) : v.Finite := by
  cases h with
  | null => exact .null
  | bool b => exact .bool b
  | int n => exact .int n
  | real finite => exact .real finite
  | text s => exact .text s

theorem mem_intercalate (inside : tokens ∈ texts) (h : token ∈ tokens) :
    token ∈ [.comma].intercalate texts := by
  cases texts with
  | nil => cases inside
  | cons first others =>
    rw [intercalate_cons, List.mem_append]
    cases inside with
    | head => exact .inl h
    | tail _ inside => exact .inr (List.mem_flatMap.mpr ⟨tokens, inside, List.mem_cons_of_mem _ h⟩)

theorem Forms.finite {room : Nat} (h : Forms room tokens v)
    (each : ∀ u, .scalar u ∈ tokens → u.Finite) : v.Finite := by
  induction h with
  | scalar _ v => exact each v (by simp)
  | list h ih =>
    refine .list (List.forall_mem_map.mpr fun item inside => ih item inside fun u held => each u ?_)
    have listed := mem_intercalate (List.mem_map_of_mem (f := Prod.fst) inside) held
    simp [listed]
  | table h ih =>
    refine .table fun entry held => ?_
    obtain ⟨member, inside, rfl⟩ := List.mem_map.mp (Table.mem_ofList held)
    refine ih member inside fun u held => each u ?_
    have listed : .scalar u ∈ member.all := by simp [Member.all, held]
    have listed := mem_intercalate (List.mem_map_of_mem (f := Member.all) inside) listed
    simp [tableTokens, listed]

theorem finite_of_read {content : Bytes} (h : read content = some v) : v.Finite := by
  obtain ⟨text, tokens, -, lexed, forms⟩ := read_eq_some_iff.mp h
  exact forms.finite fun u held => (single_of_tokens? lexed u held).finite

end Json

end ChatLink
