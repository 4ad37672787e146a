import ChatLink.Value
import Mathlib.Data.List.Nodup

namespace ChatLink.Table

variable {key : String} {value : Value} {entry : String × Value} {table : Table}
  {given : List (String × Value)}

theorem mem_of_lookup (h : table.lookup key = some value) : (key, value) ∈ table := by
  obtain ⟨before, after, rfl, -⟩ := List.lookup_eq_some_iff.mp h
  exact List.mem_append_right before (List.mem_cons_self ..)

theorem mem_insert (h : entry ∈ insert key value table) : entry = (key, value) ∨ entry ∈ table := by
  induction table with
  | nil => exact .inl (List.mem_singleton.mp h)
  | cons first rest ih =>
    obtain ⟨name, held⟩ := first
    rw [insert] at h
    split at h
    · rename_i same
      rw [same] at h
      exact (List.mem_cons.mp h).imp_right (List.mem_cons_of_mem _)
    · obtain rfl | later := List.mem_cons.mp h
      · exact .inr (List.mem_cons_self ..)
      · exact (ih later).imp_right (List.mem_cons_of_mem _)

theorem mem_insert_of_ne (h : entry.1 ≠ key) (member : entry ∈ table) :
    entry ∈ insert key value table := by
  induction table with
  | nil => cases member
  | cons first rest ih =>
    obtain ⟨name, held⟩ := first
    rw [insert]
    split
    · rename_i same
      obtain rfl | later := List.mem_cons.mp member
      · exact absurd same h
      · exact List.mem_cons_of_mem _ later
    · obtain rfl | later := List.mem_cons.mp member
      · exact List.mem_cons_self ..
      · exact List.mem_cons_of_mem _ (ih later)

theorem mem_update (h : entry ∈ update table given) : entry ∈ given ∨ entry ∈ table := by
  induction given generalizing table with
  | nil => exact .inr h
  | cons first rest ih =>
    obtain later | put := ih h
    · exact .inl (List.mem_cons_of_mem _ later)
    · obtain rfl | kept := mem_insert put
      · exact .inl (List.mem_cons_self ..)
      · exact .inr kept

theorem mem_ofList (h : entry ∈ ofList given) : entry ∈ given :=
  (mem_update h).resolve_right List.not_mem_nil

theorem insert_of_notMem (value : Value) (h : key ∉ table.map Prod.fst) :
    insert key value table = table ++ [(key, value)] := by
  induction table with
  | nil => rfl
  | cons first rest ih =>
    rw [List.map_cons, List.mem_cons, not_or] at h
    rw [insert, if_neg (Ne.symm h.1), ih h.2]
    rfl

theorem update_of_nodup (h : (table ++ given).map Prod.fst |>.Nodup) :
    update table given = table ++ given := by
  induction given generalizing table with
  | nil => exact (List.append_nil table).symm
  | cons first rest ih =>
    have fresh : first.1 ∉ table.map Prod.fst := by
      rw [List.map_append, List.nodup_append] at h
      intro known
      exact h.2.2 _ known _ (List.mem_cons_self ..) rfl
    rw [List.append_cons] at h
    have put : update table (first :: rest) = update (insert first.1 first.2 table) rest := rfl
    rw [put, insert_of_notMem _ fresh, ih h, ← List.append_cons]

theorem ofList_of_nodup (h : (given.map Prod.fst).Nodup) : ofList given = given :=
  update_of_nodup h

theorem ofList_append (given later : List (String × Value)) :
    ofList (given ++ later) = update (ofList given) later :=
  List.foldl_append

section Keys

theorem keys_insert (key : String) (value : Value) (table : Table) :
    (insert key value table).map Prod.fst =
      if key ∈ table.map Prod.fst then table.map Prod.fst else table.map Prod.fst ++ [key] := by
  induction table with
  | nil => simp [insert]
  | cons first rest ih =>
    obtain ⟨name, held⟩ := first
    by_cases same : name = key
    · simp [insert, same]
    · simp only [insert, if_neg same, List.map_cons, ih, List.mem_cons, Ne.symm same, false_or]
      split <;> simp

theorem nodup_insert (key : String) (value : Value) (h : (table.map Prod.fst).Nodup) :
    ((insert key value table).map Prod.fst).Nodup := by
  rw [keys_insert]
  split
  · exact h
  · rename_i fresh
    exact h.append (by simp) (List.disjoint_singleton.mpr fresh)

theorem nodup_update (given : List (String × Value)) (h : (table.map Prod.fst).Nodup) :
    ((update table given).map Prod.fst).Nodup := by
  induction given generalizing table with
  | nil => exact h
  | cons first rest ih => exact ih (nodup_insert first.1 first.2 h)

theorem nodup_ofList (given : List (String × Value)) : ((ofList given).map Prod.fst).Nodup :=
  nodup_update given List.nodup_nil

/-- A search goes through the keys of a table as if they stood where they were first given. -/
theorem find?_keys_insert (p : String → Bool) (key : String) (value : Value) (table : Table) :
    ((insert key value table).map Prod.fst).find? p = (table.map Prod.fst ++ [key]).find? p := by
  rw [keys_insert]
  split
  · rename_i known
    cases found : (table.map Prod.fst).find? p with
    | some name => simp [List.find?_append, found]
    | none =>
      have refused := List.find?_eq_none.mp found key known
      simp [List.find?_append, found, refused]
  · rfl

theorem find?_keys_update (p : String → Bool) (table : Table) (given : List (String × Value)) :
    ((update table given).map Prod.fst).find? p =
      (table.map Prod.fst ++ given.map Prod.fst).find? p := by
  induction given generalizing table with
  | nil => simp [update]
  | cons first rest ih =>
    have step := ih (insert first.1 first.2 table)
    rw [List.find?_append, find?_keys_insert, ← List.find?_append, ← List.append_cons] at step
    exact step

theorem mem_keys_update {name : String} : name ∈ (update table given).map Prod.fst ↔
    name ∈ table.map Prod.fst ∨ name ∈ given.map Prod.fst := by
  have found := congrArg Option.isSome (find?_keys_update (· == name) table given)
  rw [Bool.eq_iff_iff, List.find?_isSome, List.find?_isSome] at found
  simpa only [beq_iff_eq, exists_eq_right, List.mem_append] using found

end Keys

def last? (given : List (String × Value)) (key : String) : Option Value :=
  (given.filter (·.1 == key)).getLast?.map Prod.snd

theorem last?_cons (first : String × Value) (given : List (String × Value)) (key : String) :
    last? (first :: given) key = (last? given key).or (if first.1 = key then some first.2 else none) := by
  by_cases same : first.1 = key
  · cases later : (given.filter (·.1 == key)).getLast? <;> simp [last?, same, List.getLast?_cons, later]
  · simp [last?, same]

theorem last?_eq_none_iff : last? given key = none ↔ ∀ pair ∈ given, pair.1 ≠ key := by
  simp [last?]

theorem last?_append (given later : List (String × Value)) (key : String) :
    last? (given ++ later) key = (last? later key).or (last? given key) := by
  simp [last?, List.getLast?_append, Option.map_or]

theorem lookup_update (table : Table) (given : List (String × Value)) (key : String) :
    (update table given).lookup key = (last? given key).or (table.lookup key) := by
  induction given generalizing table with
  | nil => simp [update, last?]
  | cons first rest ih =>
    rw [last?_cons]
    by_cases same : first.1 = key
    · subst same
      simpa [update, Option.or_assoc] using ih (insert first.1 first.2 table)
    · have kept := lookup_insert_of_ne (Ne.symm same) first.2 table
      simpa [update, same, kept] using ih (insert first.1 first.2 table)

theorem lookup_ofList (given : List (String × Value)) (key : String) :
    (ofList given).lookup key = last? given key := by
  simp [ofList, lookup_update]

@[simp] theorem last?_ofList (given : List (String × Value)) (key : String) :
    last? (ofList given) key = last? given key := by
  rw [← lookup_ofList, ofList_of_nodup (nodup_ofList given), lookup_ofList]

theorem last?_filter_of_ne {name : String} (h : key ≠ name) (given : List (String × Value)) :
    last? (given.filter (·.1 != name)) key = last? given key := by
  have kept : ∀ pair : String × Value, (pair.1 == key && pair.1 != name) = (pair.1 == key) := by
    intro pair
    by_cases same : pair.1 = key <;> simp [same, h]
  simp only [last?, List.filter_filter, kept]

end ChatLink.Table
