import ChatLink.Bytes
import ChatLink.Number.Binary64

namespace ChatLink

inductive Value
  | null
  | bool (b : Bool)
  | int (n : Int)
  | real (x : Binary64)
  | text (s : String)
  | bytes (bs : Bytes)
  | list (items : List Value)
  | table (entries : List (String × Value))

namespace Value

inductive Number
  | whole (n : Int)
  | real (x : Binary64)

def Number.equal : Number → Number → Bool
  | .whole a, .whole b => a == b
  | .whole a, .real x => x.equalInt a
  | .real x, .whole a => x.equalInt a
  | .real x, .real y => x.equal y

def number? : Value → Option Number
  | .bool b => some (.whole (if b then 1 else 0))
  | .int n => some (.whole n)
  | .real x => some (.real x)
  | _ => none

mutual

/-- Numbers are told apart by their value alone, whatever their kind, and tables regardless of
the order of their entries. -/
def same : Value → Value → Bool
  | .null, .null => true
  | .text s, .text t => s == t
  | .bytes a, .bytes b => a == b
  | .list a, .list b => sameItems a b
  | .table a, .table b => a.length == b.length && sameEntries a b
  | a, b =>
    match a.number?, b.number? with
    | some m, some n => m.equal n
    | _, _ => false

def sameItems : List Value → List Value → Bool
  | [], [] => true
  | v :: a, w :: b => v.same w && sameItems a b
  | _, _ => false

def sameEntries : List (String × Value) → List (String × Value) → Bool
  | [], _ => true
  | (key, v) :: a, b =>
    match b.lookup key with
    | some w => v.same w && sameEntries a b
    | none => false

end

def isTrue : Value → Bool
  | .null => false
  | .bool b => b
  | .int n => n != 0
  | .real x => !x.isZero
  | .text s => !s.isEmpty
  | .bytes bs => !bs.isEmpty
  | .list items => !items.isEmpty
  | .table entries => !entries.isEmpty

def isFixed : Value → Bool
  | .list _ => false
  | .table _ => false
  | _ => true

mutual

def depth : Value → Nat
  | .list items => 1 + depthOfItems items
  | .table entries => 1 + depthOfEntries entries
  | _ => 1

def depthOfItems : List Value → Nat
  | [] => 0
  | v :: rest => max v.depth (depthOfItems rest)

def depthOfEntries : List (String × Value) → Nat
  | [] => 0
  | (_, v) :: rest => max v.depth (depthOfEntries rest)

end

def kind : Value → String
  | .null => "NoneType"
  | .bool _ => "bool"
  | .int _ => "int"
  | .real _ => "float"
  | .text _ => "str"
  | .bytes _ => "bytes"
  | .list _ => "list"
  | .table _ => "dict"

end Value

abbrev Table := List (String × Value)

namespace Table

/-- A key that is given again keeps its place and takes the new value. -/
def insert (key : String) (value : Value) : Table → Table
  | [] => [(key, value)]
  | (k, v) :: rest => if k = key then (k, value) :: rest else (k, v) :: insert key value rest

def update (table : Table) (given : List (String × Value)) : Table :=
  given.foldl (fun table entry => insert entry.1 entry.2 table) table

def ofList (given : List (String × Value)) : Table := update [] given

@[simp] theorem lookup_insert_self (key : String) (value : Value) (table : Table) :
    (insert key value table).lookup key = some value := by
  induction table with
  | nil => simp [insert]
  | cons entry rest ih =>
    obtain ⟨k, v⟩ := entry
    rw [insert]
    split
    · rename_i same
      rw [same, List.lookup_cons_self]
    · rename_i h
      rw [List.lookup_cons, beq_false_of_ne (Ne.symm h)]
      exact ih

theorem lookup_insert_of_ne {key other : String} (h : other ≠ key) (value : Value) (table : Table) :
    (insert key value table).lookup other = table.lookup other := by
  induction table with
  | nil => simp [insert, List.lookup_cons, beq_false_of_ne h]
  | cons entry rest ih =>
    obtain ⟨k, v⟩ := entry
    rw [insert]
    split
    · rename_i same
      rw [same, List.lookup_cons, List.lookup_cons, beq_false_of_ne h]
    · rw [List.lookup_cons, List.lookup_cons, ih]

end Table

end ChatLink
