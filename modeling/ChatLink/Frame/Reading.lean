import ChatLink.Frame.Layout
import ChatLink.Text.Utf8

/-!
Numbers and text fields in a datagram. Readers are given a bound and look at nothing beyond it,
whatever the buffer holds there.
-/

namespace ChatLink.Frame

def readNumber (size : Nat) (data : Bytes) (start : Int) (bound : Option Int) : Nat :=
  if (clamp data.length bound : Int) < start + size then 0
  else (data.slice start (start + size)).toNat

def field? : (room : Nat) → Bytes → Option Bytes
  | 0, _ => none
  | _ + 1, [] => none
  | room + 1, b :: rest => if b = 0 then some [] else (field? room rest).map (b :: ·)

@[simp] theorem field?_nil (room : Nat) : field? room [] = none := by
  cases room <;> rfl

/-- The text up to the first zero byte between `start` and the bound, and the position behind
that byte. Without a zero byte the field is absent, and the position is the bound. -/
def readText (data : Bytes) (start : Int) (bound : Option Int) : Option String × Nat :=
  let limit := clamp data.length bound
  let first := position data.length start
  match field? (limit - first) (data.drop first) with
  | some field => (some (Utf8.decode field), first + field.length + 1)
  | none => (none, limit)

theorem lt_of_readText {data : Bytes} {start : Nat} {bound : Option Int} {text : String} {next : Nat}
    (h : readText data start bound = (some text, next)) : start < next := by
  simp only [readText, position_natCast] at h
  split at h
  · rename_i field found
    have inside : start < data.length := by
      apply Decidable.byContradiction
      intro outside
      rw [List.drop_eq_nil_of_le (by omega), field?_nil] at found
      cases found
    have := (Prod.mk.inj h).2
    omega
  · simp at h

def zeroAt? (data : Bytes) (first last : Int) : Option Nat :=
  ((data.slice first last).findIdx? (· == 0)).map (position data.length first + ·)

/-- Looks for the end of a text, and compares the start as it is given: with the bound, so as not to
look at all, and with the end, so as not to cut out an empty text. -/
def seekText (data : Bytes) (start : Int) (bound : Option Int) : Option String × Int :=
  let limit := clamp data.length bound
  if limit ≤ start then (none, limit)
  else
    match zeroAt? data start limit with
    | none => (none, limit)
    | some i =>
      if i = start then (some "", start + 1)
      else (some (Utf8.decode (data.slice start i)), i + 1)

/-- Looks for one text after the other, until one is absent, the bound is reached, or the kind of the
frame has room for no more. -/
def readTexts (data : Bytes) (bound : Nat) (kind : Kind) (texts : List String) (start : Nat) :
    List String :=
  if start < bound ∧ kind.hasRoom texts then
    match _read : readText data start (some bound) with
    | (none, _) => texts
    | (some text, next) => readTexts data bound kind (texts ++ [text]) next
  else texts
termination_by bound - start
decreasing_by
  have := lt_of_readText _read
  omega

def fields : Bytes → List Bytes
  | [] => []
  | b :: rest =>
    if b = 0 then [] :: fields rest
    else
      match fields rest with
      | [] => []
      | field :: more => (b :: field) :: more

@[simp] theorem fields_nil : fields [] = [] := rfl

theorem fields_append {field : Bytes} (h : 0 ∉ field) (rest : Bytes) :
    fields (field ++ 0 :: rest) = field :: fields rest := by
  induction field with
  | nil => simp [fields]
  | cons b field ih =>
    rw [List.mem_cons, not_or] at h
    simp [fields, Ne.symm h.1, ih h.2]

theorem fields_eq_nil {tail : Bytes} (h : 0 ∉ tail) : fields tail = [] := by
  induction tail with
  | nil => rfl
  | cons b tail ih =>
    rw [List.mem_cons, not_or] at h
    simp [fields, Ne.symm h.1, ih h.2]

end ChatLink.Frame
