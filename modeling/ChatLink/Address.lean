import ChatLink.Value.Literal

namespace ChatLink

inductive Address
  | v4 (n : Nat)
  | v6 (n : Nat)
  deriving DecidableEq

namespace Address

def pieces (separator : Char) : List Char → List (List Char)
  | [] => [[]]
  | c :: rest =>
    if c = separator then [] :: pieces separator rest
    else
      match pieces separator rest with
      | [] => [[c]]
      | piece :: more => (c :: piece) :: more

def numeral? (base : Nat) (digits : List Char) : Option Nat :=
  digits.foldlM (fun n c => do
    let d ← Text.hexDigit? c
    if d < base then some (base * n + d) else none) 0

def octet? (digits : List Char) : Option Nat := do
  guard (1 ≤ digits.length ∧ digits.length ≤ 3 ∧ (digits.head? = some '0' → digits.length = 1))
  let n ← numeral? 10 digits
  if n < 256 then some n else none

def quad? (text : List Char) : Option Nat := do
  let octets ← (pieces '.' text).mapM octet?
  guard (octets.length = 4)
  return octets.foldl (fun n octet => 256 * n + octet) 0

def group? (digits : List Char) : Option Nat := do
  guard (1 ≤ digits.length ∧ digits.length ≤ 4)
  numeral? 16 digits

def parts? (text : List Char) : Option (List (Option Nat)) := do
  let raw := pieces ':' text
  guard (3 ≤ raw.length)
  let last := raw.getLastD []
  if last.contains '.' then
    let n ← quad? last
    return (← raw.dropLast.mapM part?) ++ [some (n / 65536), some (n % 65536)]
  else raw.mapM part?
where
  part? (text : List Char) : Option (Option Nat) :=
    if text.isEmpty then some none else (group? text).map some

def side? (parts : List (Option Nat)) : Option (List Nat) :=
  if parts = [none] then some [] else parts.mapM id

/-- Eight groups. One empty part inside stands for as many zeros as are missing, and for at least
one. -/
def groups? (parts : List (Option Nat)) : Option (List Nat) :=
  match parts.tail.dropLast.findIdx? (·.isNone) with
  | none => do
    let groups ← parts.mapM id
    if groups.length = 8 then some groups else none
  | some i => do
    let high ← side? (parts.take (i + 1))
    let low ← side? (parts.drop (i + 2))
    if high.length + low.length < 8 then
      some (high ++ List.replicate (8 - high.length - low.length) 0 ++ low)
    else none

/-- The address without its scope, which is not empty and stands behind the only percent sign. -/
def unscoped? (text : List Char) : Option (List Char) :=
  match pieces '%' text with
  | [address] => some address
  | [address, scope] => if scope.isEmpty then none else some address
  | _ => none

def hextets? (text : List Char) : Option Nat := do
  let groups ← groups? (← parts? (← unscoped? text))
  return groups.foldl (fun n group => 65536 * n + group) 0

def parse? (text : String) : Option Address :=
  if text.toList.contains '/' then none
  else (quad? text.toList).map .v4 <|> (hextets? text.toList).map .v6

def ofNumber? (n : Int) : Option Address :=
  if n < 0 then none
  else if n < 2 ^ 32 then some (.v4 n.toNat)
  else if n < 2 ^ 128 then some (.v6 n.toNat)
  else none

/-- A number or a byte string stands for the address that it encodes, anything else for its
text. -/
def ofValue? : Value → Option Address
  | .bool b => ofNumber? (if b then 1 else 0)
  | .int n => ofNumber? n
  | .bytes bs =>
    if bs.length = 4 then some (.v4 bs.toNat)
    else if bs.length = 16 then some (.v6 bs.toNat)
    else none
  | v => parse? v.plain

def isLoopback : Address → Bool
  | .v4 n => n / 2 ^ 24 == 127
  | .v6 n => n == 1

end Address

def Value.isLoopback (v : Value) : Bool :=
  match Address.ofValue? v with
  | some address => address.isLoopback
  | none => false

end ChatLink
