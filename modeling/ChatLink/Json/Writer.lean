import ChatLink.Number.Shortest
import ChatLink.Text.Hexadecimal
import ChatLink.Value

namespace ChatLink

/-- Numbers are positional below 10^16 and from 10^-5; an exponent has a sign and no more digits than
it needs. -/
def Binary64.jsonLayout : Layout := { least := -5, most := 16, plus := "+", exponentWidth := 1 }

namespace Json

def realText : Binary64 → String
  | .finite negative mantissa exponent _ =>
    (if negative then "-" else "") ++ Binary64.jsonLayout.text (Binary64.shortest mantissa exponent)
  | _ => "null"

def escape (c : Char) : List Char :=
  if c = '"' ∨ c = '\\' then ['\\', c]
  else if c = '\x08' then ['\\', 'b']
  else if c = '\t' then ['\\', 't']
  else if c = '\n' then ['\\', 'n']
  else if c = '\x0c' then ['\\', 'f']
  else if c = '\r' then ['\\', 'r']
  else if c.toNat < 0x20 then '\\' :: 'u' :: Text.hexadecimal 4 c.toNat
  else [c]

def stringText (s : String) : String := .ofList ('"' :: s.toList.flatMap escape ++ ['"'])

def indent (level : Nat) : String := .ofList ('\n' :: List.replicate (2 * level) ' ')

def block (level : Nat) (first last : String) (items : List String) : String :=
  if items.isEmpty then first ++ last
  else
    first ++ indent (level + 1) ++ ("," ++ indent (level + 1)).intercalate items ++ indent level ++ last

def maxNesting : Nat := 254

mutual

/-- Byte strings have no JSON form, nor have whole numbers beyond 64 bits. -/
def text? (level : Nat) : Value → Option String
  | .null => some "null"
  | .bool b => some (if b then "true" else "false")
  | .int n => if -2 ^ 63 ≤ n ∧ n < 2 ^ 64 then some (toString n) else none
  | .real x => some (realText x)
  | .text s => some (stringText s)
  | .bytes _ => none
  | .list items =>
    if maxNesting ≤ level then none
    else (texts? (level + 1) items).map (block level "[" "]")
  | .table entries =>
    if maxNesting ≤ level then none
    else (entryTexts? (level + 1) entries).map (block level "\x7b" "\x7d")

def texts? (level : Nat) : List Value → Option (List String)
  | [] => some []
  | v :: rest => do return (← text? level v) :: (← texts? level rest)

def entryTexts? (level : Nat) : List (String × Value) → Option (List String)
  | [] => some []
  | (key, v) :: rest => do
    return (stringText key ++ ": " ++ (← text? level v)) :: (← entryTexts? level rest)

end

def write (v : Value) : Option String := text? 0 v

end Json

end ChatLink
