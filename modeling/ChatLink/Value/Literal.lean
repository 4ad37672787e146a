import ChatLink.Number.Shortest
import ChatLink.Text.Quoted
import ChatLink.Value

namespace ChatLink

/-- Numbers are positional below 10^16 and from 10^-4; an exponent has a sign and two digits. -/
def Binary64.literalLayout : Layout := { least := -4, most := 16, plus := "+", exponentWidth := 2 }

def Binary64.literal : Binary64 → String
  | .nan => "nan"
  | .infinite negative => if negative then "-inf" else "inf"
  | .finite negative mantissa exponent _ =>
    (if negative then "-" else "") ++ literalLayout.text (shortest mantissa exponent)

namespace Value

def bracketed (first : String) (items : List String) (last : String) : String :=
  first ++ ", ".intercalate items ++ last

mutual

def literal : Value → String
  | .null => "None"
  | .bool b => if b then "True" else "False"
  | .int n => toString n
  | .real x => x.literal
  | .text s => Text.quoted s
  | .bytes bs => Text.quotedBytes bs
  | .list items => bracketed "[" (literalItems items) "]"
  | .table entries => bracketed "\x7b" (literalEntries entries) "\x7d"

def literalItems : List Value → List String
  | [] => []
  | v :: rest => v.literal :: literalItems rest

def literalEntries : List (String × Value) → List String
  | [] => []
  | (key, v) :: rest => (Text.quoted key ++ ": " ++ v.literal) :: literalEntries rest

end

def maxDigits : Nat := 4300

mutual

/-- Whether a value can be written as a literal: a whole number in it may be too long for that. -/
def hasLiteral : Value → Bool
  | .int n => n.natAbs < 10 ^ maxDigits
  | .list items => itemsHaveLiterals items
  | .table entries => entriesHaveLiterals entries
  | _ => true

def itemsHaveLiterals : List Value → Bool
  | [] => true
  | v :: rest => v.hasLiteral && itemsHaveLiterals rest

def entriesHaveLiterals : List (String × Value) → Bool
  | [] => true
  | (_, v) :: rest => v.hasLiteral && entriesHaveLiterals rest

end

def literalTuple : List Value → String
  | [v] => "(" ++ v.literal ++ ",)"
  | items => bracketed "(" (literalItems items) ")"

def plain : Value → String
  | .text s => s
  | v => v.literal

@[simp] theorem plain_text (s : String) : plain (.text s) = s := rfl

end Value

end ChatLink
