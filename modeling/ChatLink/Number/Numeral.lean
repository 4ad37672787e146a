import ChatLink.Text.Digit

namespace ChatLink.Numeral

/-- The characters that may surround a numeral. The information separators U+001C to U+001F are
not among them. -/
def isBlank (c : Char) : Bool :=
  let n := c.toNat
  (0x9 ≤ n && n ≤ 0xD) || n == 0x20 || n == 0x85 || n == 0xA0 || n == 0x1680
    || (0x2000 ≤ n && n ≤ 0x200A) || n == 0x2028 || n == 0x2029 || n == 0x202F || n == 0x205F
    || n == 0x3000

def digitsAfter : List Char → Option (List Nat × List Char)
  | [] => some ([], [])
  | ['_'] => none
  | '_' :: c :: rest =>
    match Text.digit? c with
    | none => none
    | some d => (digitsAfter rest).map fun (digits, rest) => (d :: digits, rest)
  | c :: rest =>
    match Text.digit? c with
    | none => some ([], c :: rest)
    | some d => (digitsAfter rest).map fun (digits, rest) => (d :: digits, rest)

def digits? : List Char → Option (List Nat × List Char)
  | [] => none
  | c :: rest => do
    let d ← Text.digit? c
    let (digits, rest) ← digitsAfter rest
    return (d :: digits, rest)

def value (digits : List Nat) : Nat := digits.foldl (fun n d => 10 * n + d) 0

def signed? : List Char → Option (Bool × List Nat × List Char)
  | '-' :: rest => (digits? rest).map (true, ·)
  | '+' :: rest => (digits? rest).map (false, ·)
  | text => (digits? text).map (false, ·)

inductive Error
  | malformed
  | tooLong (digits : Nat)
  deriving DecidableEq

def maxDigits : Nat := 4300

/-- Too many digits are an error before anything is that stands behind them. -/
def read (text : List Char) : Except Error Int :=
  match signed? (text.dropWhile isBlank) with
  | none => .error .malformed
  | some (negative, digits, rest) =>
    if digits.length > maxDigits then .error (.tooLong digits.length)
    else if rest.all isBlank then .ok (if negative then -(value digits : Int) else value digits)
    else .error .malformed

end ChatLink.Numeral
