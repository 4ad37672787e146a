import ChatLink.Number.Estimate
import ChatLink.Value

/-!
Numbers in a JSON text. Those without fraction and exponent that fit in 64 bits, with or without a
sign, are whole; all others are rounded, and have to be finite. Of a very long number only the first
digits are read.
-/

namespace ChatLink.Json

def isDigit (c : Char) : Bool := '0' ≤ c && c ≤ '9'

def natOf (digits : List Char) : Nat :=
  digits.foldl (fun n c => 10 * n + (c.toNat - '0'.toNat)) 0

def digits? (text : List Char) : Option (List Char × List Char) :=
  if (text.takeWhile isDigit).isEmpty then none
  else some (text.takeWhile isDigit, text.dropWhile isDigit)

def whole? : List Char → Option (List Char × List Char)
  | '0' :: rest => some (['0'], rest)
  | text => digits? text

def fraction? : List Char → Option (List Char × List Char)
  | '.' :: rest => digits? rest
  | text => some ([], text)

def exponent? : List Char → Option (Option Int × List Char)
  | 'e' :: rest => signed rest
  | 'E' :: rest => signed rest
  | text => some (none, text)
where
  signed : List Char → Option (Option Int × List Char)
    | '-' :: rest => (digits? rest).map fun (ds, rest) => (some (-(natOf ds : Int)), rest)
    | '+' :: rest => (digits? rest).map fun (ds, rest) => (some (natOf ds : Int), rest)
    | text => (digits? text).map fun (ds, rest) => (some (natOf ds : Int), rest)

def maxSignificant : Nat := 768

def wordDigits : Nat := 19

/-- The digits that are read, and how many behind them are not. In a number that is too long a one
stands for the rest, even when all of it is zeros; but zeros behind a machine word do not make a
number long. -/
def significant (digits : List Char) : List Char × Nat :=
  let digits := digits.dropWhile (· == '0')
  if digits.length ≤ maxSignificant then (digits, 0)
  else if (digits.drop wordDigits).all (· == '0') then
    (digits.take wordDigits, digits.length - wordDigits)
  else (digits.take maxSignificant ++ ['1'], digits.length - maxSignificant - 1)

def nearest (negative : Bool) (digits : List Char) (exponent : Int) : Binary64 :=
  let (digits, unread) := significant digits
  .ofDecimal negative (natOf digits) (exponent + unread)

def estimate (digits : List Char) (exponent : Int) : Estimate :=
  let next := natOf ((digits.drop wordDigits).take 1)
  .ofDigits (natOf (digits.take wordDigits) + if next < 5 then 0 else 1) exponent

/-- A number with its point behind the last digit that is read. The point is counted as one of the
digits that are not, so one digit more is read, and the digits are worth ten times the number. They
are consulted only if an estimate leaves open which binary number is nearest. -/
def tenfold (negative : Bool) (digits : List Char) (exponent : Int) : Binary64 :=
  let x := estimate digits (exponent + digits.length - wordDigits)
  match x.below with
  | (_, false) => nearest negative digits exponent
  | (mantissa, true) =>
    let read := natOf (digits.take (maxSignificant + 1) ++ ['1'])
    let exponent := exponent + digits.length - (maxSignificant + 1 : Nat)
    let halfway := 2 * mantissa + 1
    if halfway * 2 ^ (x.lastBit - 1).toNat * 10 ^ (-exponent).toNat
        < read * 10 ^ exponent.toNat * 2 ^ (1 - x.lastBit).toNat then
      .ofRounded negative (mantissa + 1) x.lastBit
    else .ofRounded negative mantissa x.lastBit

def hasLatePoint (whole fraction : List Char) : Bool :=
  maxSignificant + 1 < whole.length && !fraction.isEmpty
    && !((whole ++ fraction).drop wordDigits).all (· == '0')

def inRange (exponent : Int) : Bool := -343 ≤ exponent && exponent ≤ 308

def real? (negative : Bool) (whole fraction : List Char) (exponent : Int) : Option Value :=
  let digits := whole ++ fraction
  let last := exponent - fraction.length
  let x :=
    if hasLatePoint whole fraction && inRange (exponent + whole.length - wordDigits) then
      tenfold negative digits last
    else nearest negative digits last
  match x with
  | .infinite _ => none
  | x => some (.real x)

/-- With more than 20 digits no number fits in 64 bits. -/
def integer? (negative : Bool) (digits : List Char) : Option Value :=
  if 20 < digits.length then real? negative digits [] 0
  else
    let n : Int := if negative then -(natOf digits : Int) else natOf digits
    if -2 ^ 63 ≤ n ∧ n < 2 ^ 64 then some (.int n) else real? negative digits [] 0

def unsigned? (negative : Bool) (text : List Char) : Option (Value × List Char) := do
  let (whole, rest) ← whole? text
  let (fraction, rest) ← fraction? rest
  let (exponent, rest) ← exponent? rest
  if fraction.isEmpty ∧ exponent = none then
    return (← integer? negative whole, rest)
  else
    return (← real? negative whole fraction (exponent.getD 0), rest)

def number? : List Char → Option (Value × List Char)
  | '-' :: rest => unsigned? true rest
  | text => unsigned? false text

end ChatLink.Json
