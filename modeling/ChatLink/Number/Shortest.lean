import ChatLink.Number.Binary64

namespace ChatLink

structure Decimal where
  digits : Nat
  exponent : Int
  deriving DecidableEq

namespace Binary64

/-- Where a decimal grid meets the numbers that round to `mantissa * 2 ^ exponent`. Lengths are
whole numbers: a step of the grid is `step`, and a quarter of a unit in the last place is
`quarter`. -/
structure Mesh where
  step : Nat
  quarter : Nat

def mesh (exponent grid : Int) : Mesh :=
  { step := 10 ^ grid.toNat * 2 ^ (2 - exponent).toNat
    quarter := 2 ^ (exponent - 2).toNat * 10 ^ (-grid).toNat }

/-- Whether a point reads back. The interval is half as wide below a power of two, and has its
ends exactly when the mantissa is even. -/
def readsBack (mantissa : Nat) (exponent : Int) (mesh : Mesh) (point : Nat) : Bool :=
  let below := if mantissa = 2 ^ 52 ∧ -1074 < exponent then 1 else 2
  let low := (4 * mantissa - below) * mesh.quarter
  let high := (4 * mantissa + 2) * mesh.quarter
  if mantissa % 2 = 0 then low ≤ point * mesh.step && point * mesh.step ≤ high
  else low < point * mesh.step && point * mesh.step < high

def onGrid? (mantissa : Nat) (exponent grid : Int) : Option Nat :=
  let mesh := mesh exponent grid
  let value := 4 * mantissa * mesh.quarter
  let under := value / mesh.step
  match readsBack mantissa exponent mesh under, readsBack mantissa exponent mesh (under + 1) with
  | false, false => none
  | true, false => some under
  | false, true => some (under + 1)
  | true, true =>
    let twice := 2 * (value % mesh.step)
    some (if twice < mesh.step ∨ (twice = mesh.step ∧ under % 2 = 0) then under else under + 1)

def coarsest (mantissa : Nat) (exponent : Int) : (fuel : Nat) → (grid : Int) → Decimal
  | 0, grid => ⟨4 * mantissa * (mesh exponent grid).quarter / (mesh exponent grid).step, grid⟩
  | fuel + 1, grid =>
    match onGrid? mantissa exponent grid with
    | some digits => ⟨digits, grid⟩
    | none => coarsest mantissa exponent fuel (grid - 1)

/-- The decimal of fewest digits that reads back, and of those the nearest. The search starts on
a grid too coarse for the number and ends after 17 digits, which always suffice. -/
def shortest (mantissa : Nat) (exponent : Int) : Decimal :=
  if mantissa = 0 then ⟨0, 0⟩
  else coarsest mantissa exponent 24 (((mantissa.log2 : Int) + 1 + exponent) * 30103 / 100000 + 2)

/-- How a number is laid out. The point stands among the digits as long as its place, counted
from in front of the first digit, is above `least` and not above `most`; otherwise the number has
an exponent. -/
structure Layout where
  least : Int
  most : Int
  plus : String
  exponentWidth : Nat

def zeroes (n : Nat) : String := .ofList (List.replicate n '0')

def Layout.exponentText (layout : Layout) (n : Int) : String :=
  let digits := toString n.natAbs
  (if n < 0 then "-" else layout.plus) ++ zeroes (layout.exponentWidth - digits.length) ++ digits

def Layout.text (layout : Layout) (x : Decimal) : String :=
  let digits := toString x.digits
  let point := digits.length + x.exponent
  if layout.least < point ∧ point ≤ layout.most then
    if point ≤ 0 then "0." ++ zeroes (-point).toNat ++ digits
    else if point < digits.length then
      .ofList (digits.toList.take point.toNat) ++ "." ++ .ofList (digits.toList.drop point.toNat)
    else digits ++ zeroes (point - digits.length).toNat ++ ".0"
  else
    let rest := digits.toList.drop 1
    .ofList (digits.toList.take 1) ++ (if rest.isEmpty then "" else "." ++ .ofList rest) ++ "e"
      ++ layout.exponentText (point - 1)

end Binary64

end ChatLink
