import ChatLink.Number.Binary64

/-!
Decimal numbers in 64 bits with a bound on the error. An estimate tells which binary number is nearest
unless it is too close to halfway between two.
-/

namespace ChatLink

/-- About `mantissa * 2 ^ exponent`. The error is counted in eighths of a unit of the mantissa. -/
structure Estimate where
  mantissa : Nat
  exponent : Int
  error : Nat

namespace Estimate

def filled (x : Estimate) : Estimate :=
  let shift := 63 - x.mantissa.log2
  ⟨x.mantissa * 2 ^ shift, x.exponent - shift, x.error * 2 ^ shift⟩

def powerOfTen (n : Int) : Estimate :=
  let num := 10 ^ n.toNat
  let den := 10 ^ (-n).toNat
  let e := Binary64.lastBit 64 num den
  ⟨(2 * num * 2 ^ (-e).toNat + den * 2 ^ e.toNat) / (2 * den * 2 ^ e.toNat), e, 4⟩

/-- The product, rounded to 64 bits. Its error has those of both numbers, half a unit for the
rounding, and one eighth for the product of the errors. -/
def mul (x y : Estimate) : Estimate :=
  ⟨(x.mantissa * y.mantissa + 2 ^ 63) / 2 ^ 64, x.exponent + y.exponent + 64,
    x.error + y.error + 4 + 1⟩

/-- The estimate from digits that stand for a number with a few more, rounded to its last digit. -/
def ofDigits (digits : Nat) (exponent : Int) : Estimate :=
  ((filled ⟨digits, 0, 4⟩).mul (powerOfTen exponent)).filled

def lastBit (x : Estimate) : Int := max (x.exponent + 11) (-1074)

def dropBits (x : Estimate) (n : Nat) : Estimate :=
  if n = 0 then x else ⟨x.mantissa / 2 ^ n, x.exponent + n, x.error / 2 ^ n + 9⟩

/-- The mantissa of the binary number below, and whether the estimate leaves open if the one above is
nearer. -/
def below (x : Estimate) : Nat × Bool :=
  let rest := min 64 (x.lastBit - x.exponent).toNat
  let y := x.dropBits (rest - 60)
  let unit := 2 ^ min 60 rest
  let part := 8 * (y.mantissa % unit)
  (y.mantissa / unit, 4 * unit < part + y.error && part < 4 * unit + y.error)

end Estimate

end ChatLink
