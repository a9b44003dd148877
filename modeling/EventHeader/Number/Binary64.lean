/- Floating-point numbers of 64 bits, as their bits. A finite number is a sign and
   `mantissa * 2 ^ exponent`, exactly; `ofDecimal` gives the number nearest to a
   decimal one, a tie going to the even mantissa, and infinity beyond the largest.
   All arithmetic is on natural numbers, so nothing here rounds by accident. -/
namespace EventHeader.Number

/-- A floating-point number, given by its 64 bits. -/
structure Binary64 where
  bits : UInt64
  deriving DecidableEq, Repr, Inhabited

namespace Binary64

def signBit : Nat := 0x8000000000000000

/-- The number of values of the fifty-two fraction bits. -/
def fractionSize : Nat := 0x10000000000000

/-- Whether the sign bit is set, which it also is in a negative zero. -/
def isNegative (x : Binary64) : Bool := signBit ≤ x.bits.toNat

def exponentBits (x : Binary64) : Nat := x.bits.toNat / fractionSize % 2048

def fractionBits (x : Binary64) : Nat := x.bits.toNat % fractionSize

def isFinite (x : Binary64) : Bool := x.exponentBits != 2047

def isNaN (x : Binary64) : Bool := x.exponentBits == 2047 && x.fractionBits != 0

/-- The whole number whose multiple by `2 ^ exponent` is the number's size. -/
def mantissa (x : Binary64) : Nat :=
  if x.exponentBits = 0 then x.fractionBits else fractionSize + x.fractionBits

/-- The power of two that the mantissa is to be multiplied by. -/
def exponent (x : Binary64) : Int := (max x.exponentBits 1 : Nat) - 1075

/-- The number with the given sign and the remaining 63 bits. -/
def ofParts (negative : Bool) (size : Nat) : Binary64 :=
  ⟨UInt64.ofNat ((if negative then signBit else 0) + size)⟩

def infinity (negative : Bool) : Binary64 := ofParts negative (2047 * fractionSize)

def nan : Binary64 := ofParts false (2047 * fractionSize + fractionSize / 2)

def zero (negative : Bool) : Binary64 := ofParts negative 0

def one : Binary64 := ofParts false (1023 * fractionSize)

/-- The quotient rounded to the nearest whole number, and to an even one on a tie. -/
def roundDiv (num den : Nat) : Nat :=
  let q := num / den
  let r := num % den
  if 2 * r > den ∨ (2 * r = den ∧ q % 2 = 1) then q + 1 else q

/-- The fraction `num / den * 2 ^ (-q)` of natural numbers. -/
def scale (num den : Nat) (q : Int) : Nat × Nat :=
  if 0 ≤ q then (num, den * Nat.pow 2 q.toNat) else (num * Nat.pow 2 (-q).toNat, den)

/-- The whole number that a floating-point number is, if it is one. -/
def toInt? (x : Binary64) : Option Int :=
  let (n, d) := scale x.mantissa 1 (-x.exponent)
  if x.isFinite && n % d == 0 then
    some (if x.isNegative then -((n / d : Nat) : Int) else (n / d : Nat))
  else none

/-- The exponent at which a positive fraction has a mantissa of 53 bits, or the
least exponent where the fraction is too small for that. -/
def exponentFor (num den : Nat) : Int :=
  -- Two logarithms rounded down make the guess right or one too low.
  let guess : Int := (num.log2 : Int) - den.log2 - 53
  let (n, d) := scale num den guess
  max (-1074) (if n / d < 2 * fractionSize then guess else guess + 1)

/-- The number nearest to a positive fraction. -/
def ofFraction (negative : Bool) (num den : Nat) : Binary64 :=
  let q := exponentFor num den
  let (n, d) := scale num den q
  -- A mantissa that is rounded up to the next power of two is carried into the exponent.
  let size := (q + 1074).toNat * fractionSize + roundDiv n d
  if 2047 * fractionSize ≤ size then infinity negative else ofParts negative size

/-- The number nearest to `digits * 10 ^ power`. Powers far outside the range of
floating-point numbers are settled without being computed. -/
def ofDecimal (negative : Bool) (digits : Nat) (power : Int) : Binary64 :=
  let width : Int := (Nat.toDigits 10 digits).length
  if digits = 0 ∨ width + power < -330 then zero negative
  else if 310 < width + power then infinity negative
  else if 0 ≤ power then ofFraction negative (digits * Nat.pow 10 power.toNat) 1
  else ofFraction negative digits (Nat.pow 10 (-power).toNat)

end Binary64
end EventHeader.Number
