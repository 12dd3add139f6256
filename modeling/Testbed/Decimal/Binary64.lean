/-!
# Double-precision numbers as bits

This file supplies the reading of the 64 bits of a binary floating-point number
as a sign and an exact magnitude `mantissa * 2 ^ exponent`, and the rounding of
exact quotients to such a number, to nearest with ties to the even mantissa.
Both are in integer arithmetic throughout.
-/

namespace Testbed.Decimal

/-- What the bits of a double-precision number denote. -/
inductive Binary64 where
  | notANumber
  | infinite (negative : Bool)
  | finite (negative : Bool) (mantissa : Nat) (exponent : Int)
  deriving DecidableEq, Repr

namespace Binary64

/-- The least mantissa of full precision, which has 53 bits. -/
def leastFull : Nat :=
  0x10000000000000

/-- The power of a base; a negative exponent gives 1. -/
def power (base : Nat) (exponent : Int) : Nat :=
  Nat.pow base exponent.toNat

/-- Decode the sign, exponent and fraction fields. -/
def ofBits (bits : UInt64) : Binary64 :=
  let value := bits.toNat
  let negative : Bool := value / 0x8000000000000000 == 1
  let biased : Nat := value / leastFull % 2048
  let fraction := value % leastFull
  if biased = 2047 then
    if fraction = 0 then .infinite negative else .notANumber
  else if biased = 0 then
    .finite negative fraction (-1074)
  else
    .finite negative (leastFull + fraction) ((biased : Int) - 1075)

/-- The sign bit. -/
def signBits (negative : Bool) : Nat :=
  if negative then 0x8000000000000000 else 0

/-- The bits of positive or negative infinity. -/
def infinityBits (negative : Bool) : UInt64 :=
  UInt64.ofNat (signBits negative + 2047 * leastFull)

/-- Quotient rounded to the nearest integer, ties to the even one. -/
def roundQuotient (numerator denominator : Nat) : Nat :=
  let quotient := numerator / denominator
  let twice := 2 * (numerator % denominator)
  if twice < denominator then
    quotient
  else if twice = denominator ∧ quotient % 2 = 0 then
    quotient
  else
    quotient + 1

/-- The number nearest to `numerator / denominator`, for a positive
denominator. -/
def bitsOfQuotient (negative : Bool) (numerator denominator : Nat) : UInt64 :=
  if numerator = 0 then
    UInt64.ofNat (signBits negative)
  else
    let estimate : Int := (Nat.log2 numerator : Int) - (Nat.log2 denominator : Int)
    let scaled (exponent : Int) : Nat :=
      roundQuotient (numerator * power 2 (-exponent))
        (denominator * power 2 exponent)
    let exponent := max (estimate - 53) (-1074)
    let exponent :=
      if 2 * leastFull ≤ numerator * power 2 (-exponent)
          / (denominator * power 2 exponent)
      then exponent + 1 else exponent
    let mantissa := scaled exponent
    let (mantissa, exponent) :=
      if mantissa = 2 * leastFull then (leastFull, exponent + 1) else (mantissa, exponent)
    if 971 < exponent then
      infinityBits negative
    else if mantissa < leastFull then
      UInt64.ofNat (signBits negative + mantissa)
    else
      UInt64.ofNat (signBits negative + (exponent + 1075).toNat * leastFull
        + (mantissa - leastFull))

/-- The number nearest to `coefficient * 10 ^ exponent`. -/
def bitsOfDecimal (negative : Bool) (coefficient : Nat) (exponent : Int) : UInt64 :=
  let digits := (Nat.toDigits 10 coefficient).length
  if coefficient = 0 ∨ exponent + digits < -400 then
    UInt64.ofNat (signBits negative)
  else if 400 < exponent then
    infinityBits negative
  else
    bitsOfQuotient negative (coefficient * power 10 exponent)
      (power 10 (-exponent))

/-- Whether the bits denote a finite number. -/
def isFinite (bits : UInt64) : Bool :=
  match ofBits bits with
  | .finite .. => true
  | _ => false

end Binary64

end Testbed.Decimal
