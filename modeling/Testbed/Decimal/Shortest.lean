import Testbed.Decimal.Binary64

/-!
# Shortest decimal text of a double-precision number

This file supplies the fewest decimal digits that read back as a given
double-precision number.  A grid of decimals is tried from coarse to fine, and
the first grid with a point that rounds to the number decides; of two points the
nearer is taken and an exact tie goes up.

Two layouts are supplied: `plain` never uses an exponent and writes whole numbers
without a point, and `document` is the layout of configuration documents, which
keeps a fraction digit and changes to an exponent for very large and very small
numbers.
-/

namespace Testbed.Decimal.Shortest

/-- Digits `coefficient * 10 ^ exponent`. -/
structure Digits where
  coefficient : Nat
  exponent : Int
  deriving DecidableEq, Repr

/-- The interval of reals that round to a positive number, in quarters of the
last place of its mantissa. -/
structure Interval where
  low : Nat
  value : Nat
  high : Nat
  /-- Power of two of one quarter. -/
  scale : Int
  closed : Bool

/-- The rounding interval of `mantissa * 2 ^ exponent`. -/
def interval (mantissa : Nat) (exponent : Int) : Interval where
  low :=
    if mantissa = Binary64.leastFull ∧ -1074 < exponent then 4 * mantissa - 1
    else 4 * mantissa - 2
  value := 4 * mantissa
  high := 4 * mantissa + 2
  scale := exponent - 2
  closed := mantissa % 2 = 0

/-- Try the two neighbours of the number on the grid of multiples of
`10 ^ exponent`. -/
def onGrid? (bounds : Interval) (exponent : Int) : Option Digits :=
  let unit := Binary64.power 10 exponent * Binary64.power 2 (-bounds.scale)
  let quarter := Binary64.power 2 bounds.scale * Binary64.power 10 (-exponent)
  let target := bounds.value * quarter
  let below := target / unit
  let above := below + 1
  let holds (coefficient : Nat) : Bool :=
    let point := coefficient * unit
    if bounds.closed then
      bounds.low * quarter ≤ point && point ≤ bounds.high * quarter
    else
      bounds.low * quarter < point && point < bounds.high * quarter
  match holds below, holds above with
  | true, true =>
      if 2 * (target - below * unit) < unit then some ⟨below, exponent⟩
      else some ⟨above, exponent⟩
  | true, false => some ⟨below, exponent⟩
  | false, true => some ⟨above, exponent⟩
  | false, false => none

/-- The fewest digits that read back as `mantissa * 2 ^ exponent`. -/
def digits (mantissa : Nat) (exponent : Int) : Digits :=
  let bounds := interval mantissa exponent
  let top : Int := ((Nat.log2 mantissa : Int) + exponent) * 30103 / 100000 + 2
  ((List.range 24).findSome? fun (step : Nat) =>
      onGrid? bounds (top - (step : Int))).getD
    ⟨mantissa, 0⟩

/-- The digits of a number as text, without sign or point. -/
def Digits.text (digits : Digits) : List Char :=
  Nat.toDigits 10 digits.coefficient

/-! ## Layouts -/

/-- Digits with the decimal point `point` places after their start. -/
def positional (digits : List Char) (point : Int) : List Char :=
  if point ≤ 0 then
    ['0', '.'] ++ List.replicate (-point).toNat '0' ++ digits
  else if point < digits.length then
    digits.take point.toNat ++ '.' :: digits.drop point.toNat
  else
    digits ++ List.replicate (point.toNat - digits.length) '0'

/-- Shortest text without exponent; whole numbers have no point. -/
def plain (bits : UInt64) : String :=
  match Binary64.ofBits bits with
  | .notANumber => "NaN"
  | .infinite negative => if negative then "-inf" else "inf"
  | .finite negative mantissa exponent =>
      let sign := if negative then "-" else ""
      if mantissa = 0 then
        sign ++ "0"
      else
        let shortest := digits mantissa exponent
        let text := shortest.text
        sign ++ String.ofList (positional text (text.length + shortest.exponent))

/-- Shortest text of a finite number in a document: a fraction digit is always
written, and numbers below `10 ^ -5` or from `10 ^ 16` on have an exponent. -/
def document (bits : UInt64) : String :=
  match Binary64.ofBits bits with
  | .notANumber => "nan"
  | .infinite negative => if negative then "-inf" else "inf"
  | .finite negative mantissa exponent =>
      let sign := if negative then "-" else ""
      if mantissa = 0 then
        sign ++ "0.0"
      else
        let shortest := digits mantissa exponent
        let text := shortest.text
        let point : Int := text.length + shortest.exponent
        if 16 < point ∨ point < -4 then
          let fraction := text.drop 1
          let fraction := if fraction.isEmpty then [] else '.' :: fraction
          sign ++ String.ofList (text.take 1 ++ fraction) ++ "e"
            ++ toString (point - 1)
        else
          let laid := positional text point
          sign ++ String.ofList (if laid.contains '.' then laid else laid ++ ['.', '0'])

end Testbed.Decimal.Shortest
