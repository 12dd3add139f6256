import Testbed.Document.Json
import Testbed.Shell.Reader

/-!
# Arithmetic of the shell

This file supplies the values of arithmetic expressions: sums, products and
brackets over whole numbers and variables.  A variable without a number counts as
zero, and division goes toward zero.
-/

namespace Testbed.Shell

/-- A number without its blanks in front. -/
def skipBlanks (chars : List Char) : List Char :=
  chars.dropWhile fun char => char = ' ' ∨ char = '\t' ∨ char = '\n'

mutual

/-- A sum: terms between plus and minus signs. -/
def sum? (value : String → Int) : Nat → List Char → Option (Int × List Char)
  | 0, _ => none
  | fuel + 1, chars => do
      let (first, rest) ← product? value fuel chars
      moreTerms? value first fuel rest

/-- The terms after the first of a sum. -/
def moreTerms? (value : String → Int) (sum : Int) :
    Nat → List Char → Option (Int × List Char)
  | 0, _ => none
  | fuel + 1, chars =>
      match skipBlanks chars with
      | '+' :: rest => do
          let (term, rest) ← product? value fuel rest
          moreTerms? value (sum + term) fuel rest
      | '-' :: rest => do
          let (term, rest) ← product? value fuel rest
          moreTerms? value (sum - term) fuel rest
      | rest => some (sum, rest)

/-- A product: factors between signs of multiplication and division. -/
def product? (value : String → Int) : Nat → List Char → Option (Int × List Char)
  | 0, _ => none
  | fuel + 1, chars => do
      let (first, rest) ← factor? value fuel chars
      moreFactors? value first fuel rest

/-- The factors after the first of a product. -/
def moreFactors? (value : String → Int) (product : Int) :
    Nat → List Char → Option (Int × List Char)
  | 0, _ => none
  | fuel + 1, chars =>
      match skipBlanks chars with
      | '*' :: rest => do
          let (factor, rest) ← factor? value fuel rest
          moreFactors? value (product * factor) fuel rest
      | '/' :: rest => do
          let (factor, rest) ← factor? value fuel rest
          if factor = 0 then none else moreFactors? value (product.tdiv factor) fuel rest
      | '%' :: rest => do
          let (factor, rest) ← factor? value fuel rest
          if factor = 0 then none else moreFactors? value (product.tmod factor) fuel rest
      | rest => some (product, rest)

/-- A number, a variable, a sum in brackets, or one of these with a sign. -/
def factor? (value : String → Int) : Nat → List Char → Option (Int × List Char)
  | 0, _ => none
  | fuel + 1, chars =>
      match skipBlanks chars with
      | '-' :: rest => (factor? value fuel rest).map fun (factor, rest) => (-factor, rest)
      | '+' :: rest => factor? value fuel rest
      | '(' :: rest => do
          let (inside, rest) ← sum? value fuel rest
          match skipBlanks rest with
          | ')' :: rest => pure (inside, rest)
          | _ => none
      | '$' :: rest => factor? value fuel rest
      | char :: rest =>
          let chars := char :: rest
          if char.isDigit then
            let digits := chars.takeWhile Char.isDigit
            some (Document.Json.digitsValue digits, chars.drop digits.length)
          else if isNameStart char then
            let name := chars.takeWhile isNameChar
            some (value (String.ofList name), chars.drop name.length)
          else
            none
      | [] => none

end

/-- The value of an arithmetic expression. -/
def arithmetic? (value : String → Int) (source : List Char) : Option Int :=
  match sum? value (8 * source.length + 8) source with
  | some (result, rest) => if skipBlanks rest = [] then some result else none
  | none => none

end Testbed.Shell
