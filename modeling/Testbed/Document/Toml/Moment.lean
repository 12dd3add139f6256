import Testbed.Text.Hex
import Testbed.Time.Calendar

/-!
# Dates and times of day

This file supplies the dates and times of day of the TOML notation.  Configuration
has no values of this kind, so they are only checked and brought into a normal form:
`T` between date and time, at most nine digits of a second without zeros at their
end, and `Z` or a sign, hours and minutes for the distance from universal time.
-/

namespace Testbed.Document.Toml

/-- The value of digits in a base. -/
def valueIn (base : Nat) (digits : List Char) : Nat :=
  digits.foldl (fun value digit => value * base + (Text.Hex.digitValue? digit).getD 0) 0

/-- Whether characters have the form of digits and fixed signs; `0` stands for a
digit. -/
def fits (form : String) (chars : List Char) : Bool :=
  form.length = chars.length &&
    (form.toList.zip chars).all fun (expected, char) =>
      if expected = '0' then char.isDigit else expected = char

/-- The number that the two digits behind some characters denote. -/
def pairBehind (count : Nat) (chars : List Char) : Nat :=
  valueIn 10 ((chars.drop count).take 2)

/-- Whether characters are a day of the calendar. -/
def isDate (chars : List Char) : Bool :=
  let month := pairBehind 5 chars
  let day := pairBehind 8 chars
  fits "0000-00-00" chars && 1 ≤ month && month ≤ 12 && 1 ≤ day
    && day ≤ Date.daysInMonth (valueIn 10 (chars.take 4)) month

/-- Whether characters are a time of day in whole seconds; a minute may have a leap
second. -/
def isClock (chars : List Char) : Bool :=
  fits "00:00:00" chars && pairBehind 0 chars ≤ 23 && pairBehind 3 chars ≤ 59
    && pairBehind 6 chars ≤ 60

/-- Whether characters are a sign, hours and minutes. -/
def isOffset (chars : List Char) : Bool :=
  (fits "+00:00" chars || fits "-00:00" chars) && pairBehind 1 chars ≤ 23
    && pairBehind 4 chars ≤ 59

/-- The normal form of a fraction of a second. -/
def fraction? : List Char → Option (List Char)
  | [] => some []
  | '.' :: digits =>
      if digits.isEmpty || !digits.all Char.isDigit then none
      else
        let significant := ((digits.take 9).reverse.dropWhile (· = '0')).reverse
        some (if significant.isEmpty then [] else '.' :: significant)
  | _ => none

/-- The normal form of a time of day. -/
def time? (chars : List Char) : Option (List Char) :=
  if isClock (chars.take 8) then (fraction? (chars.drop 8)).map (chars.take 8 ++ ·)
  else none

/-- The normal form of a distance from universal time. -/
def offset? (chars : List Char) : Option (List Char) :=
  if chars = ['Z'] ∨ chars = ['z'] then some ['Z']
  else if isOffset chars then
    some (if pairBehind 1 chars + pairBehind 4 chars = 0 then '+' :: chars.drop 1 else chars)
  else
    none

/-- The normal form of a time of day with or without a distance. -/
def offsetTime? (chars : List Char) : Option (List Char) :=
  let isMark (char : Char) : Bool :=
    char = 'Z' || char = 'z' || char = '+' || char = '-'
  let time := chars.takeWhile fun char => !isMark char
  let offset := chars.dropWhile fun char => !isMark char
  if offset.isEmpty then time? time
  else do pure ((← time? time) ++ (← offset? offset))

/-- The normal form of a date, a time of day, or both, in which case there may be a
distance from universal time. -/
def moment? (word : List Char) : Option String :=
  let date := word.take 10
  if isDate date then
    match word.drop 10 with
    | [] => some (String.ofList date)
    | separator :: time =>
        if separator = 'T' ∨ separator = 't' ∨ separator = ' ' then
          (offsetTime? time).map fun time => String.ofList (date ++ 'T' :: time)
        else
          none
  else
    (time? word).map String.ofList

end Testbed.Document.Toml
