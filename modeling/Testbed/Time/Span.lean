/-!
# Time spans

This file supplies non-negative lengths of time in whole nanoseconds and their
text.  A span is written in the largest of the units s, ms, µs and ns in which
its whole part is not zero, with the digits of the fraction that are needed and
no trailing zeros.
-/

namespace Testbed

/-- A length of time in nanoseconds. -/
structure Span where
  nanos : Nat
  deriving DecidableEq, Repr, Inhabited

namespace Span

instance : LE Span :=
  ⟨fun first second => first.nanos ≤ second.nanos⟩

instance : LT Span :=
  ⟨fun first second => first.nanos < second.nanos⟩

instance (first second : Span) : Decidable (first ≤ second) :=
  inferInstanceAs (Decidable (first.nanos ≤ second.nanos))

instance (first second : Span) : Decidable (first < second) :=
  inferInstanceAs (Decidable (first.nanos < second.nanos))

instance : Add Span :=
  ⟨fun first second => ⟨first.nanos + second.nanos⟩⟩

instance : Sub Span :=
  ⟨fun first second => ⟨first.nanos - second.nanos⟩⟩

/-- The empty span. -/
def zero : Span :=
  ⟨0⟩

/-- A number of seconds. -/
def ofSeconds (seconds : Nat) : Span :=
  ⟨seconds * 1000000000⟩

/-- A number of milliseconds. -/
def ofMillis (millis : Nat) : Span :=
  ⟨millis * 1000000⟩

/-- The span of `seconds` and `nanos`; a carry of the latter is allowed. -/
def ofParts (seconds nanos : Nat) : Span :=
  ⟨seconds * 1000000000 + nanos⟩

/-- Whole seconds of a span. -/
def seconds (span : Span) : Nat :=
  span.nanos / 1000000000

/-- Nanoseconds past the whole seconds of a span. -/
def subsecondNanos (span : Span) : Nat :=
  span.nanos % 1000000000

/-- The shorter of two spans. -/
def min (first second : Span) : Span :=
  if first ≤ second then first else second

section Nanos

variable {first second : Span}

theorem le_iff : first ≤ second ↔ first.nanos ≤ second.nanos :=
  Iff.rfl

theorem lt_iff : first < second ↔ first.nanos < second.nanos :=
  Iff.rfl

@[simp]
theorem nanos_add : (first + second).nanos = first.nanos + second.nanos :=
  rfl

@[simp]
theorem nanos_sub : (first - second).nanos = first.nanos - second.nanos :=
  rfl

@[simp]
theorem nanos_min : (first.min second).nanos = Min.min first.nanos second.nanos := by
  rw [min]
  split
  next shorter => exact (Nat.min_eq_left shorter).symm
  next longer => exact (Nat.min_eq_right (Nat.le_of_not_le longer)).symm

end Nanos

/-! ## Text -/

/-- Decimal digits of a number, with zeros in front up to `width`. -/
def paddedDigits (width value : Nat) : List Char :=
  let digits := Nat.toDigits 10 value
  List.replicate (width - digits.length) '0' ++ digits

/-- A count of units with `places` fractional digits, trailing zeros dropped. -/
def renderFraction (whole fraction places : Nat) : String :=
  let digits :=
    ((paddedDigits places fraction).reverse.dropWhile (· = '0')).reverse
  if digits.isEmpty then
    toString whole
  else
    toString whole ++ "." ++ String.ofList digits

/-- A span in the largest unit whose whole part is not zero. -/
def render (span : Span) : String :=
  if 1000000000 ≤ span.nanos then
    renderFraction span.seconds span.subsecondNanos 9 ++ "s"
  else if 1000000 ≤ span.nanos then
    renderFraction (span.nanos / 1000000) (span.nanos % 1000000) 6 ++ "ms"
  else if 1000 ≤ span.nanos then
    renderFraction (span.nanos / 1000) (span.nanos % 1000) 3 ++ "µs"
  else
    toString span.nanos ++ "ns"

end Span

end Testbed
