/-!
# Octets and words

This file supplies the octet strings that every wire format of the project is
written in: exact splitting, which either finds all the octets it was asked for
or none, and fixed-width words in either byte order.

A word is read and written through its value as a natural number, so that the
two directions are related by arithmetic and not by case analysis on widths.
-/

namespace Testbed

/-- A string of octets. -/
abbrev Octets :=
  List UInt8

/-- Split off exactly `count` elements, or fail when there are fewer. -/
def splitExactly? {α : Type} : Nat → List α → Option (List α × List α)
  | 0, list => some ([], list)
  | _ + 1, [] => none
  | count + 1, head :: tail =>
      (splitExactly? count tail).map fun (taken, rest) => (head :: taken, rest)

/-- Exact splitting succeeds precisely on the splits of the list whose first
part has the requested length. -/
theorem splitExactly?_eq_some_iff {α : Type} {count : Nat}
    {list taken rest : List α} :
    splitExactly? count list = some (taken, rest) ↔
      list = taken ++ rest ∧ taken.length = count := by
  induction count generalizing list taken with
  | zero =>
      cases taken <;> simp [splitExactly?, eq_comm]
  | succ count ih =>
      cases list with
      | nil => cases taken <;> simp [splitExactly?]
      | cons head tail =>
          cases taken with
          | nil => simp [splitExactly?, Option.map_eq_some_iff]
          | cons first others =>
              simp only [splitExactly?, Option.map_eq_some_iff, Prod.exists,
                Prod.mk.injEq, List.cons.injEq, List.cons_append,
                List.length_cons, Nat.add_right_cancel_iff]
              constructor
              · rintro ⟨_, _, split, ⟨rfl, rfl⟩, rfl⟩
                have := ih.mp split
                exact ⟨⟨rfl, this.1⟩, this.2⟩
              · rintro ⟨⟨rfl, joined⟩, counted⟩
                exact ⟨_, _, ih.mpr ⟨joined, counted⟩, ⟨rfl, rfl⟩, rfl⟩

/-- Exact splitting fails precisely on lists that are too short. -/
theorem splitExactly?_eq_none_iff {α : Type} {count : Nat} {list : List α} :
    splitExactly? count list = none ↔ list.length < count := by
  induction count generalizing list with
  | zero => simp [splitExactly?]
  | succ count ih =>
      cases list with
      | nil => simp [splitExactly?]
      | cons head tail => simp [splitExactly?, ih]

/-! ## Words -/

/-- The order in which the octets of a word are written. -/
inductive ByteOrder where
  | little
  | big
  deriving DecidableEq, Repr

namespace Octets

/-- How many values a word of `width` octets has. -/
def valueCount : Nat → Nat
  | 0 => 1
  | width + 1 => 256 * valueCount width

/-- The number that octets denote, least significant octet first. -/
def toNatLittle : Octets → Nat
  | [] => 0
  | octet :: rest => octet.toNat + 256 * toNatLittle rest

/-- The number modulo `valueCount width` in `width` octets, least significant octet
first. -/
def ofNatLittle : Nat → Nat → Octets
  | 0, _ => []
  | width + 1, value => UInt8.ofNat value :: ofNatLittle width (value / 256)

@[simp]
theorem length_ofNatLittle (width value : Nat) :
    (ofNatLittle width value).length = width := by
  induction width generalizing value with
  | zero => rfl
  | succ width ih => simp [ofNatLittle, ih]

/-- A word of `width` octets reads back as the number modulo the count of
its values. -/
theorem toNatLittle_ofNatLittle (width value : Nat) :
    toNatLittle (ofNatLittle width value) = value % valueCount width := by
  induction width generalizing value with
  | zero => simp [ofNatLittle, toNatLittle, valueCount, Nat.mod_one]
  | succ width ih =>
      have lowest : (UInt8.ofNat value).toNat = value % 256 := by simp
      rw [ofNatLittle, toNatLittle, ih, lowest, valueCount, Nat.mod_mul]

theorem toNatLittle_lt (octets : Octets) :
    toNatLittle octets < valueCount octets.length := by
  induction octets with
  | nil => simp [toNatLittle, valueCount]
  | cons octet rest ih =>
      have := octet.toNat_lt
      simp only [toNatLittle, List.length_cons, valueCount]
      omega

/-- Octets are determined by their number and their count. -/
theorem ofNatLittle_toNatLittle (octets : Octets) :
    ofNatLittle octets.length (toNatLittle octets) = octets := by
  induction octets with
  | nil => rfl
  | cons octet rest ih =>
      have bound := octet.toNat_lt
      have quotient :
          (octet.toNat + 256 * toNatLittle rest) / 256 = toNatLittle rest := by
        omega
      have lowest :
          UInt8.ofNat (octet.toNat + 256 * toNatLittle rest) = octet := by
        apply UInt8.toNat_inj.mp
        simp only [UInt8.toNat_ofNat']
        omega
      simp [ofNatLittle, toNatLittle, quotient, lowest, ih]

/-- The number that octets denote in a byte order. -/
def toNat (order : ByteOrder) (octets : Octets) : Nat :=
  match order with
  | .little => toNatLittle octets
  | .big => toNatLittle octets.reverse

/-- The number modulo `valueCount width` in `width` octets of a byte order. -/
def ofNat (order : ByteOrder) (width value : Nat) : Octets :=
  match order with
  | .little => ofNatLittle width value
  | .big => (ofNatLittle width value).reverse

theorem toNat_lt (order : ByteOrder) (octets : Octets) :
    toNat order octets < valueCount octets.length := by
  cases order with
  | little => exact toNatLittle_lt octets
  | big =>
      have bound := toNatLittle_lt octets.reverse
      rw [List.length_reverse] at bound
      exact bound

@[simp]
theorem length_ofNat (order : ByteOrder) (width value : Nat) :
    (ofNat order width value).length = width := by
  cases order <;> simp [ofNat]

theorem toNat_ofNat (order : ByteOrder) (width value : Nat) :
    toNat order (ofNat order width value) = value % valueCount width := by
  cases order <;> simp [ofNat, toNat, toNatLittle_ofNatLittle]

theorem ofNat_toNat (order : ByteOrder) (octets : Octets) :
    ofNat order octets.length (toNat order octets) = octets := by
  cases order with
  | little => simp [ofNat, toNat, ofNatLittle_toNatLittle]
  | big =>
      have := ofNatLittle_toNatLittle octets.reverse
      simp only [List.length_reverse] at this
      simp [ofNat, toNat, this]

/-- The octets in the big-endian reading of a word written in `order`. -/
def mostSignificantFirst (order : ByteOrder) (octets : Octets) : Octets :=
  match order with
  | .little => octets.reverse
  | .big => octets

end Octets

end Testbed
