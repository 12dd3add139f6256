import Mathlib.Data.List.Basic
import Testbed.Document.Reader
import Testbed.Proofs.Net.Address

/-!
# Readers and what they read back

This file supplies two kinds of facts about readers.  A reader recovers values from the documents
that they are written as.  A reader of a record takes a table without some of its entries for the
same record as that table filled up with the entries of the defaults, in any order.
-/

namespace Testbed.Document

/-! ## Values written and read -/

/-- A reader gives back each value from the document that the value is written as. -/
def Recovers {α : Type} (read : Reader α) (write : α → Document) : Prop :=
  ∀ (format : Format) (value : α), read format (write value) = some value

theorem recovers_text : Recovers Reader.text .text :=
  fun _ _ => rfl

theorem recovers_word16 : Recovers Reader.word16 fun word => .nat word.toNat := by
  intro format word
  have natural : (0 : Int) ≤ word.toNat ∧ (word.toNat : Int) < (0x10000 : Nat) := by
    have bound := word.toNat_lt
    omega
  have read : Reader.natBelow 0x10000 format (.int word.toNat) = some word.toNat := by
    rw [Reader.natBelow, if_pos natural, Int.toNat_natCast]
  change (Reader.natBelow 0x10000 format (.int word.toNat)).map UInt16.ofNat = some word
  rw [read, Option.map_some, UInt16.ofNat_toNat]

theorem recovers_address : Recovers Reader.address fun address => .text address.render := by
  intro format address
  change (some address.render).bind Net.Address.parse? = some address
  rw [Option.bind_some, Net.Address.parse?_render]

theorem recovers_ipv4 : Recovers Reader.ipv4 fun address => .text address.render := by
  intro format address
  change (some address.render).bind Net.Ipv4.parse? = some address
  rw [Option.bind_some, Net.Ipv4.parse?_render]

section

variable {α : Type} {read : Reader α} {write : α → Document}

theorem Recovers.listOf (recovers : Recovers read write) :
    Recovers (Reader.listOf read) fun values => .list (values.map write) := by
  intro format values
  rw [Reader.listOf]
  induction values with
  | nil => rfl
  | cons value values ih =>
      rw [List.map_cons, List.mapM_cons, recovers format value, ih]
      rfl

/-- A value that may be absent is written as null when it is. -/
def orNull {α : Type} (write : α → Document) : Option α → Document
  | some value => write value
  | none => .null

/-- A value that may be absent is recovered if null says that it is, and nothing else. -/
theorem Recovers.optional (recovers : Recovers read write)
    (some_document : ∀ value, write value ≠ .null) :
    Recovers (Reader.optional read) (orNull write) := by
  intro format value
  cases value with
  | none => rfl
  | some value =>
      have through : Reader.optional read format (write value) =
          (read format (write value)).map some := by
        rw [Reader.optional]
        exact some_document value
      rw [orNull, through, recovers format value, Option.map_some]

end

/-! ## Tables -/

/-- The entries of a table. -/
def entries : Document → List (String × Document)
  | table entries => entries
  | _ => []

namespace Record

/-- The entries of a table under a name. -/
def under (name : String) (entries : List (String × Document)) : List (String × Document) :=
  entries.filter (·.1 == name)

theorem lookup_eq_head? (name : String) (entries : List (String × Document)) :
    entries.lookup name = (under name entries).head?.map (·.2) := by
  induction entries with
  | nil => rfl
  | cons entry entries ih =>
      obtain ⟨key, value⟩ := entry
      by_cases same : key = name
      · subst same
        simp [under]
      · have other : (name == key) = false := beq_eq_false_iff_ne.mpr (Ne.symm same)
        rw [List.lookup_cons, other, ih]
        simp [under, same]

theorem repeats_congr {names : List String} {first second : List (String × Document)}
    (same : ∀ name ∈ names,
      1 < (under name first).length ↔ 1 < (under name second).length) :
    repeats names first = repeats names second := by
  rw [repeats, repeats, Bool.eq_iff_iff, List.any_eq_true, List.any_eq_true]
  constructor
  · rintro ⟨name, member, twice⟩
    exact ⟨name, member, decide_eq_true ((same name member).mp (of_decide_eq_true twice))⟩
  · rintro ⟨name, member, twice⟩
    exact ⟨name, member, decide_eq_true ((same name member).mpr (of_decide_eq_true twice))⟩

theorem read?_table (names : List String) (format : Format)
    (entries : List (String × Document)) :
    read? false names format (.table entries) =
      if repeats names entries then none else some ⟨format, entries, false⟩ := by
  cases format <;> simp [read?, readWhole?]

theorem read?_table_eq_some {names : List String} {entries : List (String × Document)}
    (once : repeats names entries = false) (format : Format) :
    read? false names format (.table entries) = some ⟨format, entries, false⟩ := by
  rw [read?_table, if_neg (Bool.eq_false_iff.mp once)]

/-- What is left of a table without the entries under some names. -/
def without (absent : List String) (entries : List (String × Document)) :
    List (String × Document) :=
  entries.filter (·.1 ∉ absent)

/-- A table has the entries of another but for those under some names, for which it has standard
ones. -/
def FilledUp (standard : List (String × Document)) (absent : List String)
    (entries filled : List (String × Document)) : Prop :=
  filled.Perm (without absent entries ++ standard.filter (·.1 ∈ absent))

section

variable {standard entries filled : List (String × Document)} {absent : List String}

theorem under_without_of_mem {name : String} (left_out : name ∈ absent) :
    under name (without absent entries) = [] := by
  rw [under, without, List.filter_filter, List.filter_eq_nil_iff]
  rintro entry -
  by_cases same : entry.1 = name <;> simp [same, left_out]

/-- Under a name that is left out there are the standard entries. -/
theorem FilledUp.under_of_mem (filledUp : FilledUp standard absent entries filled) {name : String}
    (left_out : name ∈ absent) : (under name filled).Perm (under name standard) := by
  have whole := filledUp.filter (·.1 == name)
  have kept : under name (standard.filter (·.1 ∈ absent)) = under name standard := by
    rw [under, under, List.filter_filter]
    apply List.filter_congr
    rintro entry -
    by_cases same : entry.1 = name <;> simp [same, left_out]
  rw [List.filter_append] at whole
  change (under name filled).Perm
    (under name (without absent entries) ++ under name (standard.filter (·.1 ∈ absent))) at whole
  rwa [under_without_of_mem left_out, kept, List.nil_append] at whole

/-- Under any other name there are the entries of the table that is filled up. -/
theorem FilledUp.under_of_not_mem (filledUp : FilledUp standard absent entries filled)
    {name : String} (kept : name ∉ absent) :
    (under name filled).Perm (under name (without absent entries)) := by
  have whole := filledUp.filter (·.1 == name)
  have none_standard : under name (standard.filter (·.1 ∈ absent)) = [] := by
    rw [under, List.filter_filter, List.filter_eq_nil_iff]
    rintro entry -
    by_cases same : entry.1 = name <;> simp [same, kept]
  rw [List.filter_append] at whole
  change (under name filled).Perm
    (under name (without absent entries) ++ under name (standard.filter (·.1 ∈ absent))) at whole
  rwa [none_standard, List.append_nil] at whole

theorem length_under_le_one {names : List String} (once : repeats names entries = false)
    {name : String} (member : name ∈ names) : (under name entries).length ≤ 1 := by
  apply Nat.le_of_not_lt
  intro twice
  have repeated : repeats names entries = true :=
    List.any_eq_true.mpr ⟨name, member, decide_eq_true twice⟩
  rw [once] at repeated
  cases repeated

theorem FilledUp.repeats_eq (filledUp : FilledUp standard absent entries filled)
    {names : List String} (once : repeats names standard = false) :
    repeats names filled = repeats names (without absent entries) := by
  apply repeats_congr
  intro name member
  by_cases left_out : name ∈ absent
  · -- Nothing is left under the name, and the standard entries have it once at most.
    have single := length_under_le_one once member
    rw [(filledUp.under_of_mem left_out).length_eq, under_without_of_mem left_out]
    simp only [List.length_nil]
    omega
  · rw [(filledUp.under_of_not_mem left_out).length_eq]

theorem FilledUp.lookup_eq (filledUp : FilledUp standard absent entries filled)
    {names : List String} (once : repeats names (without absent entries) = false) {name : String}
    (member : name ∈ names) (kept : name ∉ absent) :
    filled.lookup name = (without absent entries).lookup name := by
  have single := length_under_le_one once member
  have same := filledUp.under_of_not_mem kept
  -- The order of the entries does not matter where there is one at most.
  have equal : under name filled = under name (without absent entries) := by
    revert same single
    generalize under name (without absent entries) = found
    intro single same
    match found with
    | [] => exact same.eq_nil
    | [entry] => exact same.eq_singleton
    | _ :: _ :: _ => simp at single
  rw [lookup_eq_head?, lookup_eq_head?, equal]

/-- A value that is left out has its default either way: as such, or read from the entry that
says so. -/
theorem FilledUp.orDefault_eq {α : Type} (filledUp : FilledUp standard absent entries filled)
    {names : List String} (once : repeats names (without absent entries) = false) {name : String}
    (member : name ∈ names) {document : Document}
    (entry : under name standard = [(name, document)]) {format : Format} {reader : Reader α}
    {default : α} (reads : reader format document = some default) :
    orDefault ⟨format, filled, false⟩ name reader default =
      orDefault ⟨format, without absent entries, false⟩ name reader default := by
  rw [orDefault, orDefault, value?, value?]
  by_cases left_out : name ∈ absent
  · have single : under name filled = [(name, document)] := by
      apply List.Perm.eq_singleton
      rw [← entry]
      exact filledUp.under_of_mem left_out
    rw [lookup_eq_head?, lookup_eq_head?, single, under_without_of_mem left_out]
    exact reads
  · rw [filledUp.lookup_eq once member left_out]

end

end Record

end Testbed.Document
