import Mathlib.Data.List.TakeWhile
import Testbed.Document.Json
import Testbed.Proofs.Text.Numeral

/-!
# Documents and their texts

This file supplies the proof that a document is read back from its text on one line.  Its numbers
have to be whole and to fit 64 bits, for others are read as numbers of another kind, and it must
not be nested more deeply than a reader follows.

Both machines of the reader are followed over any text behind the document: the first turns the
text into the tokens of the document, and the second hands the document that these tokens build to
the container around it.
-/

namespace Testbed.Document.Json

open Text.Numeral

/-! ## Documents that are read back -/

/-- A document of whole numbers that fit 64 bits, with containers of no more than some depth. -/
inductive Fits : Nat → Document → Prop
  | null {depth : Nat} : Fits depth .null
  | bool {depth : Nat} (value : Bool) : Fits depth (.bool value)
  | int {depth : Nat} {value : Int} (low : -0x8000000000000000 ≤ value)
      (high : value < 0x10000000000000000) : Fits depth (.int value)
  | text {depth : Nat} (value : String) : Fits depth (.text value)
  | list {depth : Nat} {items : List Document} (each : ∀ item ∈ items, Fits depth item) :
      Fits (depth + 1) (.list items)
  | table {depth : Nat} {entries : List (String × Document)}
      (each : ∀ entry ∈ entries, Fits depth entry.2) : Fits (depth + 1) (.table entries)

mutual

/-- The tokens of a document. -/
def tokens : Document → List Token
  | .list items => .openList :: ([.comma].intercalate (tokensOfItems items) ++ [.closeList])
  | .table entries =>
      .openTable :: ([.comma].intercalate (tokensOfEntries entries) ++ [.closeTable])
  | scalar => [.scalar scalar]

/-- The tokens of each item of a list. -/
def tokensOfItems : List Document → List (List Token)
  | [] => []
  | item :: rest => tokens item :: tokensOfItems rest

/-- The tokens of each entry of a table. -/
def tokensOfEntries : List (String × Document) → List (List Token)
  | [] => []
  | (key, value) :: rest =>
      (.scalar (.text key) :: .colon :: tokens value) :: tokensOfEntries rest

end

/-- The tokens of an entry. -/
def tokensOfEntry (entry : String × Document) : List Token :=
  .scalar (.text entry.1) :: .colon :: tokens entry.2

/-- An entry on one line. -/
def compactEntry (entry : String × Document) : String :=
  quote entry.1 ++ ":" ++ compact entry.2

theorem tokensOfItems_eq_map (items : List Document) : tokensOfItems items = items.map tokens := by
  induction items with
  | nil => rfl
  | cons item rest ih => rw [tokensOfItems, ih, List.map_cons]

theorem tokensOfEntries_eq_map (entries : List (String × Document)) :
    tokensOfEntries entries = entries.map tokensOfEntry := by
  induction entries with
  | nil => rfl
  | cons entry rest ih => rw [tokensOfEntries, ih, List.map_cons, tokensOfEntry]

theorem compactItems_eq_map (items : List Document) :
    compactItems items = items.map compact := by
  induction items with
  | nil => rfl
  | cons item rest ih => rw [compactItems, ih, List.map_cons]

theorem compactEntries_eq_map (entries : List (String × Document)) :
    compactEntries entries = entries.map compactEntry := by
  induction entries with
  | nil => rfl
  | cons entry rest ih => rw [compactEntries, ih, List.map_cons, compactEntry]

/-! ## From characters to tokens -/

/-- Read between tokens, a text gives some tokens, whatever stands behind it without making its
last word longer. -/
def Lexes (text : List Char) (given : List Token) : Prop :=
  ∀ (read : List Token) (rest : List Char), Stops isWordChar rest →
    tokensFrom .between read (text ++ rest) = tokensFrom .between (given.reverse ++ read) rest

theorem between_of_isWordChar {char : Char} (inWord : isWordChar char = true) :
    between char = some ([], .word [char]) := by
  have other {mark : Char} (outside : isWordChar mark = false) : char ≠ mark := by
    rintro rfl
    rw [inWord] at outside
    cases outside
  have notBlank : ¬ (char = ' ' ∨ char = '\t' ∨ char = '\n' ∨ char = '\r') := by
    rintro (blank | blank | blank | blank) <;> exact other (by decide) blank
  rw [between, if_neg notBlank, if_neg (other (by decide)), if_neg (other (by decide)),
    if_neg (other (by decide)), if_neg (other (by decide)), if_neg (other (by decide)),
    if_neg (other (by decide)), if_neg (other (by decide)), if_pos inWord]

theorem Lexes.nil : Lexes [] [] :=
  fun _ _ _ => rfl

/-- A character is a token of its own. -/
def IsMark (char : Char) (token : Token) : Prop :=
  between char = some ([token], .between)

theorem IsMark.tokensFrom_cons {char : Char} {token : Token} (mark : IsMark char token)
    (read : List Token) (rest : List Char) :
    tokensFrom .between read (char :: rest) = tokensFrom .between (token :: read) rest := by
  have step : scan .between char = some ([token], .between) := mark
  rw [tokensFrom, step]
  rfl

theorem IsMark.stops {char : Char} {token : Token} (mark : IsMark char token) (rest : List Char) :
    Stops isWordChar (char :: rest) := by
  rintro _ ⟨⟩
  cases inWord : isWordChar char with
  | false => rfl
  | true =>
      rw [IsMark, between_of_isWordChar inWord] at mark
      cases mark

theorem Lexes.append_mark {first second : List Char} {given others : List Token} {char : Char}
    {token : Token} (left : Lexes first given) (mark : IsMark char token)
    (right : Lexes second others) :
    Lexes (first ++ char :: second) (given ++ token :: others) := by
  intro read rest stops
  calc
    tokensFrom .between read ((first ++ char :: second) ++ rest)
      = tokensFrom .between read (first ++ char :: (second ++ rest)) := by simp
    _ = tokensFrom .between (given.reverse ++ read) (char :: (second ++ rest)) :=
      left read _ (mark.stops _)
    _ = tokensFrom .between (token :: (given.reverse ++ read)) (second ++ rest) :=
      mark.tokensFrom_cons _ _
    _ = tokensFrom .between (others.reverse ++ token :: (given.reverse ++ read)) rest :=
      right _ rest stops
    _ = tokensFrom .between ((given ++ token :: others).reverse ++ read) rest := by simp

theorem Lexes.intercalate {α : Type} {text : α → List Char} {given : α → List Token}
    {values : List α} (each : ∀ value ∈ values, Lexes (text value) (given value)) :
    Lexes ([','].intercalate (values.map text)) ([.comma].intercalate (values.map given)) := by
  induction values with
  | nil => exact .nil
  | cons value values ih =>
      rw [List.forall_mem_cons] at each
      cases values with
      | nil => simpa using each.1
      | cons next values =>
          have comma : IsMark ',' .comma := rfl
          have joined := each.1.append_mark comma (ih each.2)
          simpa [List.intercalate_cons_cons] using joined

/-! ### Words -/

theorem tokensFrom_word {word : List Char} (all : ∀ char ∈ word, isWordChar char = true)
    (reversed : List Char) (read : List Token) (rest : List Char) :
    tokensFrom (.word reversed) read (word ++ rest) =
      tokensFrom (.word (word.reverse ++ reversed)) read rest := by
  induction word generalizing reversed with
  | nil => rfl
  | cons char word ih =>
      rw [List.forall_mem_cons] at all
      have step : scan (.word reversed) char = some ([], .word (char :: reversed)) := by
        rw [scan, if_pos all.1]
      rw [List.cons_append, tokensFrom, step]
      simp only [List.reverse_nil, List.nil_append]
      rw [ih all.2, List.reverse_cons, List.append_assoc, List.singleton_append]

theorem tokensFrom_end_word {reversed : List Char} {value : Document}
    (spells : word? reversed.reverse = some value) (read : List Token) {rest : List Char}
    (stops : Stops isWordChar rest) :
    tokensFrom (.word reversed) read rest = tokensFrom .between (.scalar value :: read) rest := by
  cases rest with
  | nil => simp [tokensFrom, spells]
  | cons mark rest =>
      have other : isWordChar mark = false := stops mark rfl
      cases next : between mark <;> simp [tokensFrom, scan, other, spells, next]

theorem lexes_word {word : List Char} {value : Document} (some_char : word ≠ [])
    (all : ∀ char ∈ word, isWordChar char = true) (spells : word? word = some value) :
    Lexes word [.scalar value] := by
  intro read rest stops
  cases word with
  | nil => contradiction
  | cons char word =>
      rw [List.forall_mem_cons] at all
      have first : scan .between char = some ([], .word [char]) := between_of_isWordChar all.1
      have whole : word? (word.reverse ++ [char]).reverse = some value := by simpa using spells
      rw [List.cons_append, tokensFrom, first]
      simp only [List.reverse_nil, List.nil_append]
      rw [tokensFrom_word all.2, tokensFrom_end_word whole read stops]
      rfl

/-! ### Numbers -/

/-- Digits without a zero in front that says nothing. -/
structure IsNumeral (digits : List Char) : Prop where
  some_digit : digits ≠ []
  all : ∀ char ∈ digits, char.isDigit = true
  no_zero : 1 < digits.length → digits.head? ≠ some '0'

theorem isNumeral_toDigits (number : Nat) : IsNumeral (Nat.toDigits 10 number) where
  some_digit := Nat.toDigits_ne_nil
  all := fun _ => Nat.isDigit_of_mem_toDigits (by decide) (by decide)
  no_zero := head?_toDigits_of_length

theorem IsNumeral.spanDigits_eq {digits : List Char} (numeral : IsNumeral digits) :
    spanDigits digits = (digits, []) := by
  rw [spanDigits, List.takeWhile_eq_self_iff.mpr numeral.all,
    List.dropWhile_eq_nil_iff.mpr numeral.all]

theorem IsNumeral.not_zero {digits : List Char} (numeral : IsNumeral digits) :
    ¬ (digits.isEmpty ∨ digits.length > 1 ∧ digits.head? = some '0') := by
  rintro (empty | ⟨long, zero⟩)
  · exact numeral.some_digit (List.isEmpty_iff.mp empty)
  · exact numeral.no_zero long zero

theorem IsNumeral.number?_eq {digits : List Char} (numeral : IsNumeral digits)
    (fits : digitsValue digits < 0x10000000000000000) :
    number? digits = some (.int (digitsValue digits)) := by
  have unsigned : ∀ rest, digits ≠ '-' :: rest := by
    rintro rest rfl
    exact absurd (numeral.all '-' (by simp)) (by decide)
  unfold number?
  split
  next negative _ sign =>
    split at sign
    next rest => exact absurd rfl (unsigned rest)
    next =>
      cases sign
      simp only [numeral.spanDigits_eq, if_neg numeral.not_zero]
      simp [fits]

theorem IsNumeral.number?_minus {digits : List Char} (numeral : IsNumeral digits)
    (positive : 0 < digitsValue digits) (fits : digitsValue digits ≤ 0x8000000000000000) :
    number? ('-' :: digits) = some (.int (-digitsValue digits)) := by
  have kept : ¬ (digitsValue digits = 0 ∨ 0x8000000000000000 < digitsValue digits) := by omega
  simp only [number?, numeral.spanDigits_eq, if_neg numeral.not_zero]
  simp [kept]

/-- A word that begins with a digit or a sign is no literal name. -/
theorem word?_eq_number? {char : Char} (numeric : char.isDigit = true ∨ char = '-')
    (word : List Char) : word? (char :: word) = number? (char :: word) := by
  have other {letter : Char} (noDigit : letter.isDigit = false) (noSign : letter ≠ '-')
      (rest : List Char) : char :: word ≠ letter :: rest := by
    rintro ⟨⟩
    rcases numeric with digit | sign
    · rw [noDigit] at digit
      cases digit
    · exact noSign sign
  rw [word?, if_neg (other (by decide) (by decide) _), if_neg (other (by decide) (by decide) _),
    if_neg (other (by decide) (by decide) _)]

theorem isWordChar_of_isDigit {char : Char} (digit : char.isDigit = true) :
    isWordChar char = true := by
  simp [isWordChar, Char.isAlphanum, digit]

theorem IsNumeral.lexes {digits : List Char} (numeral : IsNumeral digits)
    (fits : digitsValue digits < 0x10000000000000000) :
    Lexes digits [.scalar (.int (digitsValue digits))] := by
  refine lexes_word numeral.some_digit
    (fun char inside => isWordChar_of_isDigit (numeral.all char inside)) ?_
  rw [← numeral.number?_eq fits]
  cases digits with
  | nil => exact absurd rfl numeral.some_digit
  | cons char rest => exact word?_eq_number? (.inl (numeral.all char List.mem_cons_self)) rest

theorem IsNumeral.lexes_minus {digits : List Char} (numeral : IsNumeral digits)
    (positive : 0 < digitsValue digits) (fits : digitsValue digits ≤ 0x8000000000000000) :
    Lexes ('-' :: digits) [.scalar (.int (-digitsValue digits))] := by
  refine lexes_word (by simp) ?_ ?_
  · rw [List.forall_mem_cons]
    exact ⟨by decide, fun char inside => isWordChar_of_isDigit (numeral.all char inside)⟩
  · rw [word?_eq_number? (.inr rfl), numeral.number?_minus positive fits]

theorem lexes_int {value : Int} (low : -0x8000000000000000 ≤ value)
    (high : value < 0x10000000000000000) :
    Lexes (toString value).toList [.scalar (.int value)] := by
  rw [Int.toString_eq_repr, Int.repr_eq_if]
  split
  next natural =>
    have lexed := (isNumeral_toDigits value.toNat).lexes
    rw [digitsValue_toDigits, Int.toNat_of_nonneg natural] at lexed
    rw [Nat.toList_repr]
    exact lexed (by omega)
  next negative =>
    have lexed := (isNumeral_toDigits (-value).toNat).lexes_minus
    rw [digitsValue_toDigits, Int.toNat_of_nonneg (by omega), Int.neg_neg] at lexed
    rw [String.toList_append, Nat.toList_repr]
    exact lexed (by omega) (by omega)

/-! ### Strings -/

theorem digitValue?_digit :
    ∀ value < 16, Text.Hex.digitValue? (Text.Hex.digit value) = some value := by
  decide

/-- A control character that has no letter of its own is escaped by its number. -/
theorem tokensFrom_unit {char : Char} (control : char.toNat < 0x20) (reversed : List Char)
    (read : List Token) (rest : List Char) :
    tokensFrom (.unit reversed none 4 0) read
        ('0' :: '0' :: Text.Hex.digit (char.toNat / 16) :: Text.Hex.digit (char.toNat % 16)
          :: rest) =
      tokensFrom (.quoted (char :: reversed)) read rest := by
  have zero : Text.Hex.digitValue? '0' = some 0 := by decide
  have high := digitValue?_digit (char.toNat / 16) (by omega)
  have low := digitValue?_digit (char.toNat % 16) (by omega)
  have number : char.toNat / 16 * 16 + char.toNat % 16 = char.toNat := by omega
  have noHigh : ¬ (0xD800 ≤ char.toNat ∧ char.toNat < 0xDC00) := by omega
  have noLow : ¬ (0xDC00 ≤ char.toNat ∧ char.toNat < 0xE000) := by omega
  simp [tokensFrom, scan, zero, high, low, number, finishUnit, noHigh, noLow]

theorem tokensFrom_escapeChar (char : Char) (reversed : List Char) (read : List Token)
    (rest : List Char) :
    tokensFrom (.quoted reversed) read (escapeChar char ++ rest) =
      tokensFrom (.quoted (char :: reversed)) read rest := by
  rw [escapeChar]
  split_ifs with quotation backslash backspace feed newline ret tab control
  · rw [quotation]
    rfl
  · rw [backslash]
    rfl
  · rw [backspace]
    rfl
  · rw [feed]
    rfl
  · rw [newline]
    rfl
  · rw [ret]
    rfl
  · rw [tab]
    rfl
  · exact tokensFrom_unit control reversed read rest
  · simp [tokensFrom, scan, quotation, backslash, control]

theorem lexes_quote (value : String) : Lexes (quote value).toList [.scalar (.text value)] := by
  intro read rest _
  have inside (chars reversed : List Char) :
      tokensFrom (.quoted reversed) read (chars.flatMap escapeChar ++ '"' :: rest) =
        tokensFrom .between
          (.scalar (.text (String.ofList (reversed.reverse ++ chars))) :: read) rest := by
    induction chars generalizing reversed with
    | nil =>
        rw [List.append_nil]
        rfl
    | cons char chars ih =>
        rw [List.flatMap_cons, List.append_assoc, tokensFrom_escapeChar, ih]
        simp
  have text : (quote value).toList ++ rest =
      '"' :: (value.toList.flatMap escapeChar ++ '"' :: rest) := by
    simp [quote]
  calc
    tokensFrom .between read ((quote value).toList ++ rest)
      = tokensFrom (.quoted []) read (value.toList.flatMap escapeChar ++ '"' :: rest) := by
        rw [text]
        rfl
    _ = tokensFrom .between (.scalar (.text value) :: read) rest := by
        rw [inside, List.reverse_nil, List.nil_append, String.ofList_toList]

/-! ### Containers -/

theorem lexes_entry {entry : String × Document}
    (value : Lexes (compact entry.2).toList (tokens entry.2)) :
    Lexes (compactEntry entry).toList (tokensOfEntry entry) := by
  have colon : IsMark ':' .colon := rfl
  have whole := (lexes_quote entry.1).append_mark colon value
  simpa [compactEntry, tokensOfEntry] using whole

theorem lexes_list {items : List Document}
    (each : ∀ item ∈ items, Lexes (compact item).toList (tokens item)) :
    Lexes (compact (.list items)).toList (tokens (.list items)) := by
  have opening : IsMark '[' .openList := rfl
  have closing : IsMark ']' .closeList := rfl
  have whole := Lexes.nil.append_mark opening
    ((Lexes.intercalate each).append_mark closing .nil)
  simpa [compact, compactItems_eq_map, tokens, tokensOfItems_eq_map, Function.comp_def] using whole

theorem lexes_table {entries : List (String × Document)}
    (each : ∀ entry ∈ entries, Lexes (compact entry.2).toList (tokens entry.2)) :
    Lexes (compact (.table entries)).toList (tokens (.table entries)) := by
  have opening : IsMark '\x7b' .openTable := rfl
  have closing : IsMark '\x7d' .closeTable := rfl
  have inside := Lexes.intercalate fun entry member => lexes_entry (each entry member)
  have whole := Lexes.nil.append_mark opening (inside.append_mark closing .nil)
  simpa [compact, compactEntries_eq_map, tokens, tokensOfEntries_eq_map, Function.comp_def]
    using whole

theorem lexes_null : Lexes (compact .null).toList (tokens .null) :=
  lexes_word (by decide) (List.all_eq_true.mp rfl) rfl

theorem lexes_bool (value : Bool) :
    Lexes (compact (.bool value)).toList (tokens (.bool value)) := by
  cases value with
  | true => exact lexes_word (by decide) (List.all_eq_true.mp rfl) rfl
  | false => exact lexes_word (by decide) (List.all_eq_true.mp rfl) rfl

theorem Fits.lexes {depth : Nat} {document : Document} (fits : Fits depth document) :
    Lexes (compact document).toList (tokens document) := by
  induction fits with
  | null => exact lexes_null
  | bool value => exact lexes_bool value
  | int low high => exact lexes_int low high
  | text value => exact lexes_quote value
  | list _ ih => exact lexes_list ih
  | table _ ih => exact lexes_table ih

/-! ## From tokens to documents -/

/-- A state of the reader in which a value may stand. -/
inductive AwaitsValue : Expect → Prop
  | value : AwaitsValue .value
  | valueOrEnd : AwaitsValue .valueOrEnd

/-- A state of the reader in which a key may stand behind some entries, latest first. -/
inductive AwaitsKey (reversed : List (String × Document)) : Expect → Prop
  | keyOrEnd : AwaitsKey reversed (.keyOrEnd reversed)
  | key : AwaitsKey reversed (.key reversed)

/-- Tokens build a document of some depth: read where a value may stand, they hand it to the
innermost of the open containers, if there are not too many of these. -/
def Builds (depth : Nat) (given : List Token) (document : Document) : Prop :=
  ∀ {stack : List Open} {expect : Expect} (value : Document) (rest : List Token),
    AwaitsValue expect → stack.length + depth ≤ maxDepth →
      (given ++ rest).foldlM advance ⟨stack, expect, value⟩ =
        rest.foldlM advance (complete stack document)

theorem builds_scalar {depth : Nat} (document : Document) :
    Builds depth [.scalar document] document := by
  intro stack expect value rest awaits _
  cases awaits <;> rfl

/-- The items of a list and its end: those read before are kept in reverse. -/
theorem foldlM_items {depth : Nat} {items : List Document} (some_item : items ≠ [])
    (each : ∀ item ∈ items, Builds depth (tokens item) item)
    {stack : List Open} (room : stack.length + (depth + 1) ≤ maxDepth)
    (reversed : List Document) {expect : Expect} (awaits : AwaitsValue expect) (value : Document)
    (rest : List Token) :
    ([.comma].intercalate (items.map tokens) ++ .closeList :: rest).foldlM advance
        ⟨.list reversed :: stack, expect, value⟩ =
      rest.foldlM advance (complete stack (.list (reversed.reverse ++ items))) := by
  induction items generalizing reversed expect value with
  | nil => contradiction
  | cons item items ih =>
      rw [List.forall_mem_cons] at each
      have inside : (Open.list reversed :: stack).length + depth ≤ maxDepth := by
        rw [List.length_cons]
        omega
      cases items with
      | nil =>
          rw [List.map_singleton, List.intercalate_singleton, each.1 value _ awaits inside]
          simp [complete, advance]
      | cons next items =>
          have later := ih (by simp) each.2 (item :: reversed) .value .null
          rw [List.map_cons] at later
          rw [List.map_cons, List.map_cons, List.intercalate_cons_cons, List.append_assoc,
            List.append_assoc, each.1 value _ awaits inside]
          simpa [complete, advance] using later

theorem builds_list {depth : Nat} {items : List Document}
    (each : ∀ item ∈ items, Builds depth (tokens item) item) :
    Builds (depth + 1) (tokens (.list items)) (.list items) := by
  intro stack expect value rest awaits room
  have shallow : ¬ maxDepth ≤ stack.length := by omega
  have opened (rest : List Token) :
      (.openList :: rest).foldlM advance ⟨stack, expect, value⟩ =
        rest.foldlM advance ⟨.list [] :: stack, .valueOrEnd, .null⟩ := by
    cases awaits <;> simp [advance, beginValue, shallow]
  rw [tokens, tokensOfItems_eq_map, List.cons_append, opened, List.append_assoc]
  cases items with
  | nil => rfl
  | cons item items => exact foldlM_items (by simp) each room [] .valueOrEnd .null rest

theorem foldlM_entry {depth : Nat} {entry : String × Document}
    (builds : Builds depth (tokens entry.2) entry.2)
    {stack : List Open} (room : stack.length + (depth + 1) ≤ maxDepth)
    {reversed : List (String × Document)} {expect : Expect} (awaits : AwaitsKey reversed expect)
    (value : Document) (rest : List Token) :
    (tokensOfEntry entry ++ rest).foldlM advance ⟨stack, expect, value⟩ =
      rest.foldlM advance ⟨.table (entry :: reversed) entry.1 :: stack, .more, .null⟩ := by
  have inside : (Open.table reversed entry.1 :: stack).length + depth ≤ maxDepth := by
    rw [List.length_cons]
    omega
  -- The key and the colon put the table back on the stack.
  have begun : (tokensOfEntry entry ++ rest).foldlM advance ⟨stack, expect, value⟩ =
      (tokens entry.2 ++ rest).foldlM advance
        ⟨.table reversed entry.1 :: stack, .value, value⟩ := by
    cases awaits <;> rfl
  rw [begun, builds value rest .value inside]
  rfl

/-- The entries of a table and its end.  Between entries the table is off the stack, and what is
expected keeps those read before. -/
theorem foldlM_entries {depth : Nat} {entries : List (String × Document)}
    (some_entry : entries ≠ []) (each : ∀ entry ∈ entries, Builds depth (tokens entry.2) entry.2)
    {stack : List Open} (room : stack.length + (depth + 1) ≤ maxDepth)
    (reversed : List (String × Document)) {expect : Expect} (awaits : AwaitsKey reversed expect)
    (value : Document) (rest : List Token) :
    ([.comma].intercalate (entries.map tokensOfEntry) ++ .closeTable :: rest).foldlM advance
        ⟨stack, expect, value⟩ =
      rest.foldlM advance (complete stack (.table (reversed.reverse ++ entries))) := by
  induction entries generalizing reversed expect value with
  | nil => contradiction
  | cons entry entries ih =>
      rw [List.forall_mem_cons] at each
      cases entries with
      | nil =>
          rw [List.map_singleton, List.intercalate_singleton,
            foldlM_entry each.1 room awaits value]
          simp [advance]
      | cons next entries =>
          have later := ih (by simp) each.2 (entry :: reversed) .key .null
          rw [List.map_cons] at later
          rw [List.map_cons, List.map_cons, List.intercalate_cons_cons, List.append_assoc,
            List.append_assoc, foldlM_entry each.1 room awaits value]
          simpa [advance] using later

theorem builds_table {depth : Nat} {entries : List (String × Document)}
    (each : ∀ entry ∈ entries, Builds depth (tokens entry.2) entry.2) :
    Builds (depth + 1) (tokens (.table entries)) (.table entries) := by
  intro stack expect value rest awaits room
  have shallow : ¬ maxDepth ≤ stack.length := by omega
  have opened (rest : List Token) :
      (.openTable :: rest).foldlM advance ⟨stack, expect, value⟩ =
        rest.foldlM advance ⟨stack, .keyOrEnd [], .null⟩ := by
    cases awaits <;> simp [advance, beginValue, shallow]
  rw [tokens, tokensOfEntries_eq_map, List.cons_append, opened, List.append_assoc]
  cases entries with
  | nil => rfl
  | cons entry entries => exact foldlM_entries (by simp) each room [] .keyOrEnd .null rest

theorem Fits.builds {depth : Nat} {document : Document} (fits : Fits depth document) :
    Builds depth (tokens document) document := by
  induction fits with
  | null => exact builds_scalar .null
  | bool value => exact builds_scalar (.bool value)
  | @int _ value low high => exact builds_scalar (.int value)
  | text value => exact builds_scalar (.text value)
  | list _ ih => exact builds_list ih
  | table _ ih => exact builds_table ih

/-! ## Texts -/

/-- A document is read back from its text on one line. -/
theorem parse?_compact {document : Document} (fits : Fits maxDepth document) :
    parse? (compact document) = some document := by
  have lexed : tokensFrom .between [] (compact document).toList =
      some (tokens document).reverse := by
    have read := fits.lexes [] [] (by simp [Stops])
    simpa [tokensFrom] using read
  have built : (tokens document).foldlM advance ⟨[], .value, .null⟩ =
      some (complete [] document) := by
    have room : ([] : List Open).length + maxDepth ≤ maxDepth := by simp
    have read := fits.builds .null [] .value room
    simpa using read
  rw [parse?, lexed]
  simp [built, complete]

end Testbed.Document.Json
