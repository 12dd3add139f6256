import Testbed.Net.Address
import Testbed.Proofs.Text.Numeral

/-!
# Addresses and their texts

This file supplies the proof that an address is read back from its canonical text.  The text of an
address of the older protocol is read in one piece.  Of the newer protocol there are three kinds of
text: eight groups, groups around an elided run of zeros, and a run that is followed by a mapped
address in dotted form.
-/

namespace Testbed.Net

open Text Text.Numeral

/-! ## Numbers in texts -/

/-- A decimal octet. -/
def octetChars (octet : UInt8) : List Char :=
  Nat.toDigits 10 octet.toNat

theorem readOctet?_append (octet : UInt8) {rest : List Char} (stops : Stops Char.isDigit rest) :
    readOctet? (octetChars octet ++ rest) = some (octet, rest) := by
  have bound : octet.toNat < 256 := octet.toNat_lt
  have short : (octetChars octet).length ≤ 3 :=
    (Nat.length_toDigits_le_iff (by decide) (by decide)).mpr (by omega)
  have digits : ((octetChars octet ++ rest).take 4).takeWhile Char.isDigit = octetChars octet := by
    refine takeWhile_take_append (fun char inside => ?_) (by omega) stops
    exact Nat.isDigit_of_mem_toDigits (by decide) (by decide) inside
  have value : Document.Json.digitsValue (octetChars octet) = octet.toNat :=
    digitsValue_toDigits octet.toNat
  rw [readOctet?]
  simp only [digits, value]
  rw [if_neg, List.drop_left, UInt8.ofNat_toNat]
  rintro (empty | long | large | ⟨long, zero⟩)
  · exact Nat.toDigits_ne_nil (List.isEmpty_iff.mp empty)
  · omega
  · omega
  · exact head?_toDigits_of_length long zero

theorem readOctet?_eq_none {rest : List Char} (stops : Stops Char.isDigit rest) :
    readOctet? rest = none := by
  have none_taken : (([] ++ rest).take 4).takeWhile Char.isDigit = [] :=
    takeWhile_take_append (by simp) (by simp) stops
  rw [List.nil_append] at none_taken
  rw [readOctet?]
  simp [none_taken]

/-- Whether a character is a digit of a group. -/
def isGroupDigit (char : Char) : Bool :=
  (Hex.digitValue? char).isSome

/-- A hexadecimal group. -/
def groupChars (group : UInt16) : List Char :=
  Nat.toDigits 16 group.toNat

theorem digitValue?_digitChar :
    ∀ digit < 16, Hex.digitValue? digit.digitChar = some digit := by
  decide

theorem isGroupDigit_of_mem {group : UInt16} {char : Char} (inside : char ∈ groupChars group) :
    isGroupDigit char = true := by
  obtain ⟨digit, small, rfl⟩ := exists_of_mem_toDigits (by decide) inside
  rw [isGroupDigit, digitValue?_digitChar digit small, Option.isSome_some]

theorem readGroup?_append (group : UInt16) {rest : List Char} (stops : Stops isGroupDigit rest) :
    readGroup? (groupChars group ++ rest) = some (group.toNat, rest) := by
  have short : (groupChars group).length ≤ 4 :=
    (Nat.length_toDigits_le_iff (by decide) (by decide)).mpr group.toNat_lt
  have digits : ((groupChars group ++ rest).take 4).takeWhile isGroupDigit = groupChars group :=
    takeWhile_take_append (fun char => isGroupDigit_of_mem) short stops
  have valued : ∀ digit < 16, (Hex.digitValue? digit.digitChar).getD 0 = digit := by
    intro digit small
    rw [digitValue?_digitChar digit small, Option.getD_some]
  have value : (groupChars group).foldl
      (fun value digit => value * 16 + (Hex.digitValue? digit).getD 0) 0 = group.toNat :=
    foldl_toDigits (by decide) valued group.toNat
  have some_digit : groupChars group ≠ [] := Nat.toDigits_ne_nil
  unfold isGroupDigit at digits
  rw [readGroup?]
  simp only [digits, value]
  rw [if_neg (by simpa using some_digit), List.drop_left]

theorem readGroup?_eq_none {rest : List Char} (stops : Stops isGroupDigit rest) :
    readGroup? rest = none := by
  have none_taken : (([] ++ rest).take 4).takeWhile isGroupDigit = [] :=
    takeWhile_take_append (by simp) (by simp) stops
  rw [List.nil_append] at none_taken
  unfold isGroupDigit at none_taken
  rw [readGroup?]
  simp [none_taken]

/-! ## The older protocol -/

/-- The dotted form of an address. -/
def dottedChars (address : Ipv4) : List Char :=
  octetChars address.first ++ '.' :: (octetChars address.second ++
    '.' :: (octetChars address.third ++ '.' :: octetChars address.fourth))

theorem Ipv4.toList_render (address : Ipv4) : address.render.toList = dottedChars address := by
  simp [render, dottedChars, octetChars]

theorem readIpv4?_append (address : Ipv4) {rest : List Char} (stops : Stops Char.isDigit rest) :
    readIpv4? (dottedChars address ++ rest) = some (address, rest) := by
  have dot (rest : List Char) : Stops Char.isDigit ('.' :: rest) := by
    rintro _ ⟨⟩
    decide
  simp only [dottedChars, List.append_assoc, List.cons_append]
  rw [readIpv4?, readOctet?_append _ (dot _)]
  simp only [Option.bind_eq_bind, Option.bind_some, readIpv4?.dot?]
  rw [readOctet?_append _ (dot _)]
  simp only [Option.bind_some]
  rw [readOctet?_append _ (dot _)]
  simp only [Option.bind_some]
  rw [readOctet?_append _ stops]
  rfl

theorem Ipv4.parse?_render (address : Ipv4) : parse? address.render = some address := by
  have read : readIpv4? (dottedChars address ++ []) = some (address, []) :=
    readIpv4?_append address (by simp [Stops])
  rw [List.append_nil] at read
  rw [parse?, whole?, toList_render, read]

/-- An address in dotted form does not stand at the front of a text that does not begin with a
digit, nor of one without a dot. -/
theorem readIpv4?_eq_none_of_stops {rest : List Char} (stops : Stops Char.isDigit rest) :
    readIpv4? rest = none := by
  rw [readIpv4?, readOctet?_eq_none stops]
  rfl

theorem readIpv4?_eq_none {chars : List Char} (undotted : '.' ∉ chars) :
    readIpv4? chars = none := by
  rw [readIpv4?]
  cases read : readOctet? chars with
  | none => rfl
  | some first =>
      obtain ⟨octet, rest⟩ := first
      -- Where the first octet ends there would have to be a dot.
      have part : rest <:+ chars := by
        rw [readOctet?] at read
        split at read
        · cases read
        · cases read
          exact List.drop_suffix _ _
      have no_dot : readIpv4?.dot? rest = none := by
        rw [readIpv4?.dot?]
        rintro rest rfl
        exact undotted (part.subset List.mem_cons_self)
      simp [no_dot]

/-! ## Groups -/

/-- Groups with colons between them, and with one in front unless they come first. -/
def writtenGroups : Bool → List UInt16 → List Char
  | _, [] => []
  | true, group :: groups => groupChars group ++ writtenGroups false groups
  | false, group :: groups => ':' :: (groupChars group ++ writtenGroups false groups)

theorem toList_groupsText (groups : List UInt16) :
    (Ipv6.groupsText groups).toList = writtenGroups true groups := by
  have texts : (Ipv6.groupsText groups).toList = [':'].intercalate (groups.map groupChars) := by
    rw [Ipv6.groupsText, String.toList_intercalate, List.map_map]
    exact congrArg _ (List.map_congr_left fun group _ => String.toList_ofList)
  rw [texts]
  clear texts
  induction groups with
  | nil => rfl
  | cons group groups ih =>
      cases groups with
      | nil => simp [writtenGroups]
      | cons next groups =>
          rw [List.map_cons] at ih
          rw [List.map_cons, List.map_cons, List.intercalate_cons_cons, ih]
          simp [writtenGroups]

/-- The characters of groups. -/
theorem mem_writtenGroups {first : Bool} {groups : List UInt16} {char : Char}
    (inside : char ∈ writtenGroups first groups) : char = ':' ∨ isGroupDigit char = true := by
  induction groups generalizing first with
  | nil => simp [writtenGroups] at inside
  | cons group groups ih =>
      have within : char = ':' ∨ char ∈ groupChars group ∨ char ∈ writtenGroups false groups := by
        cases first with
        | true => exact .inr (by simpa [writtenGroups] using inside)
        | false => simpa [writtenGroups] using inside
      rcases within with colon | digit | later
      · exact .inl colon
      · exact .inr (isGroupDigit_of_mem digit)
      · exact ih later

theorem undotted_writtenGroups (first : Bool) (groups : List UInt16) :
    '.' ∉ writtenGroups first groups := by
  intro inside
  rcases mem_writtenGroups inside with colon | digit
  · exact absurd colon (by decide)
  · exact absurd digit (by decide)

/-- What may stand behind groups: nothing, or the two colons of an elided run. -/
inductive EndsGroups : List Char → Prop
  | done : EndsGroups []
  | elided (rest : List Char) : EndsGroups (':' :: ':' :: rest)

theorem stops_colon (rest : List Char) : Stops isGroupDigit (':' :: rest) := by
  rintro _ ⟨⟩
  decide

theorem EndsGroups.stops {rest : List Char} (ends : EndsGroups rest) :
    Stops isGroupDigit rest := by
  cases ends with
  | done => simp [Stops]
  | elided => exact stops_colon _

theorem stops_writtenGroups {rest : List Char} (ends : EndsGroups rest) (groups : List UInt16) :
    Stops isGroupDigit (writtenGroups false groups ++ rest) := by
  cases groups with
  | nil => exact ends.stops
  | cons group groups => exact stops_colon _

theorem undotted_of_separated {first : Bool} {chars rest : List Char} (undotted : '.' ∉ chars)
    (separated : separated? first chars = some rest) : '.' ∉ rest := by
  cases first with
  | true =>
      cases separated
      exact undotted
  | false =>
      unfold separated? at separated
      split at separated
      · contradiction
      · split at separated
        · cases separated
          exact fun inside => undotted (List.mem_cons_of_mem _ inside)
        · cases separated

/-- A group is read where no address in dotted form stands, and then those behind it. -/
theorem readGroups_of_group {first : Bool} {chars rest : List Char} {group : Nat}
    (no_older : (separated? first chars).bind readIpv4? = none)
    (read : (separated? first chars).bind readGroup? = some (group, rest)) (limit : Nat) :
    readGroups first (limit + 1) chars =
      (group :: (readGroups false limit rest).1, (readGroups false limit rest).2) := by
  simp only [readGroups, no_older, read]

theorem readGroups_of_none {first : Bool} {chars : List Char}
    (no_older : (separated? first chars).bind readIpv4? = none)
    (no_group : (separated? first chars).bind readGroup? = none) (limit : Nat) :
    readGroups first (limit + 1) chars = ([], false, chars) := by
  simp only [readGroups, no_older, no_group]

theorem no_older_of_stops {chars : List Char} (stops : Stops Char.isDigit chars) :
    (separated? true chars).bind readIpv4? = none :=
  readIpv4?_eq_none_of_stops stops

theorem no_older_of_undotted (first : Bool) {chars : List Char} (undotted : '.' ∉ chars) :
    (separated? first chars).bind readIpv4? = none := by
  cases separated : separated? first chars with
  | none => rfl
  | some rest => exact readIpv4?_eq_none (undotted_of_separated undotted separated)

theorem readGroups_of_ends {rest : List Char} (ends : EndsGroups rest) (undotted : '.' ∉ rest)
    (first : Bool) (limit : Nat) : readGroups first limit rest = ([], false, rest) := by
  cases limit with
  | zero => rfl
  | succ limit =>
      have no_group : (separated? first rest).bind readGroup? = none := by
        cases first with
        | true => exact readGroup?_eq_none ends.stops
        | false =>
            cases ends with
            | done => rfl
            | elided rest => exact readGroup?_eq_none (stops_colon rest)
      exact readGroups_of_none (no_older_of_undotted first undotted) no_group limit

/-- Groups are read up to what ends them, as many as there is room for. -/
theorem readGroups_append {rest : List Char} (ends : EndsGroups rest) (undotted : '.' ∉ rest)
    (first : Bool) {groups : List UInt16} {limit : Nat} (room : groups.length ≤ limit) :
    readGroups first limit (writtenGroups first groups ++ rest) =
      (groups.map UInt16.toNat, false, rest) := by
  induction groups generalizing first limit with
  | nil =>
      rw [writtenGroups]
      exact readGroups_of_ends ends undotted first limit
  | cons group groups ih =>
      cases limit with
      | zero => simp at room
      | succ limit =>
          have whole : '.' ∉ writtenGroups first (group :: groups) ++ rest := by
            rw [List.mem_append, not_or]
            exact ⟨undotted_writtenGroups first _, undotted⟩
          have next : separated? first (writtenGroups first (group :: groups) ++ rest) =
              some (groupChars group ++ (writtenGroups false groups ++ rest)) := by
            cases first <;> simp [writtenGroups, separated?]
          have read : (separated? first (writtenGroups first (group :: groups) ++ rest)).bind
              readGroup? = some (group.toNat, writtenGroups false groups ++ rest) := by
            rw [next]
            exact readGroup?_append group (stops_writtenGroups ends groups)
          rw [readGroups_of_group (no_older_of_undotted first whole) read,
            ih false (Nat.le_of_succ_le_succ room), List.map_cons]

/-! ## The newer protocol -/

theorem ofGroups?_toNat (address : Ipv6) :
    ofGroups? (address.groups.toList.map UInt16.toNat) = some address := by
  have groups : (address.groups.toList.map UInt16.toNat).map UInt16.ofNat =
      address.groups.toList := by
    simp [Function.comp_def]
  obtain ⟨⟨⟨groups⟩, sized⟩⟩ := address
  rw [ofGroups?]
  simp_all

/-- A run of zeros among groups: where it begins, and its length. -/
def IsZeros (groups : List UInt16) (run : Nat × Nat) : Prop :=
  ∃ front back, groups = front ++ List.replicate run.2 0 ++ back ∧ front.length = run.1

/-- What is kept while the groups are passed: the best run is one of zeros, and the groups passed
end in the run under way. -/
theorem isZeros_longestZeros {groups passed rest : List UInt16} (split : groups = passed ++ rest)
    {start length : Nat} {front : List UInt16}
    (ending : passed = front ++ List.replicate length 0)
    (begun : length ≠ 0 → front.length = start)
    {bestStart bestLength : Nat} (best : IsZeros groups (bestStart, bestLength)) :
    IsZeros groups
      (Ipv6.longestZeros passed.length start length bestStart bestLength rest) := by
  induction rest generalizing passed start length front bestStart bestLength with
  | nil => exact best
  | cons group rest ih =>
      have further : groups = (passed ++ [group]) ++ rest := by
        rw [split, List.append_assoc, List.singleton_append]
      have counted : (passed ++ [group]).length = passed.length + 1 := List.length_append
      by_cases zero : group = 0
      · subst zero
        -- The run under way goes on, or begins here.
        have longer : passed ++ [0] = front ++ List.replicate (length + 1) 0 := by
          rw [ending, List.append_assoc, List.replicate_succ']
        have starts : front.length = if length = 0 then passed.length else start := by
          split
          next none_yet => simp [ending, none_yet]
          next some_yet => exact begun some_yet
        simp only [Ipv6.longestZeros, if_pos]
        generalize (if length = 0 then passed.length else start) = begins at starts
        have here : IsZeros groups (begins, length + 1) :=
          ⟨front, rest, by rw [further, longer], starts⟩
        split
        · exact counted ▸ ih further longer (fun _ => starts) here
        · exact counted ▸ ih further longer (fun _ => starts) best
      · have no_run : passed ++ [group] = (passed ++ [group]) ++ List.replicate 0 0 := by simp
        simp only [Ipv6.longestZeros, if_neg zero]
        exact counted ▸ ih further no_run (fun some_run => absurd rfl some_run) best

theorem isZeros_longest (groups : List UInt16) :
    IsZeros groups (Ipv6.longestZeros 0 0 0 0 0 groups) := by
  have ended : ([] : List UInt16) = [] ++ List.replicate 0 0 := rfl
  exact isZeros_longestZeros (List.nil_append groups).symm ended (fun some => absurd rfl some)
    ⟨[], groups, rfl, rfl⟩

theorem Ipv6.length_groups (address : Ipv6) : address.groups.toList.length = 8 := by
  simp

theorem readIpv6?_writtenGroups (address : Ipv6) :
    readIpv6? (writtenGroups true address.groups.toList) = some (address, []) := by
  have read : readGroups true 8 (writtenGroups true address.groups.toList ++ []) =
      (address.groups.toList.map UInt16.toNat, false, []) :=
    readGroups_append .done List.not_mem_nil true (Nat.le_of_eq address.length_groups)
  rw [List.append_nil] at read
  simp only [readIpv6?, read, List.length_map, if_pos address.length_groups, ofGroups?_toNat,
    Option.map_some]

/-- Groups around two colons, which stand for the zeros that the others leave. -/
def elidedChars (head tail : List UInt16) : List Char :=
  writtenGroups true head ++ ':' :: ':' :: writtenGroups true tail

theorem undotted_elidedChars (head tail : List UInt16) : '.' ∉ elidedChars head tail := by
  simp [elidedChars, undotted_writtenGroups]

theorem readIpv6?_elidedChars {address : Ipv6} {head tail : List UInt16} {count : Nat}
    (several : 1 < count)
    (groups : address.groups.toList = head ++ List.replicate count 0 ++ tail) :
    readIpv6? (elidedChars head tail) = some (address, []) := by
  -- More than one zero is elided, so the groups on either side have room where they are read.
  have total : head.length + count + tail.length = 8 := by
    have counted := congrArg List.length groups
    rw [address.length_groups, List.length_append, List.length_append,
      List.length_replicate] at counted
    exact counted.symm
  have undotted : '.' ∉ ':' :: ':' :: writtenGroups true tail := by
    simp [undotted_writtenGroups]
  have first : readGroups true 8 (elidedChars head tail) =
      (head.map UInt16.toNat, false, ':' :: ':' :: writtenGroups true tail) :=
    readGroups_append (.elided _) undotted true (by omega)
  have second : readGroups true (7 - head.length) (writtenGroups true tail ++ []) =
      (tail.map UInt16.toNat, false, []) :=
    readGroups_append .done List.not_mem_nil true (by omega)
  rw [List.append_nil] at second
  have zeros : List.replicate (8 - head.length - tail.length) 0 =
      (List.replicate count (0 : UInt16)).map UInt16.toNat := by
    rw [List.map_replicate, show 8 - head.length - tail.length = count by omega]
    rfl
  have whole : head.map UInt16.toNat ++ List.replicate (8 - head.length - tail.length) 0
      ++ tail.map UInt16.toNat = address.groups.toList.map UInt16.toNat := by
    rw [groups, zeros, List.map_append, List.map_append]
  have partly : head.length ≠ 8 := by omega
  simp only [readIpv6?, first, second, List.length_map, if_neg partly, whole, ofGroups?_toNat,
    Option.map_some, Bool.false_eq_true, if_false]

/-- An address that maps an older one has the groups that its octets make. -/
theorem Ipv6.groups_of_mapped {address : Ipv6} {older : Ipv4}
    (maps : address.mapped? = some older) :
    address.groups.toList.map UInt16.toNat =
      List.replicate 5 0 ++ [0xFFFF, older.first.toNat * 256 + older.second.toNat,
        older.third.toNat * 256 + older.fourth.toNat] := by
  rw [mapped?] at maps
  split at maps
  next high low groups =>
    cases maps
    have rebuilt (word : UInt16) :
        (UInt8.ofNat (word.toNat / 256)).toNat * 256 + (UInt8.ofNat word.toNat).toNat =
          word.toNat := by
      have bound := word.toNat_lt
      simp only [UInt8.toNat_ofNat']
      omega
    rw [groups, rebuilt, rebuilt]
    rfl
  next => cases maps

theorem readIpv6?_mapped {address : Ipv6} {older : Ipv4} (maps : address.mapped? = some older) :
    readIpv6? (':' :: ':' :: (groupChars 0xFFFF ++ ':' :: dottedChars older)) =
      some (address, []) := by
  have at_colon (rest : List Char) : Stops Char.isDigit (':' :: rest) := by
    rintro _ ⟨⟩
    decide
  have at_ones (rest : List Char) : Stops Char.isDigit (groupChars 0xFFFF ++ rest) := by
    rintro _ ⟨⟩
    decide
  have first (rest : List Char) : readGroups true 8 (':' :: rest) = ([], false, ':' :: rest) :=
    readGroups_of_none (no_older_of_stops (at_colon rest)) (readGroup?_eq_none (stops_colon rest)) 7
  have dotted : readGroups false 6 (':' :: dottedChars older) =
      ([older.first.toNat * 256 + older.second.toNat,
        older.third.toNat * 256 + older.fourth.toNat], true, []) := by
    have read : readIpv4? (dottedChars older ++ []) = some (older, []) :=
      readIpv4?_append older (by simp [Stops])
    rw [List.append_nil] at read
    simp [readGroups, separated?, read]
  have second : readGroups true 7 (groupChars 0xFFFF ++ ':' :: dottedChars older) =
      ([0xFFFF, older.first.toNat * 256 + older.second.toNat,
        older.third.toNat * 256 + older.fourth.toNat], true, []) := by
    have ones := readGroup?_append 0xFFFF (stops_colon (dottedChars older))
    have read := readGroups_of_group (no_older_of_stops (at_ones _)) ones 6
    rwa [dotted] at read
  have groups := Ipv6.groups_of_mapped maps
  have built := ofGroups?_toNat address
  rw [groups] at built
  simp only [readIpv6?, first, List.length_nil, Nat.sub_zero, second]
  simpa using built

theorem Ipv6.toList_render_of_mapped {address : Ipv6} {older : Ipv4}
    (maps : address.mapped? = some older) :
    address.render.toList = ':' :: ':' :: (groupChars 0xFFFF ++ ':' :: dottedChars older) := by
  have ones : groupChars 0xFFFF = ['f', 'f', 'f', 'f'] := by decide
  rw [render, maps, ones]
  simp [Ipv4.toList_render]

/-- The text of an address that maps none is all groups, or elides several zeros. -/
theorem Ipv6.toList_render {address : Ipv6} (maps : address.mapped? = none) :
    address.render.toList = writtenGroups true address.groups.toList ∨
      ∃ head count tail, 1 < count ∧
        address.groups.toList = head ++ List.replicate count 0 ++ tail ∧
        address.render.toList = elidedChars head tail := by
  obtain ⟨front, back, groups, begins⟩ := isZeros_longest address.groups.toList
  rw [render, maps]
  simp only
  generalize longestZeros 0 0 0 0 0 address.groups.toList = run at groups begins
  split
  next several =>
    refine .inr ⟨front, run.2, back, several, groups, ?_⟩
    have head : address.groups.toList.take run.1 = front := by
      rw [groups, List.append_assoc, ← begins, List.take_left]
    have tail : address.groups.toList.drop (run.1 + run.2) = back := by
      have passed : run.1 + run.2 = (front ++ List.replicate run.2 0).length := by
        rw [List.length_append, List.length_replicate, begins]
      rw [groups, passed, List.drop_left]
    rw [head, tail]
    simp [elidedChars, toList_groupsText]
  next => exact .inl (toList_groupsText _)

theorem Ipv6.parse?_render (address : Ipv6) : parse? address.render = some address := by
  have read : readIpv6? address.render.toList = some (address, []) := by
    cases maps : address.mapped? with
    | some older =>
        rw [toList_render_of_mapped maps]
        exact readIpv6?_mapped maps
    | none =>
        rcases toList_render maps with whole | ⟨head, count, tail, several, groups, elided⟩
        · rw [whole]
          exact readIpv6?_writtenGroups address
        · rw [elided]
          exact readIpv6?_elidedChars several groups
  rw [parse?, whole?, read]

/-! ## Either protocol -/

/-- No text of the newer protocol is read as an address of the older one: it begins with a colon,
or has no dot. -/
theorem Ipv4.parse?_ipv6 (address : Ipv6) : parse? address.render = none := by
  have unread : readIpv4? address.render.toList = none := by
    cases maps : address.mapped? with
    | some older =>
        rw [Ipv6.toList_render_of_mapped maps]
        apply readIpv4?_eq_none_of_stops
        rintro _ ⟨⟩
        decide
    | none =>
        apply readIpv4?_eq_none
        rcases Ipv6.toList_render maps with whole | ⟨head, count, tail, -, -, elided⟩
        · rw [whole]
          exact undotted_writtenGroups true _
        · rw [elided]
          exact undotted_elidedChars head tail
  rw [parse?, whole?, unread]

/-- An address is read back from its text. -/
theorem Address.parse?_render (address : Address) : parse? address.render = some address := by
  cases address with
  | v4 older => rw [parse?, render, Ipv4.parse?_render]
  | v6 newer =>
      rw [parse?, render, Ipv4.parse?_ipv6, Ipv6.parse?_render]
      rfl

end Testbed.Net
