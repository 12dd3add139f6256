import Testbed.Unicode.Category
import Testbed.Unicode.Property
import Testbed.Unicode.Segmentation

/-!
# Derived properties

This file supplies the properties that the Unicode standard derives from general
categories and from other properties.

Names match loosely: case, blanks, underscores and hyphens do not matter, and
neither does a leading `is`.
-/

namespace Testbed.Unicode

/-! ## Names -/

/-- Whether a name begins with `is`. -/
def opensWithIs : List Char → Bool
  | first :: second :: _ =>
      (first = 'i' || first = 'I') && (second = 's' || second = 'S')
  | _ => false

/-- A name with everything removed that does not matter.  What is left of a name
that begins with `is` must not be the letter that stands for a category. -/
def looseName (name : String) : String :=
  let chars := name.toList
  let opens := opensWithIs chars
  let kept := ((if opens then chars.drop 2 else chars).filter fun char =>
    char ≠ ' ' ∧ char ≠ '_' ∧ char ≠ '-' ∧ char.toNat < 0x80).map Char.toLower
  if opens ∧ kept = ['c'] then "isc" else String.ofList kept

/-- The members written in a table under a loose name. -/
def find? (table : List (List String × List String)) (name : String) :
    Option CharSet :=
  (table.find? fun entry => entry.1.any fun other => looseName other == name).map
    fun entry => readRanges entry.2

/-- The members written in some tables under some names. -/
def gather (table : List (List String × List String)) (names : List String) : CharSet :=
  .unionAll (names.filterMap fun name => find? table (looseName name))

/-! ## Categories -/

/-- Names of the categories that combine others. -/
def categoryGroups : List (List String × List String) :=
  [(["L", "Letter"], ["Lu", "Ll", "Lt", "Lm", "Lo"]),
   (["LC", "Cased_Letter"], ["Lu", "Ll", "Lt"]),
   (["M", "Mark", "Combining_Mark"], ["Mn", "Mc", "Me"]),
   (["N", "Number"], ["Nd", "Nl", "No"]),
   (["P", "Punctuation", "Punct"], ["Pc", "Pd", "Ps", "Pe", "Pi", "Pf", "Po"]),
   (["S", "Symbol"], ["Sm", "Sc", "Sk", "So"]),
   (["Z", "Separator"], ["Zs", "Zl", "Zp"])]

/-- The code points of surrogates. -/
def surrogates : CharSet :=
  ⟨#[(0xD800, 0xDFFF)]⟩

/-- Every code point that is not assigned to a character. -/
def unassigned : CharSet :=
  ((CharSet.unionAll (categories.map fun entry => readRanges entry.2)).complement).diff
    surrogates

/-- Control characters, formats, surrogates, characters for private use and code
points without a character. -/
def otherCategory : CharSet :=
  .unionAll [unassigned, surrogates, gather categories ["Cc", "Cf", "Co"]]

/-- The general category of a loose name; surrogates are no characters, so their
category cannot be named. -/
def category? (name : String) : Option CharSet :=
  if name = "any" then some .all
  else if name = "assigned" then some unassigned.complement
  else if name = "ascii" then some ⟨#[(0, 0x7F)]⟩
  else if name = "cn" ∨ name = "unassigned" then some unassigned
  else if name = "c" ∨ name = "other" then some otherCategory
  else
    match categoryGroups.find? fun entry => entry.1.any fun other => looseName other == name with
    | some entry => some (gather categories entry.2)
    | none => find? categories name

/-! ## Properties -/

/-- The characters of lower case. -/
def lowercase : CharSet :=
  (gather categories ["Ll"]).union (gather properties ["Other_Lowercase"])

/-- The characters of upper case. -/
def uppercase : CharSet :=
  (gather categories ["Lu"]).union (gather properties ["Other_Uppercase"])

/-- The characters that have a case. -/
def cased : CharSet :=
  .unionAll [lowercase, uppercase, gather categories ["Lt"]]

/-- The characters of alphabets. -/
def alphabetic : CharSet :=
  .unionAll
    [cased, gather categories ["Lm", "Lo", "Nl"], gather properties ["Other_Alphabetic"]]

/-- The characters that do not stand between letters when case is considered. -/
def caseIgnorable : CharSet :=
  (gather categories ["Mn", "Me", "Cf", "Lm", "Sk"]).union
    (gather wordBreaks ["MidLetter", "MidNumLet", "Single_Quote"])

/-- The characters that change when their case is mapped. -/
def changesWhenCasemapped : CharSet :=
  gather properties
    ["Changes_When_Lowercased", "Changes_When_Titlecased", "Changes_When_Uppercased"]

/-- The characters of mathematics. -/
def mathematical : CharSet :=
  (gather categories ["Sm"]).union (gather properties ["Other_Math"])

/-- The characters reserved for the notation of patterns. -/
def patternMarks : CharSet :=
  gather properties ["Pattern_Syntax", "Pattern_White_Space"]

/-- The characters that begin identifiers. -/
def identifierStart : CharSet :=
  ((gather categories ["Lu", "Ll", "Lt", "Lm", "Lo", "Nl"]).union
    (gather properties ["Other_ID_Start"])).diff patternMarks

/-- The characters of identifiers. -/
def identifierContinue : CharSet :=
  (CharSet.unionAll
    [identifierStart, gather categories ["Mn", "Mc", "Nd", "Pc"],
      gather properties ["Other_ID_Continue"]]).diff patternMarks

/-- The characters that stay in identifiers under compatibility normalization, but
do not all begin them. -/
def normalizedContinue : CharSet :=
  identifierContinue.diff
    (.ofRanges
      [(0x37A, 0x37A), (0x309B, 0x309C), (0xFC5E, 0xFC63), (0xFDFA, 0xFDFB),
       (0xFE70, 0xFE70), (0xFE72, 0xFE72), (0xFE74, 0xFE74), (0xFE76, 0xFE76),
       (0xFE78, 0xFE78), (0xFE7A, 0xFE7A), (0xFE7C, 0xFE7C), (0xFE7E, 0xFE7E)])

/-- The characters that begin identifiers under compatibility normalization. -/
def normalizedStart : CharSet :=
  (identifierStart.inter normalizedContinue).diff
    (.ofPoints [0xE33, 0xEB3, 0xFF9E, 0xFF9F])

/-- The characters that are not shown where they are not supported. -/
def defaultIgnorable : CharSet :=
  ((gather properties ["Other_Default_Ignorable_Code_Point", "Variation_Selector"]).union
    (gather categories ["Cf"])).diff
    (.unionAll
      [gather properties ["White_Space", "Prepended_Concatenation_Mark"],
        .ofRanges [(0xFFF9, 0xFFFB), (0x13430, 0x13440)]])

/-- The characters that extend the one before them. -/
def graphemeExtend : CharSet :=
  (gather categories ["Me", "Mn"]).union (gather properties ["Other_Grapheme_Extend"])

/-- The characters that others extend. -/
def graphemeBase : CharSet :=
  CharSet.all.diff
    (.unionAll [otherCategory, graphemeExtend, gather categories ["Zl", "Zp"]])

/-- The derived property of a loose name. -/
def derived? (name : String) : Option CharSet :=
  if name = "lowercase" ∨ name = "lower" then some lowercase
  else if name = "uppercase" ∨ name = "upper" then some uppercase
  else if name = "cased" then some cased
  else if name = "alphabetic" ∨ name = "alpha" then some alphabetic
  else if name = "caseignorable" ∨ name = "ci" then some caseIgnorable
  else if name = "changeswhencasemapped" ∨ name = "cwcm" then some changesWhenCasemapped
  else if name = "math" then some mathematical
  else if name = "idstart" ∨ name = "ids" then some identifierStart
  else if name = "idcontinue" ∨ name = "idc" then some identifierContinue
  else if name = "xidstart" ∨ name = "xids" then some normalizedStart
  else if name = "xidcontinue" ∨ name = "xidc" then some normalizedContinue
  else if name = "defaultignorablecodepoint" ∨ name = "di" then some defaultIgnorable
  else if name = "graphemeextend" ∨ name = "grext" then some graphemeExtend
  else if name = "graphemebase" ∨ name = "grbase" then some graphemeBase
  else none

/-- The binary property of a loose name. -/
def property? (name : String) : Option CharSet :=
  (derived? name).orElse fun _ => find? properties name

/-! ## Segmentation -/

/-- The characters that spacing marks and modifiers of emoji extend. -/
def spacingExtend : CharSet :=
  .unionAll [graphemeExtend, gather categories ["Mc"], .singleton 0x200D]

/-- The syllables of Hangul that end in a vowel; one in 28 does. -/
def openSyllables : CharSet :=
  .ofPoints ((List.range 399).map fun index => 0xAC00 + 28 * index)

/-- The class of a loose name among those that bound characters as a reader sees
them. -/
def graphemeBreak? (name : String) : Option CharSet :=
  if name = "extend" ∨ name = "ex" then
    some ((graphemeExtend.union (gather properties ["Emoji_Modifier"])).diff
      (.singleton 0x200D))
  else if name = "lv" then some openSyllables
  else if name = "lvt" then some (CharSet.diff ⟨#[(0xAC00, 0xD7A3)]⟩ openSyllables)
  else find? graphemeBreaks name

/-- The class of a loose name among those that bound words. -/
def wordBreak? (name : String) : Option CharSet :=
  if name = "extend" then
    some ((spacingExtend.union (gather properties ["Emoji_Modifier"])).diff
      (.singleton 0x200D))
  else find? wordBreaks name

/-- The letters of lower case at which sentences do not begin.  The letters of
Georgian that have capitals are not among them. -/
def sentenceLower : CharSet :=
  (lowercase.diff graphemeExtend).diff (.ofRanges [(0x10D0, 0x10FA), (0x10FD, 0x10FF)])

/-- The letters of upper or title case at which sentences begin. -/
def sentenceUpper : CharSet :=
  (uppercase.union (gather categories ["Lt"])).diff
    (.ofRanges [(0x1C90, 0x1CBA), (0x1CBD, 0x1CBF)])

/-- The class of a loose name among those that bound sentences. -/
def sentenceBreak? (name : String) : Option CharSet :=
  if name = "extend" ∨ name = "ex" then some spacingExtend
  else if name = "lower" ∨ name = "lo" then some sentenceLower
  else if name = "upper" ∨ name = "up" then some sentenceUpper
  else if name = "oletter" ∨ name = "le" then
    some ((alphabetic.union (.singleton 0x5F3)).diff
      (.unionAll [sentenceLower, sentenceUpper, spacingExtend]))
  else find? sentenceBreaks name

end Testbed.Unicode
