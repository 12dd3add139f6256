import Testbed.Unicode.Width

/-!
# Columns of texts

This file supplies how many columns of a terminal a text takes.  A character takes
two if it is wide, none if it is a mark on another or not shown, and one otherwise;
but some characters are drawn together with those behind them, such as the parts of
an emoji or the letters of a ligature, so a text is measured from its end, keeping
what follows the character at hand.
-/

namespace Testbed.Unicode

/-- Characters drawn together with letters in front of them. -/
inductive Ligature where
  | alef
  | lamed
  | ya
  /-- A vowel sign before a joined ya. -/
  | vowelYa
  | consonant
  /-- A consonant behind the sign that joins consonants. -/
  | boundConsonant
  | toneMark
  | orkhonI
  | subscript
  deriving DecidableEq

/-- What follows a character, as far as the columns of a text depend on it. -/
inductive Follower where
  | other
  | lineFeed
  /-- A ligature, perhaps behind a joiner. -/
  | ligature (kind : Ligature) (joined : Bool)
  | emoji
  | skinTone
  /-- Regional indicators, one or several. -/
  | indicator (several : Bool)
  /-- An emoji behind a joiner. -/
  | joinedEmoji
  | joinedKeycap
  /-- One regional indicator before a joined emoji. -/
  | joinedIndicator
  /-- An even number of them. -/
  | joinedPairs
  /-- An odd number of them from three on. -/
  | joinedTriples
  /-- The end of the tags of a joined flag, and the tags read so far. -/
  | tagEnd
  | tagDigits (count : Nat)
  | tagLetters (count : Nat)
  /-- Kirat Rai vowel signs that are written with two or three characters. -/
  | vowelE
  | vowelAi
  deriving DecidableEq

/-- What follows a character, with the style selectors between them. -/
structure Behind where
  follower : Follower := .other
  emojiStyle : Bool := false
  textStyle : Bool := false
  wideStyle : Bool := false
  deriving DecidableEq

namespace Follower

/-- Whether the follower is a ligature. -/
def isLigature : Follower → Bool
  | ligature _ _ => true
  | _ => false

/-- Whether the follower is part of an emoji behind a joiner. -/
def isJoinedEmoji : Follower → Bool
  | joinedEmoji | joinedKeycap => true
  | _ => false

/-- What a character by itself is to those in front of it. -/
def ofPoint (point : Nat) : Follower :=
  if joinedAlefs.has point then ligature .alef false
  else if point = 0x5DC then ligature .lamed false
  else if subscripts.has point then ligature .subscript true
  else if point = 0x1A10 then ligature .ya false
  else if consonants.has point then ligature .consonant false
  else if point = 0xA4FC ∨ point = 0xA4FD then ligature .toneMark true
  else if point = 0x10C03 then ligature .orkhonI false
  else if point = 0x16D67 then vowelE
  else if point = 0x16D68 then vowelAi
  else if indicators.has point then indicator false
  else if skinTones.has point then skinTone
  else if emojis.has point then emoji
  else other

end Follower

/-- The columns of a character before a ligature and what it becomes, if it is drawn
together with it. -/
def Ligature.take? (kind : Ligature) (joined : Bool) (point : Nat) :
    Option (Int × Follower) :=
  match kind, joined with
  | alef, _ =>
      if joinedLams.has point then some (0, .other)
      else if widthless.has point ∧ !unjoining.has point then
        some (0, .ligature alef false)
      else
        none
  | lamed, true => if point = 0x5D0 then some (0, .other) else none
  | ya, true => if point = 0x1A17 then some (0, .ligature vowelYa true) else none
  | vowelYa, _ => if point = 0x1A15 then some (0, .other) else none
  | consonant, joined =>
      if point = 0x2D7F then some (1, .ligature boundConsonant true)
      else if joined ∧ consonants.has point then some (0, .other)
      else none
  | boundConsonant, _ => if consonants.has point then some (-1, .other) else none
  | toneMark, _ => if 0xA4F8 ≤ point ∧ point ≤ 0xA4FB then some (0, .other) else none
  | orkhonI, true => if point = 0x10C32 then some (0, .other) else none
  | subscript, _ => if point = 0x17D2 then some (-1, .other) else none
  | _, false => none

namespace Follower

/-- The columns of a character before a joined emoji, if it belongs to it. -/
def takeJoined? (point : Nat) : Option (Int × Follower) :=
  if point = 0x20E3 then some (0, joinedKeycap)
  else if indicators.has point then some (1, joinedIndicator)
  else if skinTones.has point then some (0, skinTone)
  else if point = 0xE007F then some (0, tagEnd)
  else if emojis.has point then some (0, emoji)
  else none

/-- The columns of a character before tags, if it belongs to their flag: a black flag
before three digits, or before up to six letters or digits that begin with letters. -/
def takeTag? (letters digits : Nat) (point : Nat) : Option (Int × Follower) :=
  if 0xE0061 ≤ point ∧ point ≤ 0xE007A ∧ digits = 0 ∧ letters < 6 then
    some (0, tagLetters (letters + 1))
  else if 0xE0030 ≤ point ∧ point ≤ 0xE0039 ∧ digits < 3 ∧ letters < 5 then
    some (0, tagDigits (digits + 1))
  else if point = 0x1F3F4 ∧ (digits = 3 ∨ 3 ≤ letters) then some (0, emoji)
  else none

/-- The columns of a character before the follower and what it becomes, if it is drawn
together with it. -/
def take? (follower : Follower) (point : Nat) : Option (Int × Follower) :=
  let join := if point = 0x200D then some (0, joinedEmoji) else none
  match follower with
  | other | lineFeed | joinedKeycap => none
  | ligature kind joined => kind.take? joined point
  | emoji => join
  | skinTone => if toned.has point then some (0, emoji) else join
  | indicator several =>
      if indicators.has point then some (1, indicator true)
      else if several then join
      else none
  | joinedEmoji => takeJoined? point
  | joinedIndicator => if indicators.has point then some (-1, joinedPairs) else none
  | joinedPairs => if indicators.has point then some (3, joinedTriples) else join
  | joinedTriples => if indicators.has point then some (-1, joinedPairs) else join
  | tagEnd => takeTag? 0 0 point
  | tagDigits count => takeTag? 0 count point
  | tagLetters count => takeTag? count 0 point
  | vowelE =>
      if point = 0x16D63 ∨ point = 0x16D69 then some (0, other)
      else if point = 0x16D67 then some (0, vowelAi)
      else if point = 0x16D68 then some (1, vowelE)
      else none
  | vowelAi => if point = 0x16D63 then some (0, other) else none

end Follower

namespace Behind

/-- The columns of a character by itself, and how it stands behind others. -/
def single (point : Nat) : Int × Behind :=
  if point = 0xFE01 then (0, { wideStyle := true })
  else if point = 0xFE0E then (0, { textStyle := true })
  else if point = 0xFE0F then (0, { emojiStyle := true })
  else
    let columns : Int :=
      if widthless.has point then 0
      else if wide.has point then 2
      else if point = 0x17D8 then 3
      else 1
    (columns, { follower := .ofPoint point })

/-- Place a character before others, once their selectors have been heeded. -/
def placeLetter (behind : Behind) (point : Nat) : Int × Behind :=
  match behind.follower with
  | .ligature .alef _ => place behind point
  | .ligature kind joined =>
      if point = 0x200D then (0, { behind with follower := .ligature kind true })
      else if ligatureIgnored.has point then (0, behind)
      else place { behind with follower := .ligature kind joined } point
  | _ => place behind point
where
  place (behind : Behind) (point : Nat) : Int × Behind :=
    match if behind.wideStyle then none else behind.follower.take? point with
    | some (columns, follower) => (columns, { follower })
    | none => single point

/-- Place a character that may be a selector or have a selector behind it. -/
def placeStyled (behind : Behind) (point : Nat) : Int × Behind :=
  let ligature := if behind.follower.isLigature then behind else {}
  if point = 0xFE01 then (0, { ligature with wideStyle := true })
  else if point = 0xFE0E then (0, { ligature with textStyle := true })
  else if point = 0xFE0F then
    let kept := if behind.follower.isJoinedEmoji then behind else ligature
    (0, { kept with emojiStyle := true })
  else if behind.textStyle then
    if textStyled.has point then (1, {})
    else placeLetter { behind with textStyle := false } point
  else if behind.wideStyle then
    if point = 0x2018 ∨ point = 0x2019 ∨ point = 0x201C ∨ point = 0x201D then (2, {})
    else placeLetter { behind with wideStyle := false } point
  else
    placeLetter behind point

/-- The columns of a character before others, and how it stands behind those in front
of it. -/
def place (behind : Behind) (point : Nat) : Int × Behind :=
  if behind.emojiStyle ∧ styled.has point then
    (if behind.follower.isJoinedEmoji then 0 else 2, { follower := .emoji })
  else
    let behind :=
      if behind.emojiStyle then
        if behind.follower.isLigature then { behind with emojiStyle := false } else {}
      else
        behind
    if 0xA0 < point then placeStyled behind point
    else if point = 0x0A then (1, { follower := .lineFeed })
    else if point = 0x0D ∧ behind = { follower := .lineFeed } then (0, {})
    else (1, {})

end Behind

/-- The columns that characters take, and how they stand behind others. -/
def placeAll (chars : List Char) : Int × Behind :=
  chars.foldr
    (fun char (total, behind) =>
      let (columns, behind) := behind.place char.toNat
      (total + columns, behind))
    (0, {})

/-- The columns that a text takes. -/
def textColumns (text : String) : Nat :=
  (placeAll text.toList).1.toNat

end Testbed.Unicode
