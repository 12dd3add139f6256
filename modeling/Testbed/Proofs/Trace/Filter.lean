import Mathlib.Data.List.Forall2
import Testbed.Proofs.Text.Pieces
import Testbed.Trace.Filter

/-!
# The grammar of capture filters

This file supplies which texts are capture filters and which frames a filter lets pass, read
off the pieces between the commas of its text.  A piece is one part or two parts with a colon
between them, and a part is an identifier or an asterisk with blanks around it; pieces that are
blank do not count.

Nothing else of the text matters, so it can be put in other words: its pieces stand in any
order and any number of times, and blank pieces and blanks around the parts go in anywhere.
-/

namespace Testbed.Trace

open Text

/-! ## Parts -/

/-- What is written in a part, blanks around it removed. -/
def partText (part : List Char) : String :=
  String.ofList (trimChars part)

/-- A part is an asterisk or has one to four octets. -/
def IsPart (part : List Char) : Prop :=
  partText part = "*" ∨ 1 ≤ (partText part).utf8ByteSize ∧ (partText part).utf8ByteSize ≤ 4

instance (part : List Char) : Decidable (IsPart part) :=
  inferInstanceAs (Decidable (_ ∨ _))

/-- A part stands for an identifier if it is that or an asterisk. -/
def StandsFor (part : List Char) (id : String) : Prop :=
  partText part = "*" ∨ partText part = id

namespace FilterRule

variable {part : List Char}

theorem readId_eq (part : List Char) :
    readId part =
      if partText part = "*" then .ok none
      else if partText part = "" then .error .emptyId
      else if 4 < (partText part).utf8ByteSize then .error (.longId (partText part))
      else .ok (some (partText part)) :=
  rfl

theorem readId_eq_ok_iff {id : Option String} :
    readId part = .ok id ↔
      IsPart part ∧ id = if partText part = "*" then none else some (partText part) := by
  rw [readId_eq, IsPart]
  by_cases any : partText part = "*"
  · simp [any, eq_comm]
  · have empty : partText part = "" ↔ ¬1 ≤ (partText part).utf8ByteSize := by
      rw [← String.utf8ByteSize_eq_zero_iff]
      omega
    simp only [any, if_false, empty, false_or]
    split
    next short => simp [short]
    next long =>
      split
      next tooLong => simp [Nat.not_le.mpr tooLong]
      next fits => simp [not_not.mp long, Nat.not_lt.mp fits, eq_comm]

/-- An identifier as read is met by those that its part stands for. -/
theorem all_of_readId {id : Option String} (read : readId part = .ok id) (other : String) :
    id.all (· == other) = true ↔ StandsFor part other := by
  rw [(readId_eq_ok_iff.mp read).2, StandsFor]
  by_cases any : partText part = "*"
  · simp [any]
  · simp [any]

end FilterRule

/-! ## Pieces -/

/-- The parts of a piece: the application, and the context if there is a colon, the first of
which stands between them. -/
inductive PartsOf : List Char → List Char → Option (List Char) → Prop where
  | alone {apid : List Char} (noColon : ':' ∉ apid) : PartsOf apid apid none
  | pair {apid ctid : List Char} (noColon : ':' ∉ apid) :
      PartsOf (apid ++ ':' :: ctid) apid (some ctid)

/-- A piece is well formed if its parts are. -/
def IsRule (piece : List Char) : Prop :=
  ∃ apid ctid, PartsOf piece apid ctid ∧ IsPart apid ∧ ∀ part ∈ ctid, IsPart part

/-- A piece covers a frame if its parts stand for the frame's identifiers. -/
def Covers (piece : List Char) (frame : Frame) : Prop :=
  ∃ apid ctid, PartsOf piece apid ctid ∧ StandsFor apid frame.apid ∧
    ∀ part ∈ ctid, StandsFor part frame.ctid

section Pieces

variable {piece apid : List Char} {ctid : Option (List Char)}

theorem takeWhile_of_not_mem_colon (noColon : ':' ∉ apid) (rest : List Char) :
    (apid ++ rest).takeWhile (· ≠ ':') = apid ++ rest.takeWhile (· ≠ ':') ∧
      (apid ++ rest).dropWhile (· ≠ ':') = rest.dropWhile (· ≠ ':') := by
  have others : ∀ char ∈ apid, decide (char ≠ ':') = true := by
    intro char mem
    exact decide_eq_true fun colon => noColon (colon ▸ mem)
  exact ⟨List.takeWhile_append_of_pos others, List.dropWhile_append_of_pos others⟩

/-- The parts of a piece are where it is cut. -/
theorem PartsOf.cut_eq (parts : PartsOf piece apid ctid) :
    piece.takeWhile (· ≠ ':') = apid ∧
      piece.dropWhile (· ≠ ':') = ctid.elim [] (':' :: ·) := by
  cases parts with
  | alone noColon =>
      have cut := takeWhile_of_not_mem_colon noColon []
      simpa using cut
  | @pair _ context noColon =>
      have cut := takeWhile_of_not_mem_colon noColon (':' :: context)
      simpa using cut

theorem PartsOf.unique {otherApid : List Char} {otherCtid : Option (List Char)}
    (parts : PartsOf piece apid ctid) (others : PartsOf piece otherApid otherCtid) :
    otherApid = apid ∧ otherCtid = ctid := by
  have behind := others.cut_eq.2.symm.trans parts.cut_eq.2
  refine ⟨others.cut_eq.1.symm.trans parts.cut_eq.1, ?_⟩
  cases ctid <;> cases otherCtid <;> simp at behind ⊢
  exact behind

theorem PartsOf.isRule_iff (parts : PartsOf piece apid ctid) :
    IsRule piece ↔ IsPart apid ∧ ∀ part ∈ ctid, IsPart part := by
  constructor
  · rintro ⟨_, _, others, areParts⟩
    rcases parts.unique others with ⟨rfl, rfl⟩
    exact areParts
  · intro areParts
    exact ⟨apid, ctid, parts, areParts⟩

theorem PartsOf.covers_iff (parts : PartsOf piece apid ctid) {frame : Frame} :
    Covers piece frame ↔
      StandsFor apid frame.apid ∧ ∀ part ∈ ctid, StandsFor part frame.ctid := by
  constructor
  · rintro ⟨_, _, others, stand⟩
    rcases parts.unique others with ⟨rfl, rfl⟩
    exact stand
  · intro stand
    exact ⟨apid, ctid, parts, stand⟩

theorem exists_partsOf (piece : List Char) : ∃ apid ctid, PartsOf piece apid ctid := by
  by_cases colon : ':' ∈ piece
  · rcases List.eq_append_cons_of_mem colon with ⟨apid, ctid, rfl, noColon⟩
    exact ⟨apid, some ctid, .pair noColon⟩
  · exact ⟨piece, none, .alone colon⟩

theorem FilterRule.read_of_alone (noColon : ':' ∉ apid) :
    FilterRule.read apid = (readId apid).map fun apid => ⟨apid, none⟩ := by
  have cut := PartsOf.cut_eq (.alone noColon)
  rw [FilterRule.read, cut.1, cut.2]
  rfl

theorem FilterRule.read_of_pair (noColon : ':' ∉ apid) (ctid : List Char) :
    FilterRule.read (apid ++ ':' :: ctid) =
      (readId apid >>= fun apid => (readId ctid).map fun ctid => ⟨apid, ctid⟩) := by
  have parts : PartsOf (apid ++ ':' :: ctid) apid (some ctid) := .pair noColon
  rw [FilterRule.read, parts.cut_eq.1, parts.cut_eq.2]
  rfl

/-- What is read of a piece with known parts. -/
theorem PartsOf.read_eq_ok_iff (parts : PartsOf piece apid ctid) {rule : FilterRule} :
    FilterRule.read piece = .ok rule ↔
      FilterRule.readId apid = .ok rule.apid ∧
        match ctid with
        | none => rule.ctid = none
        | some ctid => FilterRule.readId ctid = .ok rule.ctid := by
  rcases rule with ⟨ruleApid, ruleCtid⟩
  cases parts with
  | alone noColon =>
      rw [FilterRule.read_of_alone noColon]
      cases FilterRule.readId piece <;> simp [Except.map, eq_comm]
  | @pair _ context noColon =>
      rw [FilterRule.read_of_pair noColon]
      cases FilterRule.readId apid with
      | error fault => simp [bind, Except.bind]
      | ok first =>
          cases second : FilterRule.readId context <;>
            simp [bind, Except.bind, Except.map, second]

/-- A piece can be read exactly if it is well formed. -/
theorem exists_read_iff (piece : List Char) :
    (∃ rule, FilterRule.read piece = .ok rule) ↔ IsRule piece := by
  constructor
  · rintro ⟨rule, read⟩
    rcases exists_partsOf piece with ⟨apid, ctid, parts⟩
    have readParts := parts.read_eq_ok_iff.mp read
    refine ⟨apid, ctid, parts, (FilterRule.readId_eq_ok_iff.mp readParts.1).1, ?_⟩
    rintro part ⟨⟩
    exact (FilterRule.readId_eq_ok_iff.mp readParts.2).1
  · rintro ⟨apid, ctid, parts, isApid, isCtid⟩
    cases ctid with
    | none =>
        exact ⟨⟨_, none⟩,
          parts.read_eq_ok_iff.mpr ⟨FilterRule.readId_eq_ok_iff.mpr ⟨isApid, rfl⟩, rfl⟩⟩
    | some ctid =>
        exact ⟨⟨_, _⟩, parts.read_eq_ok_iff.mpr
          ⟨FilterRule.readId_eq_ok_iff.mpr ⟨isApid, rfl⟩,
            FilterRule.readId_eq_ok_iff.mpr ⟨isCtid ctid rfl, rfl⟩⟩⟩

/-- A rule as read allows the frames that its piece covers. -/
theorem allows_of_read {rule : FilterRule} (read : FilterRule.read piece = .ok rule)
    (frame : Frame) : rule.allows frame = true ↔ Covers piece frame := by
  rcases exists_partsOf piece with ⟨apid, ctid, parts⟩
  have readParts := parts.read_eq_ok_iff.mp read
  rw [FilterRule.allows, Bool.and_eq_true, FilterRule.all_of_readId readParts.1,
    parts.covers_iff]
  cases ctid with
  | none => simp [readParts.2]
  | some ctid => simp [FilterRule.all_of_readId readParts.2]

end Pieces

/-! ## Texts -/

/-- The pieces of a filter: one of them is not blank, and all that are not are well formed. -/
def AreRules (pieces : List (List Char)) : Prop :=
  (∃ piece ∈ pieces, ¬IsBlank piece) ∧ ∀ piece ∈ pieces, ¬IsBlank piece → IsRule piece

/-- A frame passes pieces if it has an extended header and some piece, not a blank one, covers
it. -/
def Passes (pieces : List (List Char)) (frame : Frame) : Prop :=
  frame.extended.isSome = true ∧ ∃ piece ∈ pieces, ¬IsBlank piece ∧ Covers piece frame

namespace Filter

/-- The pieces of a text that are not blank. -/
def written (text : String) : List (List Char) :=
  (pieces ',' text.toList).filter (!isBlankPiece ·)

theorem mem_written {text : String} {piece : List Char} :
    piece ∈ written text ↔ piece ∈ text.toList.splitOn ',' ∧ ¬IsBlank piece := by
  have blank : isBlankPiece piece = true ↔ IsBlank piece := by
    rw [isBlankPiece, List.isEmpty_iff, trimChars_eq_nil_iff]
  rw [written, List.mem_filter, pieces_eq_splitOn, ← blank, Bool.not_eq_true', Bool.not_eq_true]

/-- Pieces are read one by one. -/
theorem mapM_read_eq_ok_iff {pieces : List (List Char)} {rules : List FilterRule} :
    pieces.mapM FilterRule.read = .ok rules ↔
      List.Forall₂ (fun piece rule => FilterRule.read piece = .ok rule) pieces rules := by
  induction pieces generalizing rules with
  | nil => simp [pure, Except.pure, eq_comm]
  | cons piece pieces ih =>
      rw [List.mapM_cons, List.forall₂_cons_left_iff]
      cases read : FilterRule.read piece with
      | error fault => simp [bind, Except.bind]
      | ok rule =>
          cases others : pieces.mapM FilterRule.read with
          | error fault => simp [bind, Except.bind, ← ih, others]
          | ok later =>
              constructor
              · rintro ⟨⟩
                exact ⟨rule, later, rfl, ih.mp others, rfl⟩
              · rintro ⟨_, _, ⟨⟩, readOthers, rfl⟩
                cases others.symm.trans (ih.mpr readOthers)
                rfl

theorem read_eq_ok_iff {text : String} {filter : Filter} :
    read text = .ok filter ↔
      filter.rules ≠ [] ∧
        List.Forall₂ (fun piece rule => FilterRule.read piece = .ok rule) (written text)
          filter.rules := by
  rcases filter with ⟨rules⟩
  rw [read, ← written, ← mapM_read_eq_ok_iff]
  cases (written text).mapM FilterRule.read with
  | error fault => simp [bind, Except.bind]
  | ok found =>
      cases found with
      | nil => simp [bind, Except.bind, eq_comm]
      | cons rule others =>
          constructor
          · rintro ⟨⟩
            exact ⟨List.cons_ne_nil _ _, rfl⟩
          · rintro ⟨-, ⟨⟩⟩
            rfl

/-- Pieces can be read exactly if each of them can. -/
theorem exists_forall₂_read_iff (pieces : List (List Char)) :
    (∃ rules, List.Forall₂ (fun piece rule => FilterRule.read piece = .ok rule) pieces rules) ↔
      ∀ piece ∈ pieces, IsRule piece := by
  simp only [← exists_read_iff]
  induction pieces with
  | nil => simp
  | cons piece pieces ih =>
      rw [List.forall_mem_cons, ← ih]
      constructor
      · rintro ⟨_, _ | ⟨readFirst, readOthers⟩⟩
        exact ⟨⟨_, readFirst⟩, _, readOthers⟩
      · rintro ⟨⟨rule, readFirst⟩, rules, readOthers⟩
        exact ⟨rule :: rules, .cons readFirst readOthers⟩

/-- A text is a filter exactly if its pieces are rules. -/
theorem exists_read_iff_areRules (text : String) :
    (∃ filter, read text = .ok filter) ↔ AreRules (text.toList.splitOn ',') := by
  have someWritten : written text ≠ [] ↔ ∃ piece ∈ text.toList.splitOn ',', ¬IsBlank piece := by
    simp only [← List.length_pos_iff, List.length_pos_iff_exists_mem, mem_written]
  have allRules : (∀ piece ∈ written text, IsRule piece) ↔
      ∀ piece ∈ text.toList.splitOn ',', ¬IsBlank piece → IsRule piece := by
    simp only [mem_written, and_imp]
  rw [AreRules, ← someWritten, ← allRules, ← exists_forall₂_read_iff]
  constructor
  · rintro ⟨filter, accepted⟩
    rcases read_eq_ok_iff.mp accepted with ⟨nonempty, readAll⟩
    refine ⟨?_, filter.rules, readAll⟩
    intro nothing
    rw [nothing] at readAll
    exact nonempty (List.forall₂_nil_left_iff.mp readAll)
  · rintro ⟨nonempty, rules, readAll⟩
    refine ⟨⟨rules⟩, read_eq_ok_iff.mpr ⟨?_, readAll⟩⟩
    rintro rfl
    exact nonempty (List.forall₂_nil_right_iff.mp readAll)

/-- Rules as read allow the frames that one of their pieces covers. -/
theorem exists_allows_iff {pieces : List (List Char)} {rules : List FilterRule}
    (readAll : List.Forall₂ (fun piece rule => FilterRule.read piece = .ok rule) pieces rules)
    (frame : Frame) :
    (∃ rule ∈ rules, rule.allows frame = true) ↔ ∃ piece ∈ pieces, Covers piece frame := by
  induction readAll with
  | nil => simp
  | cons readFirst _ ih => simp only [List.exists_mem_cons_iff, allows_of_read readFirst, ih]

/-- A filter lets pass the frames that pass its pieces. -/
theorem allows_iff_passes {text : String} {filter : Filter} (accepted : read text = .ok filter)
    (frame : Frame) :
    filter.allows frame = true ↔ Passes (text.toList.splitOn ',') frame := by
  rw [allows, Bool.and_eq_true, List.any_eq_true, Passes,
    exists_allows_iff (read_eq_ok_iff.mp accepted).2]
  simp only [mem_written, and_assoc]

end Filter

/-! ## Other words -/

/-- A part with blanks around it. -/
def Spaced (part spaced : List Char) : Prop :=
  ∃ front back, IsBlank front ∧ IsBlank back ∧ spaced = front ++ part ++ back

/-- A piece with blanks around its parts. -/
inductive SpacedParts : List Char → List Char → Prop where
  | alone {apid spacedApid : List Char} (noColon : ':' ∉ apid)
      (apidSpaced : Spaced apid spacedApid) : SpacedParts apid spacedApid
  | pair {apid spacedApid ctid spacedCtid : List Char} (noColon : ':' ∉ apid)
      (apidSpaced : Spaced apid spacedApid) (ctidSpaced : Spaced ctid spacedCtid) :
      SpacedParts (apid ++ ':' :: ctid) (spacedApid ++ ':' :: spacedCtid)

/-- Pieces put in other words. -/
inductive Reworded : List (List Char) → List (List Char) → Prop where
  | reordered {pieces others : List (List Char)} (order : pieces.Perm others) :
      Reworded pieces others
  | repeated {piece : List Char} {pieces : List (List Char)} (mem : piece ∈ pieces) :
      Reworded pieces (piece :: pieces)
  | blank {piece : List Char} (pieces : List (List Char)) (blank : IsBlank piece) :
      Reworded pieces (piece :: pieces)
  | spaced {piece other : List Char} (pieces : List (List Char))
      (spaced : SpacedParts piece other) : Reworded (piece :: pieces) (other :: pieces)
  | symm {pieces others : List (List Char)} (reworded : Reworded pieces others) :
      Reworded others pieces
  | trans {pieces others further : List (List Char)} (first : Reworded pieces others)
      (next : Reworded others further) : Reworded pieces further

section Words

variable {part spaced piece other : List Char} {pieces others : List (List Char)}

theorem isBlank_noColon {text : List Char} (blank : IsBlank text) : ':' ∉ text := by
  intro colon
  exact absurd (blank ':' colon) (by decide)

namespace Spaced

theorem partText_eq (isSpaced : Spaced part spaced) : partText spaced = partText part := by
  rcases isSpaced with ⟨front, back, frontBlank, backBlank, rfl⟩
  rw [partText, partText, trimChars_append_of_isBlank frontBlank backBlank]

theorem isPart_iff (isSpaced : Spaced part spaced) : IsPart spaced ↔ IsPart part := by
  rw [IsPart, IsPart, isSpaced.partText_eq]

theorem standsFor_iff (isSpaced : Spaced part spaced) (id : String) :
    StandsFor spaced id ↔ StandsFor part id := by
  rw [StandsFor, StandsFor, isSpaced.partText_eq]

theorem isBlank_iff (isSpaced : Spaced part spaced) : IsBlank spaced ↔ IsBlank part := by
  rcases isSpaced with ⟨front, back, frontBlank, backBlank, rfl⟩
  simp [isBlank_append_iff, frontBlank, backBlank]

theorem noColon (isSpaced : Spaced part spaced) (noColon : ':' ∉ part) : ':' ∉ spaced := by
  rcases isSpaced with ⟨front, back, frontBlank, backBlank, rfl⟩
  simp [noColon, isBlank_noColon frontBlank, isBlank_noColon backBlank]

end Spaced

namespace SpacedParts

theorem isBlank_iff (isSpaced : SpacedParts piece other) : IsBlank other ↔ IsBlank piece := by
  cases isSpaced with
  | alone _ apidSpaced => exact apidSpaced.isBlank_iff
  | pair =>
      -- The colon between the parts is no blank.
      constructor <;> exact fun blank => absurd (by simp) (isBlank_noColon blank)

theorem isRule_iff (isSpaced : SpacedParts piece other) : IsRule other ↔ IsRule piece := by
  cases isSpaced with
  | alone noColon apidSpaced =>
      rw [(PartsOf.alone noColon).isRule_iff,
        (PartsOf.alone (apidSpaced.noColon noColon)).isRule_iff, apidSpaced.isPart_iff]
  | pair noColon apidSpaced ctidSpaced =>
      rw [(PartsOf.pair noColon).isRule_iff,
        (PartsOf.pair (apidSpaced.noColon noColon)).isRule_iff, apidSpaced.isPart_iff]
      simp [ctidSpaced.isPart_iff]

theorem covers_iff (isSpaced : SpacedParts piece other) (frame : Frame) :
    Covers other frame ↔ Covers piece frame := by
  cases isSpaced with
  | alone noColon apidSpaced =>
      rw [(PartsOf.alone noColon).covers_iff,
        (PartsOf.alone (apidSpaced.noColon noColon)).covers_iff, apidSpaced.standsFor_iff]
  | pair noColon apidSpaced ctidSpaced =>
      rw [(PartsOf.pair noColon).covers_iff,
        (PartsOf.pair (apidSpaced.noColon noColon)).covers_iff, apidSpaced.standsFor_iff]
      simp [ctidSpaced.standsFor_iff]

end SpacedParts

/-- In other words pieces are rules as before, and the same frames pass them. -/
theorem Reworded.same (reworded : Reworded pieces others) :
    (AreRules others ↔ AreRules pieces) ∧
      ∀ frame : Frame, Passes others frame ↔ Passes pieces frame := by
  induction reworded with
  | reordered order => simp only [AreRules, Passes, order.mem_iff, implies_true, and_self]
  | @repeated piece pieces mem =>
      have some_iff : ∀ {P : List Char → Prop},
          (∃ other ∈ piece :: pieces, P other) ↔ ∃ other ∈ pieces, P other := by
        intro P
        rw [List.exists_mem_cons_iff, or_iff_right_of_imp]
        exact fun holds => ⟨piece, mem, holds⟩
      have all_iff : ∀ {P : List Char → Prop},
          (∀ other ∈ piece :: pieces, P other) ↔ ∀ other ∈ pieces, P other := by
        intro P
        rw [List.forall_mem_cons, and_iff_right_of_imp]
        exact fun all => all piece mem
      simp only [AreRules, Passes, some_iff, all_iff, implies_true, and_self]
  | blank pieces blank => simp [AreRules, Passes, blank]
  | spaced pieces spaced =>
      simp [AreRules, Passes, spaced.isBlank_iff, spaced.isRule_iff, spaced.covers_iff]
  | symm _ ih => exact ⟨ih.1.symm, fun frame => (ih.2 frame).symm⟩
  | trans _ _ first next =>
      exact ⟨next.1.trans first.1, fun frame => (next.2 frame).trans (first.2 frame)⟩

end Words

namespace Filter

/-- A text is a filter exactly if one of its pieces is not blank and all that are not are one
part, or two parts with a colon between them.  The filter lets a frame pass exactly if it has an
extended header and the parts of some such piece stand for its identifiers.  In other words the
text is a filter too, which lets the same frames pass. -/
theorem read_by_grammar (text : String) :
    let pieces := text.toList.splitOn ','
    ((∃ filter, read text = .ok filter) ↔ AreRules pieces) ∧
      ∀ filter, read text = .ok filter →
        (∀ frame : Frame, filter.allows frame = true ↔ Passes pieces frame) ∧
        ∀ other : String, Reworded pieces (other.toList.splitOn ',') →
          ∃ same, read other = .ok same ∧
            ∀ frame : Frame, same.allows frame = filter.allows frame := by
  intro pieces
  refine ⟨exists_read_iff_areRules text, ?_⟩
  intro filter accepted
  refine ⟨allows_iff_passes accepted, ?_⟩
  intro other reworded
  have areRules : AreRules pieces := (exists_read_iff_areRules text).mp ⟨filter, accepted⟩
  rcases (exists_read_iff_areRules other).mpr (reworded.same.1.mpr areRules) with
    ⟨same, otherAccepted⟩
  refine ⟨same, otherAccepted, ?_⟩
  intro frame
  rw [Bool.eq_iff_iff, allows_iff_passes otherAccepted, allows_iff_passes accepted]
  exact reworded.same.2 frame

theorem read_by_grammar_spaced :
    let pieces := "APP1,*:LOG".toList.splitOn ','
    let others := " *: LOG,,APP1,APP1".toList.splitOn ','
    read "APP1,*:LOG" = .ok ⟨[⟨some "APP1", none⟩, ⟨none, some "LOG"⟩]⟩ ∧
      Reworded pieces others ∧
      ∃ same, read " *: LOG,,APP1,APP1" = .ok same ∧
        ∀ frame : Frame,
          same.allows frame = allows ⟨[⟨some "APP1", none⟩, ⟨none, some "LOG"⟩]⟩ frame := by
  intro pieces others
  let app := ['A', 'P', 'P', '1']
  let log := ['L', 'O', 'G']
  have accepted : read "APP1,*:LOG" = .ok ⟨[⟨some "APP1", none⟩, ⟨none, some "LOG"⟩]⟩ := by decide
  have spaced : SpacedParts (['*'] ++ ':' :: log) ([' ', '*'] ++ ':' :: (' ' :: log)) :=
    .pair (by decide) ⟨[' '], [], by decide, by decide, rfl⟩ ⟨[' '], [], by decide, by decide, rfl⟩
  have reworded : Reworded [app, ['*'] ++ ':' :: log]
      [[' ', '*'] ++ ':' :: (' ' :: log), [], app, app] := by
    have behind : Reworded [['*'] ++ ':' :: log, app]
        [[' ', '*'] ++ ':' :: (' ' :: log), app] := .spaced [app] spaced
    have twice : Reworded [[' ', '*'] ++ ':' :: (' ' :: log), app]
        [app, [' ', '*'] ++ ':' :: (' ' :: log), app] := .repeated (by decide)
    have withBlank : Reworded [app, [' ', '*'] ++ ':' :: (' ' :: log), app]
        [[], app, [' ', '*'] ++ ':' :: (' ' :: log), app] := .blank _ (by decide)
    exact .trans (.reordered (by decide)) <| behind.trans <| twice.trans <|
      withBlank.trans (.reordered (by decide))
  exact ⟨accepted, reworded,
    ((read_by_grammar "APP1,*:LOG").2 _ accepted).2 " *: LOG,,APP1,APP1" reworded⟩

end Filter

end Testbed.Trace
