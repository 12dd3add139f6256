import Testbed.Proofs.Text.Chunked
import Testbed.Text.Line

/-!
# Lines of a stream that arrives in chunks

This file supplies what the splitter of lines makes of a stream, whatever the chunks are that
it arrives in.  Its lines are those of the chunks' texts put together: what is held back is
text, so a line may be cut anywhere.  A character may not, since each chunk is decoded by
itself.
-/

namespace Testbed.Text

/-! ## Lines of a text -/

/-- A text is cut behind each line feed, and what stands behind the last one is a line if
there is anything. -/
inductive LinesOf : List Char → List (List Char) → Prop where
  | nothing : LinesOf [] []
  | unfinished {text : List Char} (nonempty : text ≠ []) (noFeed : '\n' ∉ text) :
      LinesOf text [text]
  | line {body rest : List Char} {lines : List (List Char)} (noFeed : '\n' ∉ body)
      (others : LinesOf rest lines) :
      LinesOf (body ++ '\n' :: rest) ((body ++ ['\n']) :: lines)

/-- The lines of a text, put together, are the text. -/
theorem LinesOf.flatten_eq {text : List Char} {lines : List (List Char)}
    (cut : LinesOf text lines) : lines.flatten = text := by
  induction cut with
  | nothing => rfl
  | unfinished => exact List.flatten_singleton
  | line _ _ inductionHypothesis =>
      rw [List.flatten_cons, inductionHypothesis, List.append_assoc, List.singleton_append]

namespace LineSplitter

theorem cut_feed (rest : List Char) :
    cut ('\n' :: rest) = (['\n'] :: (cut rest).1, (cut rest).2) :=
  rfl

theorem cut_cons {char : Char} (notFeed : char ≠ '\n') (rest : List Char) :
    cut (char :: rest) =
      match (cut rest).1 with
      | [] => ([], char :: (cut rest).2)
      | line :: others => ((char :: line) :: others, (cut rest).2) :=
  if_neg notFeed

/-- What is cut off stays cut off, whatever more arrives. -/
theorem cut_append (first more : List Char) :
    cut (first ++ more) =
      ((cut first).1 ++ (cut ((cut first).2 ++ more)).1, (cut ((cut first).2 ++ more)).2) := by
  induction first with
  | nil => rfl
  | cons char rest inductionHypothesis =>
      by_cases feed : char = '\n'
      · subst feed
        rw [List.cons_append, cut_feed, cut_feed, inductionHypothesis, List.cons_append]
      · rw [List.cons_append, cut_cons feed, cut_cons feed, inductionHypothesis]
        cases (cut rest).1 with
        | nil =>
            rw [List.nil_append, List.nil_append, List.cons_append, cut_cons feed]
        | cons line others => rfl

theorem cut_of_not_mem {text : List Char} (noFeed : '\n' ∉ text) : cut text = ([], text) := by
  induction text with
  | nil => rfl
  | cons char rest inductionHypothesis =>
      rw [List.mem_cons, not_or] at noFeed
      rw [cut_cons (Ne.symm noFeed.1), inductionHypothesis noFeed.2]

theorem not_mem_cut (text : List Char) : '\n' ∉ (cut text).2 := by
  induction text with
  | nil => simp [cut]
  | cons char rest inductionHypothesis =>
      by_cases feed : char = '\n'
      · subst feed
        exact inductionHypothesis
      · rw [cut_cons feed]
        cases (cut rest).1 with
        | nil => simp [Ne.symm feed, inductionHypothesis]
        | cons line others => exact inductionHypothesis

/-- The lines that a text is cut into, the unfinished one last. -/
def linesIn (text : List Char) : List (List Char) :=
  (cut text).1 ++ if (cut text).2.isEmpty then [] else [(cut text).2]

theorem linesIn_of_not_mem {text : List Char} (nonempty : text ≠ []) (noFeed : '\n' ∉ text) :
    linesIn text = [text] := by
  simp [linesIn, cut_of_not_mem noFeed, nonempty]

theorem linesIn_line {body : List Char} (noFeed : '\n' ∉ body) (rest : List Char) :
    linesIn (body ++ '\n' :: rest) = (body ++ ['\n']) :: linesIn rest := by
  have first : cut (body ++ '\n' :: rest) = ((body ++ ['\n']) :: (cut rest).1, (cut rest).2) := by
    induction body with
    | nil => rfl
    | cons char body inductionHypothesis =>
        rw [List.mem_cons, not_or] at noFeed
        rw [List.cons_append, cut_cons (Ne.symm noFeed.1), inductionHypothesis noFeed.2]
        rfl
  rw [linesIn, first, linesIn, List.cons_append]

theorem linesOf_linesIn (text : List Char) : LinesOf text (linesIn text) := by
  by_cases feed : '\n' ∈ text
  · rcases List.eq_append_cons_of_mem feed with ⟨body, rest, rfl, noFeed⟩
    rw [linesIn_line noFeed]
    exact .line noFeed (linesOf_linesIn rest)
  · cases text with
    | nil => exact .nothing
    | cons char rest =>
        rw [linesIn_of_not_mem (List.cons_ne_nil char rest) feed]
        exact .unfinished (List.cons_ne_nil char rest) feed
termination_by text.length

/-- A text has one list of lines, and the splitter finds it. -/
theorem linesOf_iff (text : List Char) (lines : List (List Char)) :
    LinesOf text lines ↔ lines = linesIn text := by
  constructor
  · intro linesOf
    induction linesOf with
    | nothing => rfl
    | unfinished nonempty noFeed => exact (linesIn_of_not_mem nonempty noFeed).symm
    | line noFeed others inductionHypothesis => rw [linesIn_line noFeed, inductionHypothesis]
  · rintro rfl
    exact linesOf_linesIn text

/-! ## Lines of a stream -/

/-- The text of chunks that are decoded each by itself. -/
def textOf (chunks : List Octets) : List Char :=
  chunks.flatMap (Utf8.decodeFrom none)

theorem textOf_cons (chunk : Octets) (chunks : List Octets) :
    textOf (chunk :: chunks) = Utf8.decodeFrom none chunk ++ textOf chunks :=
  List.flatMap_cons

theorem push_eq (held : List Char) (chunk : Octets) :
    push ⟨held⟩ chunk =
      ((cut (held ++ Utf8.decodeFrom none chunk)).1.map String.ofList,
        ⟨(cut (held ++ Utf8.decodeFrom none chunk)).2⟩) := by
  rw [push, Utf8.decode, String.toList_ofList]

/-- Lines are completed as if the text had arrived in one piece. -/
theorem foldl_push (chunks : List Octets) (complete : List String) {held : List Char}
    (noFeed : '\n' ∉ held) :
    chunks.foldl
        (fun (lines, splitter) chunk =>
          let (more, splitter) := push splitter chunk
          (lines ++ more, splitter))
        (complete, ⟨held⟩) =
      (complete ++ (cut (held ++ textOf chunks)).1.map String.ofList,
        ⟨(cut (held ++ textOf chunks)).2⟩) := by
  induction chunks generalizing complete held with
  | nil =>
      rw [textOf, List.flatMap_nil, List.append_nil, cut_of_not_mem noFeed]
      simp
  | cons chunk chunks inductionHypothesis =>
      rw [List.foldl_cons]
      dsimp only
      rw [push_eq]
      dsimp only
      rw [inductionHypothesis _ (not_mem_cut _), textOf_cons, ← List.append_assoc held,
        cut_append (held ++ Utf8.decodeFrom none chunk), List.map_append, List.append_assoc]

/-- The lines of a stream are those of the texts of its chunks. -/
theorem map_toList_lines (chunks : List Octets) :
    (lines chunks).map String.toList = linesIn (textOf chunks) := by
  have restored : String.toList ∘ String.ofList = id := by
    funext text
    exact String.toList_ofList
  have arrived := foldl_push chunks [] (List.not_mem_nil : '\n' ∉ [])
  rw [List.nil_append, List.nil_append] at arrived
  rw [lines, arrived, List.map_append, List.map_map, restored, List.map_id, linesIn, finish?]
  dsimp only
  split <;> simp

theorem lines_eq_iff (chunks others : List Octets) :
    lines chunks = lines others ↔ textOf chunks = textOf others := by
  constructor
  · intro same
    have cut : linesIn (textOf chunks) = linesIn (textOf others) := by
      rw [← map_toList_lines, ← map_toList_lines, same]
    rw [← (linesOf_linesIn (textOf chunks)).flatten_eq, cut,
      (linesOf_linesIn (textOf others)).flatten_eq]
  · intro same
    apply (List.map_inj_right fun _ _ => String.toList_inj.mp).mp
    rw [map_toList_lines, map_toList_lines, same]

/-- Chunks may be put together if their texts may. -/
theorem lines_eq_flatten_iff (chunks : List Octets) :
    lines chunks = lines [chunks.flatten] ↔
      chunks.flatMap (Utf8.decodeFrom none) = Utf8.decodeFrom none chunks.flatten := by
  rw [lines_eq_iff, textOf, textOf, List.flatMap_singleton]

/-- Chunks of whole characters have the lines of their text. -/
theorem lines_map_encode (texts : List String) :
    lines (texts.map Utf8.encode) = lines [(texts.map Utf8.encode).flatten] := by
  rw [lines_eq_flatten_iff, Utf8.flatMap_decodeFrom_eq_iff]
  intro chunk behind suffix
  rcases List.mem_map.mp (suffix.mem List.mem_cons_self) with ⟨text, -, rfl⟩
  exact Utf8.not_severs_encode text behind.flatten

/-- A stream that arrives in chunks has the lines that it has as a whole, which are those of
its text, exactly if no chunk ends inside a character that the octets behind it go on with. -/
theorem lines_independent_iff (chunks : List Octets) :
    let whole := chunks.flatten
    LinesOf (Utf8.decode whole).toList ((lines [whole]).map String.toList) ∧
      (lines chunks = lines [whole] ↔
        ∀ chunk behind, chunk :: behind <:+ chunks → ¬ Utf8.Severs chunk behind.flatten) := by
  intro whole
  constructor
  · rw [map_toList_lines, textOf, List.flatMap_singleton, Utf8.decode, String.toList_ofList]
    exact linesOf_linesIn _
  · rw [lines_eq_flatten_iff]
    exact Utf8.flatMap_decodeFrom_eq_iff chunks

/-- A character of two octets that arrives in two chunks. -/
theorem lines_severed :
    lines [[0xC3], [0xA9]] = ["\uFFFD\uFFFD"] ∧ lines [[0xC3, 0xA9]] = ["\u00E9"] := by
  decide

end LineSplitter

end Testbed.Text
