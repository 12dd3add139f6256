import Mathlib.Data.List.Forall2
import Testbed.Proofs.Shell.Quote
import Testbed.Shell

/-!
# Lines of words as scripts

This file supplies how the shell of the host reads a line that does nothing but name words: it
finds these words and no other signs, and each of them expands to itself, wherever it runs.  So
quoting is undone by the shell, in lines of quoted texts and in the command that is handed to a
remote shell.
-/

namespace Testbed.Shell

/-! ## Words that stand for themselves -/

/-- A word is put together from texts, whose characters are given. -/
inductive Spells : Word → List Char → Prop
  | nil : Spells [] []
  | add {word : Word} {chars : List Char} (spells : Spells word chars) (more : List Char)
      (quoted : Bool) : Spells (word ++ [⟨.text more, quoted⟩]) (chars ++ more)

theorem pushChar_ne_nil (word : Word) (char : Char) (quoted : Bool) :
    pushChar word char quoted ≠ [] := by
  unfold pushChar
  split
  · split <;> simp
  · simp

theorem Spells.pushChar {word : Word} {chars : List Char} (spells : Spells word chars)
    (char : Char) (quoted : Bool) : Spells (pushChar word char quoted) (chars ++ [char]) := by
  cases spells with
  | nil => exact .add .nil [char] quoted
  | @add word chars spells more other =>
      by_cases same : other = quoted
      · -- The character joins the last part.
        have joined : Shell.pushChar (word ++ [⟨.text more, other⟩]) char quoted =
            word ++ [⟨.text (more ++ [char]), quoted⟩] := by
          simp [Shell.pushChar, same]
        rw [joined, List.append_assoc]
        exact .add spells (more ++ [char]) quoted
      · have apart : Shell.pushChar (word ++ [⟨.text more, other⟩]) char quoted =
            (word ++ [⟨.text more, other⟩]) ++ [⟨.text [char], quoted⟩] := by
          simp [Shell.pushChar, same]
        rw [apart]
        exact .add (.add spells more other) [char] quoted

theorem foldl_of_spells {word : Word} {chars : List Char} (spells : Spells word chars)
    {step : List String × Option String → WordPart → List String × Option String}
    (joins : ∀ done current more quoted, step (done, current) ⟨.text more, quoted⟩ =
      (done, some (current.getD "" ++ String.ofList more))) :
    word.foldl step ([], none) =
      ([], if word = [] then none else some (String.ofList chars)) := by
  induction spells with
  | nil => rfl
  | @add word chars spells more quoted ih =>
      rw [List.foldl_append, ih, List.foldl_cons, List.foldl_nil, joins, String.ofList_append]
      by_cases first : word = []
      · cases spells with
        | nil => simp
        | add => simp at first
      · simp [first]

/-- A word of texts is a single field, which is cut nowhere. -/
theorem fields_of_spells {word : Word} {chars : List Char} (spells : Spells word chars)
    (begun : word ≠ []) (run : Run) : run.fields word = [String.ofList chars] := by
  unfold Run.fields
  rw [foldl_of_spells spells, if_neg begun]
  · rfl
  · intros
    rfl

/-! ## Reading words -/

/-- A character of a word outside quotes that stands for itself. -/
structure IsPlain (char : Char) : Prop where
  not_gap : ¬ isGap char = true
  not_quote : char ≠ '\''
  not_backslash : char ≠ '\\'
  not_sign : ¬ isSign char = true

theorem IsPlain.ne_of_isSign {char sign : Char} (plain : IsPlain char)
    (means : isSign sign = true) : char ≠ sign := by
  rintro rfl
  exact plain.not_sign means

/-- How a word goes on that some line is in and that is not over. -/
inductive GoesOn (word : List Char) (words : List (List Char)) : Char → List Char → Prop
  | quotes {rest : List Char} (split : wordsFrom? (.single word) rest = some words) :
      GoesOn word words '\'' rest
  | escape {next : Char} {rest : List Char} (kept : next ≠ '\n')
      (split : wordsFrom? (.inside (word ++ [next])) rest = some words) :
      GoesOn word words '\\' (next :: rest)
  | plain {char : Char} {rest : List Char} (plain : IsPlain char)
      (split : wordsFrom? (.inside (word ++ [char])) rest = some words) :
      GoesOn word words char rest

theorem goesOn_of_wordsFrom? {word rest : List Char} {char : Char} {words : List (List Char)}
    (not_gap : ¬ isGap char = true)
    (split : wordsFrom? (.inside word) (char :: rest) = some words) :
    GoesOn word words char rest := by
  rw [wordsFrom?, if_neg not_gap, takeUnquoted?] at split
  by_cases quote : char = '\''
  · rw [if_pos quote, Option.bind_some] at split
    exact quote ▸ .quotes split
  · by_cases backslash : char = '\\'
    · rw [if_neg quote, if_pos backslash, Option.bind_some] at split
      cases rest with
      | nil => cases split
      | cons next rest =>
          rw [wordsFrom?, Option.ite_none_left_eq_some] at split
          exact backslash ▸ .escape split.1 split.2
    · rw [if_neg quote, if_neg backslash, Option.bind_eq_some_iff] at split
      rcases split with ⟨reading, taken, split⟩
      rw [Option.ite_none_left_eq_some] at taken
      rcases taken with ⟨sign, taken⟩
      cases taken
      exact .plain ⟨not_gap, quote, backslash, sign⟩ split

theorem isGap_iff {char : Char} : isGap char = true ↔ char = ' ' ∨ char = '\t' := by
  simp [isGap]

theorem endsWord_of_isGap {char : Char} (gap : isGap char = true) : endsWord char = true := by
  rcases isGap_iff.mp gap with rfl | rfl
  · rfl
  · rfl

/-- What ends a word for the reader of scripts is a blank or a sign. -/
theorem isGap_or_isSign_of_endsWord {char : Char} (ends : endsWord char = true) :
    isGap char = true ∨ isSign char = true := by
  have all : ([' ', '\t', '\n', ';', '&', '|', '<', '>', '(', ')'].all fun other =>
      isGap other || isSign other) = true := by
    decide
  have this_one := List.all_eq_true.mp all char (List.contains_iff_mem.mp ends)
  rwa [Bool.or_eq_true] at this_one

theorem IsPlain.not_endsWord {char : Char} (plain : IsPlain char) : ¬ endsWord char = true := by
  intro ends
  rcases isGap_or_isSign_of_endsWord ends with gap | sign
  · exact plain.not_gap gap
  · exact plain.not_sign sign

/-- The reader of scripts is within a word of a line and still has to find some words. -/
inductive InWord : Quotes → Word → List Char → List (List Char) → Prop
  | outside {before : Word} {spelled chars : List Char} {words : List (List Char)}
      (spells : Spells before spelled) (begun : before ≠ [])
      (split : wordsFrom? (.inside spelled) chars = some words) :
      InWord .outside before chars words
  | single {before : Word} {spelled chars : List Char} {words : List (List Char)}
      (spells : Spells before spelled) (begun : before ≠ [])
      (split : wordsFrom? (.single spelled) chars = some words) :
      InWord .single before chars words

section Words

variable {before : Word} {fuel : Nat} {spelled chars : List Char} {words : List (List Char)}

/-- A character that is no blank leads the reader on within the word. -/
theorem exists_step_outside {char : Char} {rest : List Char} (not_gap : ¬ isGap char = true)
    (spells : Spells before spelled)
    (split : wordsFrom? (.inside spelled) (char :: rest) = some words) :
    ∃ quotes after left, left.length ≤ rest.length ∧ InWord quotes after left words ∧
      ∀ fuel, readWord? .outside before (fuel + 1) (char :: rest) =
        readWord? quotes after fuel left := by
  cases goesOn_of_wordsFrom? not_gap split with
  | quotes onward =>
      have opened := Spells.add spells [] true
      rw [List.append_nil] at opened
      refine ⟨.single, _, rest, Nat.le_refl _, .single opened (by simp) onward, ?_⟩
      intro fuel
      simp [readWord?, endsWord]
  | @escape next more kept onward =>
      have pushed := spells.pushChar next true
      refine ⟨.outside, _, more, Nat.le_succ _,
        .outside pushed (pushChar_ne_nil _ _ _) onward, ?_⟩
      intro fuel
      simp [readWord?, endsWord, kept]
  | plain plain onward =>
      have pushed := spells.pushChar char false
      refine ⟨.outside, _, rest, Nat.le_refl _,
        .outside pushed (pushChar_ne_nil _ _ _) onward, ?_⟩
      intro fuel
      have not_double : char ≠ '"' := plain.ne_of_isSign rfl
      have not_dollar : char ≠ '$' := plain.ne_of_isSign rfl
      simp [readWord?, plain.not_endsWord, plain.not_quote, not_double, not_dollar,
        plain.not_backslash]

/-- Any character leads the reader on within quotes, which do not end with the line. -/
theorem exists_step_single (spells : Spells before spelled) (begun : before ≠ [])
    (split : wordsFrom? (.single spelled) chars = some words) :
    ∃ quotes after left, left.length < chars.length ∧ InWord quotes after left words ∧
      ∀ fuel, readWord? .single before (fuel + 1) chars = readWord? quotes after fuel left := by
  cases chars with
  | nil => cases split
  | cons char rest =>
      rw [wordsFrom?] at split
      by_cases quote : char = '\''
      · rw [if_pos quote] at split
        refine ⟨.outside, before, rest, Nat.lt_succ_self _, .outside spells begun split, ?_⟩
        intro fuel
        rw [readWord?, if_pos quote]
      · rw [if_neg quote] at split
        have pushed := spells.pushChar char true
        refine ⟨.single, _, rest, Nat.lt_succ_self _,
          .single pushed (pushChar_ne_nil _ _ _) split, ?_⟩
        intro fuel
        rw [readWord?, if_neg quote]

/-- The reader of scripts finds the first of some words, and stops where the others begin. -/
def Finds (quotes : Quotes) (before : Word) (fuel : Nat) (chars : List Char)
    (words : List (List Char)) : Prop :=
  ∃ read rest word others, readWord? quotes before fuel chars = some (read, rest) ∧
    words = word :: others ∧ (Spells read word ∧ read ≠ []) ∧
      rest.length ≤ chars.length ∧ wordsFrom? .between rest = some others

theorem Finds.of_step {quotes next : Quotes} {after : Word} {left : List Char}
    (found : Finds next after fuel left words) (shorter : left.length ≤ chars.length)
    (step : readWord? quotes before (fuel + 1) chars = readWord? next after fuel left) :
    Finds quotes before (fuel + 1) chars words := by
  rcases found with ⟨read, rest, word, others, reads, first, spells, within, split⟩
  exact ⟨read, rest, word, others, step.trans reads, first, spells,
    Nat.le_trans within shorter, split⟩

theorem finds_of_inWord {quotes : Quotes} (enough : chars.length < fuel)
    (inWord : InWord quotes before chars words) : Finds quotes before fuel chars words := by
  induction fuel generalizing quotes before chars with
  | zero => cases enough
  | succ fuel ih =>
      cases inWord with
      | single spells begun split =>
          rcases exists_step_single spells begun split with
            ⟨next, after, left, shorter, inWord, step⟩
          have found := ih (Nat.lt_of_lt_of_le shorter (Nat.le_of_lt_succ enough)) inWord
          exact found.of_step (Nat.le_of_lt shorter) (step fuel)
      | @outside before spelled chars words spells begun split =>
          cases chars with
          | nil =>
              exact ⟨before, [], spelled, [], rfl, (Option.some.inj split).symm,
                ⟨spells, begun⟩, Nat.le_refl _, rfl⟩
          | cons char rest =>
              by_cases blank : isGap char = true
              · rw [wordsFrom?, if_pos blank, Option.map_eq_some_iff] at split
                rcases split with ⟨others, onward, rfl⟩
                have stops : readWord? .outside before (fuel + 1) (char :: rest) =
                    some (before, char :: rest) := by
                  simp [readWord?, endsWord_of_isGap blank]
                refine ⟨before, char :: rest, spelled, others, stops, rfl, ⟨spells, begun⟩,
                  Nat.le_refl _, ?_⟩
                rw [wordsFrom?, if_pos blank, onward]
              · rcases exists_step_outside blank spells split with
                  ⟨next, after, left, shorter, inWord, step⟩
                have found := ih (Nat.lt_of_le_of_lt shorter (Nat.lt_of_succ_lt_succ enough)) inWord
                exact found.of_step (Nat.le_succ_of_le shorter) (step fuel)

end Words

/-! ## Reading lines -/

/-- Where no blank stands, a word of a line begins. -/
theorem wordsFrom?_between_of_not_gap {char : Char} (not_gap : ¬ isGap char = true)
    (rest : List Char) :
    wordsFrom? .between (char :: rest) = wordsFrom? (.inside []) (char :: rest) := by
  rw [wordsFrom?, if_neg not_gap, wordsFrom?, if_neg not_gap]

/-- Where a word of a line begins, the reader of scripts takes a word. -/
theorem tokens?_of_word {char : Char} {rest left : List Char} {words : List (List Char)}
    {word : Word} (not_gap : ¬ isGap char = true)
    (split : wordsFrom? (.inside []) (char :: rest) = some words)
    (reads : readWord? .outside [] (rest.length + 2) (char :: rest) = some (word, left))
    (fuel : Nat) :
    tokens? (fuel + 1) (char :: rest) = (tokens? fuel left).map (.word word :: ·) := by
  cases goesOn_of_wordsFrom? not_gap split with
  | quotes => simp [tokens?, endsWord, reads]
  | escape =>
      rw [List.length_cons] at reads
      simp [tokens?, endsWord, reads]
  | plain plain onward =>
      have not_blank : ¬ (char = ' ' ∨ char = '\t') := isGap_iff.not.mp not_gap
      have not_stop : ¬ (char = ';' ∨ char = '\n') := by
        rintro (rfl | rfl)
        · exact plain.not_sign rfl
        · exact plain.not_sign rfl
      have not_comment : char ≠ '#' := plain.ne_of_isSign rfl
      have not_open : char ≠ '(' := plain.ne_of_isSign rfl
      have not_close : char ≠ ')' := plain.ne_of_isSign rfl
      have no_arrow : ∀ more, rest ≠ '>' :: more := by
        rintro more rfl
        simp [wordsFrom?, takeUnquoted?, isGap, isSign] at onward
      simp only [tokens?, if_neg not_blank, if_neg not_stop, if_neg not_comment,
        if_neg not_open, if_neg not_close]
      split
      · exact absurd rfl (plain.ne_of_isSign rfl)
      · exact absurd rfl (plain.ne_of_isSign rfl)
      · exact absurd rfl (plain.ne_of_isSign rfl)
      · exact absurd rfl (no_arrow _)
      · exact absurd rfl (no_arrow _)
      · exact absurd rfl (plain.ne_of_isSign rfl)
      · rw [if_neg plain.not_endsWord, reads]

/-- The reader of scripts finds the words of a line and nothing else. -/
theorem tokens?_of_wordsFrom? {fuel : Nat} {chars : List Char} {words : List (List Char)}
    (enough : chars.length < fuel) (split : wordsFrom? .between chars = some words) :
    ∃ read : List Word, tokens? fuel chars = some (read.map .word) ∧
      List.Forall₂ (fun word chars => Spells word chars ∧ word ≠ []) read words := by
  induction fuel generalizing chars words with
  | zero => cases enough
  | succ fuel ih =>
      cases chars with
      | nil =>
          cases split
          exact ⟨[], rfl, .nil⟩
      | cons char rest =>
          have shorter : rest.length < fuel := Nat.lt_of_succ_lt_succ enough
          by_cases gap : isGap char = true
          · rw [wordsFrom?, if_pos gap] at split
            rcases ih shorter split with ⟨read, tokens, spells⟩
            refine ⟨read, ?_, spells⟩
            simp only [tokens?, if_pos (isGap_iff.mp gap), tokens]
          · rw [wordsFrom?_between_of_not_gap gap] at split
            rcases exists_step_outside gap .nil split with
              ⟨quotes, after, left, shorter, inWord, step⟩
            rcases finds_of_inWord (Nat.lt_succ_of_le shorter) inWord with
              ⟨word, left, chars, others, reads, rfl, spells, within, onward⟩
            have taken := tokens?_of_word gap split ((step _).trans reads) fuel
            have still := Nat.lt_of_le_of_lt (Nat.le_trans within shorter)
              (Nat.lt_of_succ_lt_succ enough)
            rcases ih still onward with ⟨read, tokens, spell⟩
            refine ⟨word :: read, ?_, .cons spells spell⟩
            rw [taken, tokens]
            rfl

theorem map_fields_of_spells {read : List Word} {words : List (List Char)}
    (spell : List.Forall₂ (fun word chars => Spells word chars ∧ word ≠ []) read words)
    (run : Run) : read.map run.fields = words.map fun word => [String.ofList word] := by
  induction spell with
  | nil => rfl
  | cons first _ ih => rw [List.map_cons, List.map_cons, fields_of_spells first.1 first.2, ih]

/-- A line that only names words is read as these words, each of which expands to itself. -/
theorem exists_tokens?_of_words? {line : String} {texts : List String}
    (split : words? line = some texts) :
    ∃ read : List Word, tokens? (line.length + 1) line.toList = some (read.map .word) ∧
      ∀ run : Run, read.map run.fields = texts.map ([·]) := by
  rw [words?, Option.map_eq_some_iff] at split
  rcases split with ⟨words, split, rfl⟩
  rcases tokens?_of_wordsFrom? (Nat.lt_succ_self _) split with ⟨read, tokens, spell⟩
  refine ⟨read, tokens, ?_⟩
  intro run
  rw [map_fields_of_spells spell, List.map_map]
  rfl

/-! ## Quoting -/

/-- Quoting is undone by splitting a line into words: a line of quoted texts has these texts as
its words, so a quoted text is one word, and the remote command is made of three, the last of
which is the profile's script, the redirection if there is one, and the command as it was.  The
shell of the host finds the words of such lines, too, and each of them expands to itself. -/
theorem quoting_undone :
    (∀ texts : List String, words? (quotedLine texts) = some texts) ∧
      (∀ text : String, words? (quote text) = some [text]) ∧
      (∀ (command : String) (mergeStderr : Bool),
        words? (Ssh.remoteCommand command mergeStderr) =
          some ["sh", "-lc",
            "[ -r /etc/profile ] && . /etc/profile >/dev/null 2>&1; "
              ++ (if mergeStderr then "exec 2>&1; " else "") ++ command]) ∧
      ∀ texts : List String, ∃ read : List Word,
        tokens? ((quotedLine texts).length + 1) (quotedLine texts).toList =
            some (read.map .word) ∧
          ∀ run : Run, read.map run.fields = texts.map ([·]) := by
  refine ⟨words?_quotedLine, ?_, ?_, ?_⟩
  · intro text
    rw [← quotedLine_singleton]
    exact words?_quotedLine [text]
  · intro command mergeStderr
    rw [remoteCommand_eq]
    exact words?_quotedLine _
  · intro texts
    exact exists_tokens?_of_words? (words?_quotedLine texts)

end Testbed.Shell
