import Deckwright.Unicode.Blank
import Mathlib.Data.List.TakeWhile

/-!
# Trimmed texts and spaced texts

A text is trimmed if no blank stands at either end of it; trimming makes a text trimmed and leaves
trimmed texts alone. A text is spaced out as some words if it has them in order, with blanks between
them and perhaps at its ends. However the blanks are chosen, its words are these
(`SpacedOut.words_eq`).
-/

namespace Deckwright.Unicode

/-! ## Trimmed texts -/

/-- The text neither begins nor ends with a blank. -/
structure IsTrimmed (text : List Char) : Prop where
  /-- The first character is no blank. -/
  first : ∀ c, text.head? = some c → isBlank c = false
  /-- The last character is no blank. -/
  last : ∀ c, text.getLast? = some c → isBlank c = false

/-- Trimming a trimmed text changes nothing. -/
theorem IsTrimmed.trimBlanks_eq {text : List Char} (trimmed : IsTrimmed text) :
    trimBlanks text = text := by
  rw [trimBlanks, trimStart_eq_self trimmed.first, trimEnd_eq_self trimmed.last]

/-- Trimming makes a text trimmed. -/
theorem isTrimmed_trimBlanks (text : List Char) : IsTrimmed (trimBlanks text) := by
  constructor
  · intro c first
    -- What is left begins as it did before its end was cut off.
    have part : trimBlanks text <+: trimStart text := by
      rw [← List.reverse_reverse (trimStart text)]
      exact List.reverse_prefix.2 (List.dropWhile_suffix isBlank)
    obtain ⟨cut, joined⟩ := part
    refine @not_isBlank_of_head?_trimStart text c ?_
    rw [← joined, List.head?_append, first, Option.some_or]
  · intro c last
    exact not_isBlank_of_getLast?_trimEnd last

/-- Nothing is left of a text without the blanks at its ends if it has no other characters. -/
theorem trimBlanks_eq_nil_iff {text : List Char} :
    trimBlanks text = [] ↔ ∀ c ∈ text, isBlank c = true := by
  rw [trimBlanks, trimEnd, List.reverse_eq_nil_iff, List.dropWhile_eq_nil_iff]
  simp only [List.mem_reverse]
  constructor
  · intro blank
    cases start : trimStart text with
    | nil =>
      exact List.dropWhile_eq_nil_iff.1 start
    | cons c rest =>
      have shown : isBlank c = false := not_isBlank_of_head?_trimStart (by rw [start]; rfl)
      rw [blank c (by rw [start]; exact List.mem_cons_self)] at shown
      cases shown
  · intro blank c mem
    exact blank c ((List.dropWhile_sublist isBlank).subset mem)

/-! ## Words with blanks between them -/

/-- The text is a word: it has characters, and none of them is a blank. -/
structure IsBare (word : List Char) : Prop where
  /-- There is a character. -/
  nonempty : word ≠ []
  /-- No character is a blank. -/
  bare : ∀ c ∈ word, isBlank c = false

instance (word : List Char) : Decidable (IsBare word) :=
  decidable_of_iff ((!word.isEmpty && word.all fun c => !isBlank c) = true) <| by
    simp only [Bool.and_eq_true, Bool.not_eq_true', List.isEmpty_eq_false_iff, List.all_eq_true]
    exact ⟨fun h => ⟨h.1, h.2⟩, fun h => ⟨h.nonempty, h.bare⟩⟩

/-- The words of a text are words. -/
theorem isBare_of_mem_words {text word : List Char} (mem : word ∈ words text) : IsBare word :=
  ⟨(bare_of_mem_words mem).1, (bare_of_mem_words mem).2⟩

/-- A run of a text has nothing but blanks beside it. -/
theorem exists_split_of_mem_wordsFrom {word text run : List Char}
    (mem : run ∈ wordsFrom word text) :
    ∃ before after, word.reverse ++ text = before ++ run ++ after ∧
      (∀ c, before.getLast? = some c → isBlank c = true) ∧
      (∀ c, after.head? = some c → isBlank c = true) := by
  induction text generalizing word with
  | nil =>
    simp only [wordsFrom] at mem
    split at mem
    · exact absurd mem List.not_mem_nil
    · rw [List.mem_singleton.1 mem]
      exact ⟨[], [], by simp, by simp, by simp⟩
  | cons c rest ih =>
    simp only [wordsFrom] at mem
    split at mem
    · rename_i blank
      have passed (found : run ∈ wordsFrom [] rest) :
          ∃ before after, word.reverse ++ c :: rest = before ++ run ++ after ∧
            (∀ d, before.getLast? = some d → isBlank d = true) ∧
            (∀ d, after.head? = some d → isBlank d = true) := by
        obtain ⟨before, after, split, left, right⟩ := ih found
        rw [List.reverse_nil, List.nil_append] at split
        refine ⟨word.reverse ++ c :: before, after, by simp [split], ?_, right⟩
        intro d last
        rw [List.getLast?_append, List.getLast?_cons] at last
        cases ending : before.getLast? with
        | none =>
          obtain rfl : c = d := by simpa [ending] using last
          exact blank
        | some e =>
          obtain rfl : e = d := by simpa [ending] using last
          exact left e ending
      split at mem
      · exact passed mem
      · rcases List.mem_cons.1 mem with rfl | mem
        · refine ⟨[], c :: rest, by simp, by simp, ?_⟩
          rintro d ⟨⟩
          exact blank
        · exact passed mem
    · obtain ⟨before, after, split, left, right⟩ := ih mem
      refine ⟨before, after, ?_, left, right⟩
      rw [← split, List.reverse_cons, List.append_assoc]
      rfl

/-- The characters of a word of a text are characters of the text. -/
theorem subset_of_mem_words {text word : List Char} (mem : word ∈ words text) : word ⊆ text := by
  obtain ⟨before, after, split, -, -⟩ := exists_split_of_mem_wordsFrom mem
  rw [List.reverse_nil, List.nil_append] at split
  rw [split]
  exact fun c within => List.mem_append_left after (List.mem_append_right before within)

/-- The text has the words in order, with blanks between them, and it may have blanks at both of
its ends. -/
inductive SpacedOut : List (List Char) → List Char → Prop where
  /-- Blanks only. -/
  | blanks {gap : List Char} (blank : ∀ c ∈ gap, isBlank c = true) : SpacedOut [] gap
  /-- A word after some blanks, and before the end or a blank. -/
  | word {gap word rest : List Char} {later : List (List Char)}
    (blank : ∀ c ∈ gap, isBlank c = true) (ended : ∀ c, rest.head? = some c → isBlank c = true)
    (spaced : SpacedOut later rest) : SpacedOut (word :: later) (gap ++ word ++ rest)

/-- At a blank the words before it end, and those after it begin. -/
theorem words_append_blank {c : Char} (blank : isBlank c = true) (left right : List Char) :
    words (left ++ c :: right) = words left ++ words right := by
  have goOn (word : List Char) :
      wordsFrom word (left ++ c :: right) = wordsFrom word left ++ wordsFrom [] right := by
    induction left generalizing word with
    | nil =>
      rw [List.nil_append, wordsFrom, wordsFrom, if_pos blank]
      split
      · rfl
      · rfl
    | cons d left ih =>
      rw [List.cons_append, wordsFrom, wordsFrom]
      split
      · split
        · exact ih []
        · rw [ih [], List.cons_append]
      · exact ih (d :: word)
  exact goOn []

/-- Blanks before a text make no words. -/
theorem words_append_of_blank {gap : List Char} (blank : ∀ c ∈ gap, isBlank c = true)
    (text : List Char) : words (gap ++ text) = words text := by
  induction gap with
  | nil => rfl
  | cons c gap ih =>
    rw [List.cons_append, words_cons_of_isBlank (blank c List.mem_cons_self)]
    exact ih fun d mem => blank d (List.mem_cons_of_mem c mem)

/-- A word before the end or a blank is the first word of a text. -/
theorem words_append_of_ended {word rest : List Char} (isBare : IsBare word)
    (ended : ∀ c, rest.head? = some c → isBlank c = true) :
    words (word ++ rest) = word :: words rest := by
  cases rest with
  | nil =>
    rw [List.append_nil, words_of_bare isBare.nonempty isBare.bare]
    rfl
  | cons c rest =>
    have blank := ended c rfl
    rw [words_append_cons isBare.nonempty isBare.bare blank, words_cons_of_isBlank blank]

namespace SpacedOut

variable {spaced : List (List Char)} {text : List Char}

/-- A text that is spaced out as some words has these words. -/
theorem words_eq (written : SpacedOut spaced text) (bare : ∀ word ∈ spaced, IsBare word) :
    words text = spaced := by
  induction written with
  | blanks blank =>
    have none := words_append_of_blank blank []
    rwa [List.append_nil] at none
  | word blank ended _ ih =>
    rw [List.append_assoc, words_append_of_blank blank,
      words_append_of_ended (bare _ List.mem_cons_self) ended,
      ih fun word mem => bare word (List.mem_cons_of_mem _ mem)]

/-- The characters of a spaced text are blanks and those of its words. -/
theorem mem_cases (written : SpacedOut spaced text) {c : Char} (mem : c ∈ text) :
    isBlank c = true ∨ ∃ word ∈ spaced, c ∈ word := by
  induction written with
  | blanks blank => exact .inl (blank c mem)
  | @word gap word rest later blank ended _ ih =>
    rw [List.mem_append, List.mem_append] at mem
    rcases mem with (before | here) | after
    · exact .inl (blank c before)
    · exact .inr ⟨word, List.mem_cons_self, here⟩
    · rcases ih after with blank | ⟨word, listed, within⟩
      · exact .inl blank
      · exact .inr ⟨word, List.mem_cons_of_mem _ listed, within⟩

/-- Blanks may be put before a spaced text. -/
theorem blanks_append (written : SpacedOut spaced text) {gap : List Char}
    (blank : ∀ c ∈ gap, isBlank c = true) : SpacedOut spaced (gap ++ text) := by
  have both {inner : List Char} (blank' : ∀ c ∈ inner, isBlank c = true) :
      ∀ c ∈ gap ++ inner, isBlank c = true := by
    intro c mem
    exact (List.mem_append.1 mem).elim (blank c) (blank' c)
  cases written with
  | blanks blank' => exact .blanks (both blank')
  | word blank' ended later =>
    rw [List.append_assoc, ← List.append_assoc, ← List.append_assoc]
    exact .word (both blank') ended later

end SpacedOut

/-- A text is spaced out as its words. -/
theorem spacedOut_words (text : List Char) : SpacedOut (words text) text := by
  have none : ∀ c ∈ [], isBlank c = true := List.forall_mem_nil _
  have goOn (word : List Char) : SpacedOut (wordsFrom word text) (word.reverse ++ text) := by
    induction text generalizing word with
    | nil =>
      rw [wordsFrom, List.append_nil]
      split
      · rename_i empty
        rw [List.isEmpty_iff.1 empty]
        exact .blanks none
      · have ended : ∀ c, ([] : List Char).head? = some c → isBlank c = true := by simp
        have last : SpacedOut [word.reverse] ([] ++ word.reverse ++ []) :=
          .word none ended (.blanks none)
        rwa [List.nil_append, List.append_nil] at last
    | cons c rest ih =>
      rw [wordsFrom]
      split
      · rename_i blank
        have later := (ih []).blanks_append (List.forall_mem_singleton.2 blank)
        split
        · rename_i empty
          rw [List.isEmpty_iff.1 empty]
          exact later
        · have ended : ∀ d, (c :: rest).head? = some d → isBlank d = true := by
            rintro d ⟨⟩
            exact blank
          exact .word none ended later
      · have later := ih (c :: word)
        rwa [List.reverse_cons, List.append_assoc] at later
  exact goOn []

/-- A space is a blank. -/
theorem isBlank_space : ∀ c ∈ [' '], isBlank c = true := List.forall_mem_singleton.2 (by decide)

/-- Words may be joined by single spaces, and blanks may follow. -/
theorem spacedOut_intercalate (joined : List (List Char)) {gap : List Char}
    (blank : ∀ c ∈ gap, isBlank c = true) :
    SpacedOut joined (List.intercalate [' '] joined ++ gap) := by
  have none : ∀ c ∈ [], isBlank c = true := List.forall_mem_nil _
  induction joined with
  | nil => exact .blanks blank
  | cons word later ih =>
    cases later with
    | nil =>
      have ended : ∀ c, gap.head? = some c → isBlank c = true :=
        fun c first => blank c (List.mem_of_head? first)
      rw [List.intercalate_singleton]
      exact SpacedOut.word none ended (.blanks blank)
    | cons next later =>
      have ended : ∀ c, ([' '] ++ (List.intercalate [' '] (next :: later) ++ gap)).head? = some c →
          isBlank c = true := by
        rintro c ⟨⟩
        exact isBlank_space ' ' List.mem_cons_self
      rw [List.intercalate_cons_cons, List.append_assoc, List.append_assoc]
      exact SpacedOut.word none ended (ih.blanks_append isBlank_space)

end Deckwright.Unicode
