import Deckwright.Unicode.CharSet

/-!
# Blank characters

A blank is a character with the White_Space property. Names are compared after blanks at both
ends are cut off, and type lines are split into words at blanks.
-/

namespace Deckwright.Unicode

/-- First and last code point of each interval of blanks. -/
def blankPairs : List (Nat × Nat) := [
  (0x9, 0xD), (0x20, 0x20), (0x85, 0x85), (0xA0, 0xA0), (0x1680, 0x1680), (0x2000, 0x200A),
  (0x2028, 0x2029), (0x202F, 0x202F), (0x205F, 0x205F), (0x3000, 0x3000)]

/-- The blanks. -/
def blanks : CharSet := ⟨blankPairs.map fun p => ⟨p.1, p.2⟩, by decide⟩

/-- The character is a blank. -/
def isBlank (c : Char) : Bool := blanks.contains c.toNat

/-- The text without the blanks at its start. -/
def trimStart (text : List Char) : List Char := text.dropWhile isBlank

/-- The text without the blanks at its end. -/
def trimEnd (text : List Char) : List Char := (text.reverse.dropWhile isBlank).reverse

/-- The text without the blanks at its ends. -/
def trimBlanks (text : List Char) : List Char := trimEnd (trimStart text)

/-- A text without blanks at its start begins with no blank. -/
theorem not_isBlank_of_head?_trimStart {text : List Char} {c : Char}
    (first : (trimStart text).head? = some c) : isBlank c = false := by
  have := List.head?_dropWhile_not isBlank text
  rw [← trimStart, first] at this
  simpa using this

/-- A text without blanks at its end ends with no blank. -/
theorem not_isBlank_of_getLast?_trimEnd {text : List Char} {c : Char}
    (last : (trimEnd text).getLast? = some c) : isBlank c = false := by
  rw [trimEnd, List.getLast?_reverse] at last
  exact not_isBlank_of_head?_trimStart last

/-- A text that begins with no blank has no blanks to cut off at its start. -/
theorem trimStart_eq_self {text : List Char}
    (bare : ∀ c, text.head? = some c → isBlank c = false) : trimStart text = text := by
  cases text with
  | nil => rfl
  | cons c rest => simp [trimStart, bare c rfl]

/-- A text that ends with no blank has no blanks to cut off at its end. -/
theorem trimEnd_eq_self {text : List Char}
    (bare : ∀ c, text.getLast? = some c → isBlank c = false) : trimEnd text = text := by
  have reversed : trimStart text.reverse = text.reverse :=
    trimStart_eq_self fun c first => bare c (by rwa [List.head?_reverse] at first)
  rw [trimEnd, ← trimStart, reversed, List.reverse_reverse]

/-- The maximal runs of characters that are not blank, in order; `word` holds, reversed, the
part already read of the first one. -/
def wordsFrom (word : List Char) : List Char → List (List Char)
  | [] => if word.isEmpty then [] else [word.reverse]
  | c :: rest =>
    if isBlank c then
      if word.isEmpty then wordsFrom [] rest else word.reverse :: wordsFrom [] rest
    else wordsFrom (c :: word) rest

/-- The words of a text: its maximal runs of characters that are not blank, in order. -/
def words (text : List Char) : List (List Char) := wordsFrom [] text

/-- The runs read on from a word without blanks have characters, and none of them is a blank. -/
theorem bare_of_mem_wordsFrom {word text run : List Char} (bare : ∀ c ∈ word, isBlank c = false)
    (mem : run ∈ wordsFrom word text) : run ≠ [] ∧ ∀ c ∈ run, isBlank c = false := by
  induction text generalizing word with
  | nil =>
    simp only [wordsFrom] at mem
    split at mem
    · simp at mem
    · rename_i unfinished
      rw [List.mem_singleton.1 mem]
      exact ⟨by simpa using unfinished, fun c hc => bare c (List.mem_reverse.1 hc)⟩
  | cons c rest ih =>
    simp only [wordsFrom] at mem
    split at mem
    · split at mem
      · exact ih (by simp) mem
      · rename_i unfinished
        rcases List.mem_cons.1 mem with rfl | mem
        · exact ⟨by simpa using unfinished, fun c hc => bare c (List.mem_reverse.1 hc)⟩
        · exact ih (by simp) mem
    · rename_i bareChar
      refine ih ?_ mem
      intro d hd
      rcases List.mem_cons.1 hd with rfl | hd
      · exact Bool.eq_false_iff.2 bareChar
      · exact bare d hd

/-- Words have characters, and none of them is a blank. -/
theorem bare_of_mem_words {text run : List Char} (mem : run ∈ words text) :
    run ≠ [] ∧ ∀ c ∈ run, isBlank c = false :=
  bare_of_mem_wordsFrom (by simp) mem

/-- Characters that are not blank go on with the word before them. -/
theorem wordsFrom_append {run : List Char} (bare : ∀ c ∈ run, isBlank c = false)
    (word rest : List Char) :
    wordsFrom word (run ++ rest) = wordsFrom (run.reverse ++ word) rest := by
  induction run generalizing word with
  | nil => rfl
  | cons c run ih =>
    have here : isBlank c = false := bare c List.mem_cons_self
    have later : ∀ d ∈ run, isBlank d = false := fun d hd => bare d (List.mem_cons_of_mem c hd)
    rw [List.cons_append, wordsFrom, here, if_neg Bool.false_ne_true, ih later,
      List.reverse_cons, List.append_assoc]
    rfl

/-- A blank before a text makes no word. -/
theorem words_cons_of_isBlank {c : Char} (blank : isBlank c = true) (text : List Char) :
    words (c :: text) = words text := by
  simp [words, wordsFrom, blank]

/-- A run that a blank ends is a word. -/
theorem words_append_cons {run : List Char} {c : Char} (nonempty : run ≠ [])
    (bare : ∀ d ∈ run, isBlank d = false) (blank : isBlank c = true) (rest : List Char) :
    words (run ++ c :: rest) = run :: words rest := by
  rw [words, wordsFrom_append bare, wordsFrom, blank, if_pos rfl, if_neg (by simpa using nonempty),
    List.append_nil, List.reverse_reverse]
  rfl

/-- A run that ends the text is a word. -/
theorem words_of_bare {run : List Char} (nonempty : run ≠ [])
    (bare : ∀ d ∈ run, isBlank d = false) : words run = [run] := by
  have := wordsFrom_append bare [] []
  rw [List.append_nil, List.append_nil, wordsFrom, if_neg (by simpa using nonempty),
    List.reverse_reverse] at this
  exact this

end Deckwright.Unicode
