import Deckwright.Proofs.Pattern.Footprint
import Deckwright.Proofs.Pattern.Subtype

/-!
# Searches for a word of its own

The search for a creature type on type lines is meant to find the type as a word and nothing else,
whatever characters it has. It does as long as its automaton is within the limit of memory, for
then the pattern is read as a regular expression and not as a literal text
(`subtypeExact_finds_word_iff`). Words of up to 3000 characters are short enough.
-/

namespace Deckwright.Pattern

open Unicode

/-! ## Words that are short enough -/

/-- One part after another needs the memory for both. -/
theorem bytes_andThen_le (backwards : Bool) (first second : Regex) :
    (first.andThen second).bytes backwards ≤ first.bytes backwards + second.bytes backwards := by
  fun_cases Regex.andThen first second
  · exact Nat.le_add_left _ _
  · exact Nat.le_add_right _ _
  · rw [Regex.bytes]

/-- Memory for a text whose case is ignored: each character is one of four. -/
theorem bytes_caselessText_le (backwards : Bool) (word : List Char) (rest : Regex) :
    (caselessText word rest).bytes backwards ≤ 3328 * word.length + rest.bytes backwards := by
  induction word with
  | nil => exact Nat.le_add_left _ _
  | cons c word ih =>
    have few := (CharSet.size_ofCodePoints_le (foldOrbit c.toNat)).trans
      (length_foldOrbit_le c.toNat)
    have character : (Regex.set (caseless c)).bytes backwards ≤ 3328 := by
      have := setBytes_le backwards (caseless c)
      rw [caseless] at this ⊢
      rw [Regex.bytes]
      omega
    have both := bytes_andThen_le backwards (.set (caseless c)) (caselessText word rest)
    have step : caselessText (c :: word) rest =
        (Regex.set (caseless c)).andThen (caselessText word rest) := rfl
    rw [step, List.length_cons]
    omega

/-- The automaton for a word of up to 3000 characters is within the limit. -/
theorem fits_exactExpression_of_length_le {word : List Char} (short : word.length ≤ 3000) :
    (exactExpression word).fits = true := by
  have within (backwards : Bool) :
      (exactExpression word).automatonBytes backwards ≤ automatonLimit := by
    have expression : (exactExpression word).bytes backwards ≤ 3328 * word.length + 64 := by
      have outer := bytes_andThen_le backwards wordBoundary (caselessText word wordBoundary)
      have inner := bytes_caselessText_le backwards word wordBoundary
      have boundary : wordBoundary.bytes backwards = 32 := by rfl
      rw [exactExpression]
      omega
    rw [Regex.automatonBytes, automatonLimit]
    simp only [stateBytes, branchBytes, transitionBytes]
    split <;> split <;> omega
  rw [Regex.fits, Bool.and_eq_true, decide_eq_true_eq, decide_eq_true_eq]
  exact ⟨within false, within true⟩

/-! ## What is found -/

/-- The search for a word of its own is no literal search if its automaton is within the limit, and
then finds the word in exactly the texts in which it stands, in any case, between two boundaries
of words. -/
theorem subtypeExact_finds_word_iff {subtype : String}
    (small : (exactExpression subtype.toList).fits = true) :
    (TextPattern.compile (subtypeExact subtype)).isLiteral = false ∧
    ∀ text : String, (TextPattern.compile (subtypeExact subtype)).isMatch text = true ↔
      ∃ before spelled after, text.toList = before ++ spelled ++ after ∧
        SpelledAs subtype.toList spelled ∧
        AtBoundary before (spelled ++ after) ∧ AtBoundary (before ++ spelled) after := by
  rw [compile_of_fits (regex?_subtypeExact subtype) small]
  exact ⟨rfl, fun _ => matchesIn_exactExpression_iff⟩

/-- A word of characters that mean something in patterns. -/
theorem subtypeExact_finds_word_iff_of_metacharacters :
    (exactExpression "a.b|(c)*\\d[^$".toList).fits = true ∧
    (TextPattern.compile (subtypeExact "a.b|(c)*\\d[^$")).isLiteral = false ∧
    ∀ text : String,
      (TextPattern.compile (subtypeExact "a.b|(c)*\\d[^$")).isMatch text = true ↔
        ∃ before spelled after, text.toList = before ++ spelled ++ after ∧
          SpelledAs "a.b|(c)*\\d[^$".toList spelled ∧
          AtBoundary before (spelled ++ after) ∧ AtBoundary (before ++ spelled) after := by
  have small : (exactExpression "a.b|(c)*\\d[^$".toList).fits = true :=
    fits_exactExpression_of_length_le (by decide)
  exact ⟨small, subtypeExact_finds_word_iff small⟩

end Deckwright.Pattern
