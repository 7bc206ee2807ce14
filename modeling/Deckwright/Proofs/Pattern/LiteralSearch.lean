import Deckwright.Pattern.TextPattern
import Deckwright.Proofs.Unicode.Lowercase

/-!
# Literal searches

A pattern that is no regular expression is searched for as a literal text. Pattern and text are
lower-cased separately, so a place where the text has the pattern is found only if lower-casing
goes the same way in both. It does unless a capital sigma of the pattern takes its form from what
stands next to the place (`Unicode.SigmasSettled`).
-/

namespace Deckwright

open Unicode

/-- A text does not occur where one of its characters is rarer. -/
theorem Text.occursIn_eq_false_of_count_lt {c : Char} {part whole : List Char}
    (rarer : whole.count c < part.count c) : occursIn part whole = false := by
  rw [Bool.eq_false_iff]
  intro occurs
  obtain ⟨before, after, rfl⟩ := (occursIn_iff part whole).1 occurs
  rw [List.count_append, List.count_append] at rarer
  omega

namespace TextPattern

/-- A pattern that is no regular expression is searched for as a literal text. -/
theorem compile_of_rejected {pattern : String} (rejected : regex? pattern = none) :
    compile pattern = ofLiteral pattern := by
  rw [compile, rejected]

/-- A literal search goes by the lower case of the whole text. -/
theorem isMatch_ofLiteral_append (pattern before after : String) :
    (ofLiteral pattern).isMatch (before ++ pattern ++ after) =
      Text.occursIn (lower pattern.toList)
        (lower (before.toList ++ pattern.toList ++ after.toList)) := by
  rw [ofLiteral, isMatch, String.toList_append, String.toList_append]

/-- A literal search finds a text everywhere if its sigmas are settled within it. -/
theorem isMatch_of_sigmasSettled {pattern : String} (settled : SigmasSettled pattern.toList)
    (before after : String) :
    (ofLiteral pattern).isMatch (before ++ pattern ++ after) = true := by
  rw [isMatch_ofLiteral_append, lower_append_append, settled.lowerWithin_eq_lower]
  exact (Text.occursIn_iff _ _).2 ⟨_, _, rfl⟩

/-- A literal search misses a text somewhere if a sigma is not settled within it. -/
theorem exists_isMatch_eq_false {pattern : String} (unsettled : ¬SigmasSettled pattern.toList) :
    ∃ before after, (ofLiteral pattern).isMatch (before ++ pattern ++ after) = false := by
  obtain ⟨form, earlier, later, rarer⟩ := exists_count_lower_lt unsettled
  refine ⟨String.ofList earlier, String.ofList later, ?_⟩
  rw [isMatch_ofLiteral_append, String.toList_ofList, String.toList_ofList]
  exact Text.occursIn_eq_false_of_count_lt rarer

/-- A text searched for literally, because it was given so or because it is no regular expression,
is found in every text it stands in exactly if each of its capital sigmas is settled within it. -/
theorem literal_found_everywhere_iff {pattern : String} {searched : TextPattern}
    (literal : searched = ofLiteral pattern ∨
      (regex? pattern = none ∧ searched = compile pattern)) :
    (∀ before after : String, searched.isMatch (before ++ pattern ++ after) = true) ↔
      SigmasSettled pattern.toList := by
  have same : searched = ofLiteral pattern := by
    rcases literal with given | ⟨rejected, compiled⟩
    · exact given
    · rw [compiled, compile_of_rejected rejected]
  rw [same]
  constructor
  · intro found
    refine Classical.byContradiction fun unsettled => ?_
    obtain ⟨before, after, missed⟩ := exists_isMatch_eq_false unsettled
    rw [found before after] at missed
    exact Bool.noConfusion missed
  · exact isMatch_of_sigmasSettled

/-- A pattern that is no regular expression, and has no sigma. -/
theorem literal_found_everywhere_iff_of_counter :
    regex? "+1/+1 counter" = none ∧
      ((∀ before after : String,
        (compile "+1/+1 counter").isMatch (before ++ "+1/+1 counter" ++ after) = true) ↔
          SigmasSettled "+1/+1 counter".toList) ∧
      SigmasSettled "+1/+1 counter".toList := by
  have rejected : regex? "+1/+1 counter" = none := by decide +kernel
  refine ⟨rejected, literal_found_everywhere_iff (.inr ⟨rejected, rfl⟩), ?_⟩
  exact sigmasSettled_of_not_mem (by decide)

/-- A pattern that ends in a capital sigma is lower-cased with the final form of the letter. A text
where a letter follows has the other form there, and the search misses the pattern. -/
theorem literal_missed_before_letter :
    regex? "+aΣ" = none ∧ (compile "+aΣ").isMatch ("" ++ "+aΣ" ++ "a") = false := by
  have rejected : regex? "+aΣ" = none := by decide +kernel
  refine ⟨rejected, ?_⟩
  have chars : "+aΣ".toList = ['+', 'a', 'Σ'] := rfl
  have more : "a".toList = ['a'] := rfl
  have nothing : "".toList = [] := rfl
  have formed (after : List Char) : lowerWithin [] after ['+', 'a', 'Σ'] =
      ['+', 'a', lowerSigma ['a', '+'] after] := rfl
  have alone : lowerSigma ['a', '+'] [] = 'ς' := by
    rw [lowerSigma, nextIsCased_eq, nextCase?_cons_a]
    rfl
  have followed : lowerSigma ['a', '+'] ['a'] = 'σ' := by
    rw [lowerSigma, nextIsCased_eq, nextIsCased_eq, nextCase?_cons_a, nextCase?_cons_a]
    rfl
  have parts : lower ([] ++ ['+', 'a', 'Σ'] ++ ['a']) = ['+', 'a', 'σ', 'a'] := by
    rw [lower_append_append, List.reverse_nil, List.append_nil, formed, followed]
    rfl
  rw [compile_of_rejected rejected, isMatch_ofLiteral_append, nothing, chars, more, parts,
    lower_eq_lowerWithin, formed, alone]
  decide

end TextPattern

end Deckwright
