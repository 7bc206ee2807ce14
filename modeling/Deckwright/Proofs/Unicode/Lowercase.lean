import Deckwright.Unicode.Case

/-!
# Lower-casing a part of a text

Each character is lower-cased by itself, but for the capital sigma, whose form depends on the next
letters on both sides. So a part of a text is lower-cased given what stands before and after it
(`lowerWithin`). What stands there has no influence if every sigma of the part is settled within
the part. If one is not, a letter before or after the part changes its form, and then the part has
that form less often than it has by itself.
-/

namespace Deckwright.Unicode

/-! ## The next letter -/

/-- Whether the next character that casing does not pass over is a cased letter, if there is such
a character. -/
def nextCase? (text : List Char) : Option Bool :=
  (text.dropWhile fun c => caseIgnorable.contains c.toNat).head?.map fun c =>
    casedLetters.contains c.toNat

/-- Where there is no next letter, none is cased. -/
theorem nextIsCased_eq (text : List Char) : nextIsCased text = (nextCase? text).getD false := by
  rw [nextIsCased, nextCase?]
  cases text.dropWhile fun c => caseIgnorable.contains c.toNat with
  | nil => rw [List.head?_nil, Option.map_none, Option.getD_none]
  | cons c rest => rw [List.head?_cons, Option.map_some, Option.getD_some]

/-- What follows a text counts if the text has no letter to look at. -/
theorem nextCase?_append (text more : List Char) :
    nextCase? (text ++ more) = (nextCase? text).or (nextCase? more) := by
  induction text with
  | nil => rfl
  | cons c rest ih =>
    rw [nextCase?, nextCase?, List.cons_append, List.dropWhile_cons, List.dropWhile_cons]
    split
    · exact ih
    · rw [List.head?_cons, List.head?_cons, Option.map_some, Option.some_or]

/-- The first intervals of the cased letters. -/
theorem exists_intervals_casedLetters :
    ∃ later, casedLetters.intervals = ⟨0x41, 0x5A⟩ :: ⟨0x61, 0x7A⟩ :: later := by
  obtain ⟨later, split⟩ : ∃ later, casedRuns =
      "41 19 5 19 2e 0 9 0 3 0 4 16 0 1e 0 c2 0 3 3 cf 0 23 6 1 1d 4 5f 0 29 3 1 1 1 3 0 0 5 0 "
        ++ later := by
    unfold casedRuns
    repeat rw [String.append_assoc]
    exact ⟨_, rfl⟩
  rw [casedLetters, split, CharSet.ofRunText, String.toList_append]
  exact ⟨_, rfl⟩

/-- The first intervals of the characters that casing passes over. -/
theorem exists_intervals_caseIgnorable :
    ∃ later, caseIgnorable.intervals = ⟨0x27, 0x27⟩ :: ⟨0x2E, 0x2E⟩ :: ⟨0x3A, 0x3A⟩ ::
      ⟨0x5E, 0x5E⟩ :: ⟨0x60, 0x60⟩ :: ⟨0xA8, 0xA8⟩ :: later := by
  obtain ⟨later, split⟩ : ∃ later, caseIgnorableRuns =
      "27 0 5 0 a 0 22 0 0 0 46 0 3 0 0 0 3 0 1 1 1f6 bf 3 1 3 0 8 1 0 0 fa 6 ce 0 4 0 30 2c 0 "
        ++ later := by
    unfold caseIgnorableRuns
    repeat rw [String.append_assoc]
    exact ⟨_, rfl⟩
  rw [caseIgnorable, split, CharSet.ofRunText, String.toList_append]
  exact ⟨_, rfl⟩

/-- A small a is cased. -/
theorem contains_casedLetters_a : casedLetters.contains 'a'.toNat = true := by
  obtain ⟨later, intervals⟩ := exists_intervals_casedLetters
  rw [CharSet.contains, intervals]
  rfl

/-- Casing does not pass over a small a. -/
theorem contains_caseIgnorable_a : caseIgnorable.contains 'a'.toNat = false := by
  obtain ⟨later, intervals⟩ := exists_intervals_caseIgnorable
  rw [CharSet.contains, intervals]
  rfl

/-- A small a is a cased letter to look at. -/
theorem nextCase?_cons_a (rest : List Char) : nextCase? ('a' :: rest) = some true := by
  rw [nextCase?, List.dropWhile_cons, contains_caseIgnorable_a, if_neg Bool.false_ne_true,
    List.head?_cons, Option.map_some, contains_casedLetters_a]

/-- A character before those that casing looks for is not passed over, and is no letter. -/
theorem nextIsCased_cons_of_lt {c : Char} (low : c.toNat < 0x27) (rest : List Char) :
    nextIsCased (c :: rest) = false := by
  have noticed : caseIgnorable.contains c.toNat = false := by
    obtain ⟨later, intervals⟩ := exists_intervals_caseIgnorable
    rw [CharSet.contains, intervals]
    exact if_pos low
  have uncased : casedLetters.contains c.toNat = false := by
    obtain ⟨later, intervals⟩ := exists_intervals_casedLetters
    rw [CharSet.contains, intervals]
    exact if_pos (Nat.lt_trans low (by decide))
  rw [nextIsCased_eq, nextCase?, List.dropWhile_cons, noticed, if_neg Bool.false_ne_true,
    List.head?_cons, Option.map_some, uncased, Option.getD_some]

/-! ## The form of a sigma -/

/-- The small form of a capital sigma, given in reverse what stands before it, and what stands
after it. -/
def lowerSigma (before after : List Char) : Char :=
  if nextIsCased before && !nextIsCased after then 'ς' else 'σ'

/-- What stands next to a sigma settles its form: a letter before it that is not cased, a cased
letter after it, or any letters on both sides. -/
def SigmaSettled (before after : List Char) : Prop :=
  nextCase? before = some false ∨ nextCase? after = some true ∨
    ((nextCase? before).isSome ∧ (nextCase? after).isSome)

/-- A sigma that is settled keeps its form whatever stands further off. -/
theorem SigmaSettled.lowerSigma_append {before after : List Char}
    (settled : SigmaSettled before after) (earlier later : List Char) :
    lowerSigma (before ++ earlier) (after ++ later) = lowerSigma before after := by
  rw [SigmaSettled] at settled
  rw [lowerSigma, lowerSigma]
  simp only [nextIsCased_eq, nextCase?_append]
  rcases settled with uncased | cased | ⟨left, right⟩
  · simp [uncased]
  · simp [cased]
  · obtain ⟨l, isLeft⟩ := Option.isSome_iff_exists.1 left
    obtain ⟨r, isRight⟩ := Option.isSome_iff_exists.1 right
    simp [isLeft, isRight]

/-- A letter after a sigma makes no form final. -/
theorem lowerSigma_of_append_a {before after : List Char}
    (final : lowerSigma before (after ++ ['a']) = 'ς') : lowerSigma before after = 'ς' := by
  simp only [lowerSigma, nextIsCased_eq, nextCase?_append, nextCase?_cons_a] at final ⊢
  cases left : nextCase? before <;> cases right : nextCase? after <;> simp_all

/-- A letter before a sigma makes a form final, if it changes it. -/
theorem lowerSigma_of_a_append {before after : List Char}
    (inner : lowerSigma (before ++ ['a']) after = 'σ') : lowerSigma before after = 'σ' := by
  simp only [lowerSigma, nextIsCased_eq, nextCase?_append, nextCase?_cons_a] at inner ⊢
  cases left : nextCase? before <;> cases right : nextCase? after <;> simp_all

/-- A sigma that is not settled changes its form for a letter after it or before it. -/
theorem lowerSigma_changes {before after : List Char} (unsettled : ¬SigmaSettled before after) :
    (lowerSigma before after = 'ς' ∧ lowerSigma before (after ++ ['a']) = 'σ') ∨
      (lowerSigma before after = 'σ' ∧ lowerSigma (before ++ ['a']) after = 'ς') := by
  simp only [SigmaSettled, lowerSigma, nextIsCased_eq, nextCase?_append,
    nextCase?_cons_a] at unsettled ⊢
  cases left : nextCase? before <;> cases right : nextCase? after <;> simp_all

/-! ## Parts of a text -/

/-- Lower-case a part of a text, given in reverse what stands before it, and what stands after
it. -/
def lowerWithin (before after : List Char) : List Char → List Char
  | [] => []
  | c :: rest =>
    (if c = 'Σ' then [lowerSigma before (rest ++ after)] else lowerChar c)
      ++ lowerWithin (c :: before) after rest

/-- Lower-casing goes through a text part by part. -/
theorem lowerFrom_append (before text after : List Char) :
    lowerFrom before (text ++ after) =
      lowerWithin before after text ++ lowerFrom (text.reverse ++ before) after := by
  induction text generalizing before with
  | nil => rfl
  | cons c rest ih =>
    have later : (c :: rest).reverse ++ before = rest.reverse ++ c :: before := by simp
    rw [List.cons_append, lowerFrom, lowerWithin, ih, later, List.append_assoc, ← lowerSigma]
    split
    · rfl
    · rfl

/-- A text by itself has nothing before it and nothing after it. -/
theorem lower_eq_lowerWithin (text : List Char) : lower text = lowerWithin [] [] text := by
  have whole := lowerFrom_append [] text []
  rwa [List.append_nil, lowerFrom, List.append_nil] at whole

/-- A part of a text is lower-cased part by part. -/
theorem lowerWithin_append (before after left right : List Char) :
    lowerWithin before after (left ++ right) =
      lowerWithin before (right ++ after) left
        ++ lowerWithin (left.reverse ++ before) after right := by
  induction left generalizing before with
  | nil => rfl
  | cons c rest ih =>
    rw [List.cons_append, lowerWithin, lowerWithin, ih, List.reverse_cons, List.append_assoc,
      List.append_assoc, List.append_assoc, List.singleton_append]

/-- A text is lower-cased in three parts. -/
theorem lower_append_append (before text after : List Char) :
    lower (before ++ text ++ after) =
      lowerWithin [] (text ++ after) before ++ lowerWithin before.reverse after text
        ++ lowerWithin (text.reverse ++ before.reverse) [] after := by
  rw [lower_eq_lowerWithin, lowerWithin_append, lowerWithin_append, List.reverse_append]
  simp only [List.append_nil]

/-- Every capital sigma of a text is settled within the text. -/
def SigmasSettled (text : List Char) : Prop :=
  ∀ left right, text = left ++ 'Σ' :: right → SigmaSettled left.reverse right

/-- A text without capital sigmas has none that is not settled. -/
theorem sigmasSettled_of_not_mem {text : List Char} (absent : 'Σ' ∉ text) :
    SigmasSettled text := by
  rintro left right rfl
  simp at absent

/-- Surroundings have no influence on a part whose sigmas are settled with what stands next to
it. -/
theorem lowerWithin_append_of_settled {before after text : List Char} (earlier later : List Char)
    (settled : ∀ left right, text = left ++ 'Σ' :: right →
      SigmaSettled (left.reverse ++ before) (right ++ after)) :
    lowerWithin (before ++ earlier) (after ++ later) text = lowerWithin before after text := by
  induction text generalizing before with
  | nil => rfl
  | cons c rest ih =>
    have tail : lowerWithin (c :: before ++ earlier) (after ++ later) rest =
        lowerWithin (c :: before) after rest := by
      refine ih fun left right split => ?_
      have here := settled (c :: left) right (congrArg (c :: ·) split)
      rwa [List.reverse_cons, List.append_assoc, List.singleton_append] at here
    rw [lowerWithin, lowerWithin, ← List.cons_append, tail, ← List.append_assoc]
    split
    · rename_i sigma
      subst sigma
      have here : SigmaSettled before (rest ++ after) := settled [] rest rfl
      rw [here.lowerSigma_append]
    · rfl

/-- A part whose sigmas are settled within it is lower-cased as it is by itself. -/
theorem SigmasSettled.lowerWithin_eq_lower {text : List Char} (settled : SigmasSettled text)
    (earlier later : List Char) : lowerWithin earlier later text = lower text := by
  have alone : lowerWithin ([] ++ earlier) ([] ++ later) text = lowerWithin [] [] text := by
    refine lowerWithin_append_of_settled earlier later fun left right split => ?_
    rw [List.append_nil, List.append_nil]
    exact settled left right split
  rwa [lower_eq_lowerWithin]

/-! ## Texts that casing keeps apart -/

/-- What follows a text has no influence on its next letter if it has no cased letter to look at. -/
theorem nextIsCased_append {more : List Char} (uncased : nextIsCased more = false)
    (text : List Char) : nextIsCased (text ++ more) = nextIsCased text := by
  rw [nextIsCased_eq] at uncased
  rw [nextIsCased_eq, nextIsCased_eq, nextCase?_append]
  cases nextCase? text with
  | none => rw [Option.none_or, uncased, Option.getD_none]
  | some cased => rw [Option.some_or]

/-- Surroundings have no influence on a part if they have no cased letter to look at. -/
theorem lowerWithin_of_uncased {before after : List Char} (left : nextIsCased before = false)
    (right : nextIsCased after = false) (seen text : List Char) :
    lowerWithin (seen ++ before) after text = lowerWithin seen [] text := by
  induction text generalizing seen with
  | nil => rfl
  | cons c rest ih =>
    rw [lowerWithin, lowerWithin, ← List.cons_append, ih (c :: seen), lowerSigma, lowerSigma,
      nextIsCased_append left, nextIsCased_append right, List.append_nil]

/-- Texts on both sides of a character that stops casing are lower-cased by themselves. -/
theorem lower_append_cons {c : Char} (stops : ∀ rest, nextIsCased (c :: rest) = false)
    (first second : List Char) :
    lower (first ++ c :: second) =
      lower first ++ lowerWithin first.reverse second [c] ++ lower second := by
  have left : lowerWithin [] (c :: second) first = lower first := by
    rw [lower_eq_lowerWithin]
    exact lowerWithin_of_uncased rfl (stops second) [] first
  have right : lowerWithin (c :: first.reverse) [] second = lower second := by
    rw [lower_eq_lowerWithin]
    exact lowerWithin_of_uncased (stops first.reverse) rfl [] second
  have parts := lower_append_append first [c] second
  rw [List.singleton_append, List.reverse_singleton, List.singleton_append, left, right] at parts
  rw [← parts, List.append_assoc, List.singleton_append]

/-! ## Forms that surroundings change -/

section Count

variable {form : Char} {before after before' after' text : List Char}

/-- If each sigma keeps a form where the surroundings are replaced, the form does not become
rarer. -/
theorem count_lowerWithin_le
    (kept : ∀ left right, lowerSigma (left ++ before) (right ++ after) = form →
      lowerSigma (left ++ before') (right ++ after') = form) :
    (lowerWithin before after text).count form ≤ (lowerWithin before' after' text).count form := by
  -- Both texts before the part grow by the same characters, so the forms kept stay kept.
  induction text generalizing before before' with
  | nil => exact Nat.le_refl _
  | cons c rest ih =>
    have tail : (lowerWithin (c :: before) after rest).count form ≤
        (lowerWithin (c :: before') after' rest).count form := by
      refine ih fun left right formed => ?_
      have here := kept (left ++ [c]) right
      simp only [List.append_assoc, List.singleton_append] at here
      exact here formed
    rw [lowerWithin, lowerWithin, List.count_append, List.count_append]
    split
    · have here := kept [] rest
      simp only [List.nil_append] at here
      rw [List.count_singleton, List.count_singleton]
      by_cases formed : lowerSigma before (rest ++ after) = form
      · simp [formed, here formed, tail]
      · simp only [beq_eq_false_iff_ne.2 formed, Bool.false_eq_true, if_false]
        omega
    · omega

/-- If in addition one sigma has the form only where the surroundings are replaced, it becomes
more frequent. -/
theorem count_lowerWithin_lt {left right : List Char} (split : text = left ++ 'Σ' :: right)
    (kept : ∀ left right, lowerSigma (left ++ before) (right ++ after) = form →
      lowerSigma (left ++ before') (right ++ after') = form)
    (lost : lowerSigma (left.reverse ++ before) (right ++ after) ≠ form)
    (gained : lowerSigma (left.reverse ++ before') (right ++ after') = form) :
    (lowerWithin before after text).count form < (lowerWithin before' after' text).count form := by
  -- The part is cut at the sigma that is gained; on both sides of it no form is lost.
  have earlier : (lowerWithin before ('Σ' :: right ++ after) left).count form ≤
      (lowerWithin before' ('Σ' :: right ++ after') left).count form :=
    count_lowerWithin_le fun l r formed => by
      have there := kept l (r ++ 'Σ' :: right)
      simp only [List.append_assoc] at there
      exact there formed
  have later : (lowerWithin ('Σ' :: (left.reverse ++ before)) after right).count form ≤
      (lowerWithin ('Σ' :: (left.reverse ++ before')) after' right).count form :=
    count_lowerWithin_le fun l r formed => by
      have there := kept (l ++ 'Σ' :: left.reverse) r
      simp only [List.append_assoc, List.cons_append] at there
      exact there formed
  rw [split, lowerWithin_append, lowerWithin_append, lowerWithin, lowerWithin, if_pos rfl,
    if_pos rfl]
  simp only [List.count_append, List.count_singleton, gained, beq_self_eq_true, if_true,
    beq_eq_false_iff_ne.2 lost, Bool.false_eq_true, if_false]
  omega

end Count

/-- A text with a sigma that is not settled has one of the two small forms more often by itself than
with a letter before it or after it. -/
theorem exists_count_lower_lt {text : List Char} (unsettled : ¬SigmasSettled text) :
    ∃ form earlier later,
      (lower (earlier ++ text ++ later)).count form < (lower text).count form := by
  simp only [SigmasSettled, Classical.not_forall] at unsettled
  obtain ⟨left, right, split, unsettled⟩ := unsettled
  have bare : lowerChar 'a' = ['a'] := by decide
  rcases lowerSigma_changes unsettled with ⟨final, inner⟩ | ⟨inner, final⟩
  · refine ⟨'ς', [], ['a'], ?_⟩
    have fewer : (lowerWithin [] ['a'] text).count 'ς' < (lowerWithin [] [] text).count 'ς' := by
      refine count_lowerWithin_lt split ?_ ?_ ?_
      · intro l r formed
        rw [List.append_nil] at formed
        rw [List.append_nil, List.append_nil]
        exact lowerSigma_of_append_a formed
      · rw [List.append_nil, inner]
        decide
      · rwa [List.append_nil, List.append_nil]
    rw [lower_append_append, lower_eq_lowerWithin text]
    simpa [lowerWithin, bare] using fewer
  · refine ⟨'σ', ['a'], [], ?_⟩
    have fewer : (lowerWithin ['a'] [] text).count 'σ' < (lowerWithin [] [] text).count 'σ' := by
      refine count_lowerWithin_lt split ?_ ?_ ?_
      · intro l r formed
        rw [List.append_nil]
        exact lowerSigma_of_a_append formed
      · rw [List.append_nil, final]
        decide
      · rwa [List.append_nil, List.append_nil]
    rw [lower_append_append, lower_eq_lowerWithin text]
    simpa [lowerWithin, bare] using fewer

end Deckwright.Unicode
