import Deckwright.Card.TypeLine
import Deckwright.Proofs.Pattern.Escape
import Deckwright.Proofs.Pattern.Seams
import Deckwright.Proofs.Unicode.Blank
import Deckwright.Proofs.Unicode.CaseForms
import Deckwright.Proofs.Unicode.CharSet
import Mathlib.Data.List.Forall2

/-!
# Searches for creature types

A creature type is any run of characters without blanks on the right side of a type line. The
searches for it ask for word boundaries at its ends, where there may be none: a type line of a
card with two faces has a word of two slashes, and a slash is no word character. This module gives
the expressions of both searches, says what they match, and shows which creature types are found
wherever they stand as a word (`finds_every_mention_iff`).
-/

namespace Deckwright.Pattern

open Unicode

/-! ## Expressions of the searches -/

/-- The boundary of a word. -/
def wordBoundary : Regex := .look (.boundary false)

/-- The expression of the search for a word of its own. -/
def exactExpression (word : List Char) : Regex :=
  wordBoundary.andThen (caselessText word wordBoundary)

/-- The expression of a creature type in rules text, in the singular or in an irregular plural. -/
def referenceExpression (subtype : String) : Regex :=
  let singular := caselessText subtype.toList .empty
  wordBoundary.andThen <| match irregularPlural? subtype with
    | some plural => .alt singular (caselessText plural.toList .empty)
    | none => singular

/-- The parts of the pattern for a word of its own. -/
def exactParts (word : List Char) : List Expr :=
  .anchor .wordBoundary :: (literals word ++ [.anchor .wordBoundary])

/-- The parts of the pattern for a creature type in rules text. -/
def referenceParts (subtype : String) : List Expr :=
  .anchor .wordBoundary :: match irregularPlural? subtype with
    | some plural => [choice subtype.toList plural.toList]
    | none => literals subtype.toList

/-- The pattern for a word of its own is read as its parts. -/
theorem parse?_subtypeExact (subtype : String) :
    Expr.parse? (subtypeExact subtype).toList = some (.ofParts (exactParts subtype.toList)) := by
  have pattern : (subtypeExact subtype).toList =
      '\\' :: 'b' :: (escape subtype.toList ++ ['\\', 'b']) := by
    rw [subtypeExact, String.toList_ofList]
    rfl
  have opens := reads_boundary (p := .start) rfl
    (head?_escape_append_ne (by decide) subtype.toList : (_ ++ ['\\', 'b']).head? ≠ some '{')
  have word := reads_escape (p := Progress.start.push (.anchor .wordBoundary)) rfl
    subtype.toList ['\\', 'b']
  have closes := reads_boundary (p := (Progress.start.push (.anchor .wordBoundary)).pushAll
    (literals subtype.toList)) rfl (by decide : [].head? ≠ some '{')
  have long := length_le_length_escape subtype.toList
  rw [pattern]
  apply Reads.parse?_eq _ _ (by simpa [exactParts] using (opens.trans word).trans closes)
  · simp only [List.length_cons, List.length_append, List.length_nil]
    omega
  · rw [exactParts, Expr.depthOfList, depthOfList_literals_append]
    decide

/-- The pattern for a creature type in rules text is read as its parts. -/
theorem parse?_subtypeReference (subtype : String) :
    Expr.parse? (subtypeReference subtype).toList = some (.ofParts (referenceParts subtype)) := by
  have long := length_le_length_escape subtype.toList
  cases irregular : irregularPlural? subtype with
  | none =>
    have pattern : (subtypeReference subtype).toList =
        '\\' :: 'b' :: (escape subtype.toList ++ []) := by
      simp [subtypeReference, irregular]
    have opens := reads_boundary (p := .start) rfl
      (head?_escape_append_ne (by decide) subtype.toList : (_ ++ []).head? ≠ some '{')
    have word := reads_escape (p := Progress.start.push (.anchor .wordBoundary)) rfl
      subtype.toList []
    rw [pattern]
    apply Reads.parse?_eq _ _ (by simpa [referenceParts, irregular] using opens.trans word)
    · simp only [List.length_cons, List.length_append, List.length_nil]
      omega
    · simp only [referenceParts, irregular, Expr.depthOfList, depthOfList_literals]
      decide
  | some plural =>
    have longPlural := length_le_length_escape plural.toList
    have pattern : (subtypeReference subtype).toList = '\\' :: 'b' :: '(' :: '?' :: ':' ::
        (escape subtype.toList ++ '|' :: (escape plural.toList ++ [')'])) := by
      simp [subtypeReference, irregular]
    have opens := reads_boundary (p := .start) rfl
      (by simp : ('(' :: '?' :: ':' ::
        (escape subtype.toList ++ '|' :: (escape plural.toList ++ [')']))).head? ≠ some '{')
    have words := reads_choice (p := Progress.start.push (.anchor .wordBoundary)) rfl
      subtype.toList plural.toList []
    rw [pattern]
    apply Reads.parse?_eq _ _ (by simpa [referenceParts, irregular] using opens.trans words)
    · simp only [List.length_cons, List.length_append, List.length_nil]
      omega
    · have shallow := depth_choice_le subtype.toList plural.toList
      simp only [referenceParts, irregular, Expr.depthOfList]
      have anchor : (Expr.anchor .wordBoundary).depth = 0 := rfl
      rw [anchor, nestingLimit]
      omega

/-- A word boundary stands before the expression of what follows it. -/
theorem allOf?_boundary_cons (more : List Expr) :
    Expr.allOf? TextPattern.initialFlags (.anchor .wordBoundary :: more) =
      (Expr.allOf? TextPattern.initialFlags more).map fun (r, after) =>
        (wordBoundary.andThen r, after) := by
  rw [Expr.allOf?]
  rfl

/-- The search for a word of its own is by its expression, if that is within the limit. -/
theorem regex?_subtypeExact (subtype : String) :
    TextPattern.regex? (subtypeExact subtype) =
      if (exactExpression subtype.toList).fits then some (exactExpression subtype.toList)
      else none := by
  have expression : Expr.allOf? TextPattern.initialFlags (exactParts subtype.toList) =
      some (exactExpression subtype.toList, TextPattern.initialFlags) := by
    rw [exactParts, allOf?_boundary_cons, allOf?_literals_append, allOf?_boundary_cons]
    rfl
  exact regex?_of_parse? (parse?_subtypeExact subtype) expression

/-- The search in rules text is by its expression, if that is within the limit. -/
theorem regex?_subtypeReference (subtype : String) :
    TextPattern.regex? (subtypeReference subtype) =
      if (referenceExpression subtype).fits then some (referenceExpression subtype)
      else none := by
  have expression : Expr.allOf? TextPattern.initialFlags (referenceParts subtype) =
      some (referenceExpression subtype, TextPattern.initialFlags) := by
    rw [referenceParts, allOf?_boundary_cons]
    cases irregular : irregularPlural? subtype with
    | none =>
      simp [referenceExpression, irregular, allOf?_literals]
    | some plural =>
      simp [referenceExpression, irregular, Expr.allOf?, regex?_choice, Regex.andThen_empty]
  exact regex?_of_parse? (parse?_subtypeReference subtype) expression

/-! ## What the searches match -/

/-- The part is the word, when case is ignored. -/
def SpelledAs (word part : List Char) : Prop :=
  List.Forall₂ (fun c d => sameFold c d = true) word part

/-- A literal means the characters that are the same as its own when case is ignored. -/
theorem contains_caseless (c d : Char) : (caseless c).contains d.toNat = sameFold c d := by
  rw [caseless, CharSet.contains_ofCodePoints, Bool.eq_iff_iff, contains_foldOrbit_iff, sameFold,
    beq_iff_eq]

/-- A word is spelled as itself. -/
theorem SpelledAs.refl (word : List Char) : SpelledAs word word :=
  List.forall₂_same.2 fun _ _ => BEq.rfl

/-- The expression of a text matches the text in any case, and then what follows it. -/
theorem matches_caselessText_iff {word before part after : List Char} {rest : Regex} :
    (caselessText word rest).Matches before part after ↔
      ∃ spelled tail, part = spelled ++ tail ∧ SpelledAs word spelled ∧
        rest.Matches (before ++ spelled) tail after := by
  induction word generalizing before part with
  | nil =>
    constructor
    · intro found
      refine ⟨[], part, rfl, .nil, ?_⟩
      rw [List.append_nil]
      exact found
    · rintro ⟨spelled, tail, rfl, same, found⟩
      obtain rfl := List.forall₂_nil_left_iff.1 same
      rw [List.append_nil] at found
      exact found
  | cons c word ih =>
    have unfolded : (caselessText (c :: word) rest).Matches before part after ↔
        (Regex.seq (.set (caseless c)) (caselessText word rest)).Matches before part after :=
      Regex.matches_andThen_iff
    rw [unfolded, Regex.matches_seq_iff]
    constructor
    · rintro ⟨head, tail, rfl, first, later⟩
      obtain ⟨d, rfl, member⟩ := Regex.matches_set_iff.1 first
      obtain ⟨spelled, more, rfl, same, found⟩ := ih.1 later
      rw [contains_caseless] at member
      refine ⟨d :: spelled, more, rfl, .cons member same, ?_⟩
      rwa [List.append_assoc] at found
    · rintro ⟨spelled, tail, rfl, same, found⟩
      obtain ⟨d, others, member, later, rfl⟩ := List.forall₂_cons_left_iff.1 same
      rw [← contains_caseless] at member
      refine ⟨[d], others ++ tail, rfl, Regex.matches_set_iff.2 ⟨d, rfl, member⟩, ih.2 ?_⟩
      refine ⟨others, tail, rfl, later, ?_⟩
      rwa [List.append_assoc]

/-- Between the two texts there is a word boundary. -/
def AtBoundary (before after : List Char) : Prop :=
  isWord false before.getLast? ≠ isWord false after.head?

/-- The boundary of a word is matched where there is one. -/
theorem matches_wordBoundary_iff {before part after : List Char} :
    wordBoundary.Matches before part after ↔ part = [] ∧ AtBoundary before after := by
  rw [wordBoundary, Regex.matches_look_iff, Look.test, bne_iff_ne, AtBoundary]

/-- An expression behind a word boundary matches in a text where it matches a part that begins at
one. -/
theorem matchesIn_boundary_iff {r : Regex} {text : List Char} :
    (wordBoundary.andThen r).matchesIn text = true ↔
      ∃ before part after, text = before ++ part ++ after ∧ AtBoundary before (part ++ after) ∧
        r.Matches before part after := by
  rw [Regex.matchesIn_iff_exists_matches]
  refine exists_congr fun before => exists_congr fun part => exists_congr fun after =>
    and_congr_right fun _ => ?_
  rw [Regex.matches_andThen_iff, Regex.matches_seq_iff]
  constructor
  · rintro ⟨head, tail, rfl, opened, found⟩
    obtain ⟨rfl, boundary⟩ := matches_wordBoundary_iff.1 opened
    rw [List.append_nil] at found
    exact ⟨boundary, found⟩
  · rintro ⟨boundary, found⟩
    refine ⟨[], part, rfl, matches_wordBoundary_iff.2 ⟨rfl, boundary⟩, ?_⟩
    rwa [List.append_nil]

/-- The search for a word of its own matches where the word stands, in any case, between two word
boundaries. -/
theorem matchesIn_exactExpression_iff {word text : List Char} :
    (exactExpression word).matchesIn text = true ↔
      ∃ before spelled after, text = before ++ spelled ++ after ∧ SpelledAs word spelled ∧
        AtBoundary before (spelled ++ after) ∧ AtBoundary (before ++ spelled) after := by
  rw [exactExpression, matchesIn_boundary_iff]
  constructor
  · rintro ⟨before, part, after, rfl, first, found⟩
    obtain ⟨spelled, tail, rfl, same, closed⟩ := matches_caselessText_iff.1 found
    obtain ⟨rfl, last⟩ := matches_wordBoundary_iff.1 closed
    rw [List.append_nil] at first ⊢
    exact ⟨before, spelled, after, rfl, same, first, last⟩
  · rintro ⟨before, spelled, after, rfl, same, first, last⟩
    refine ⟨before, spelled, after, rfl, first, matches_caselessText_iff.2 ?_⟩
    exact ⟨spelled, [], (List.append_nil _).symm, same, matches_wordBoundary_iff.2 ⟨rfl, last⟩⟩

/-- The expression of a text by itself matches the text in any case. -/
theorem matches_caselessText_empty_iff {word before part after : List Char} :
    (caselessText word .empty).Matches before part after ↔ SpelledAs word part := by
  rw [matches_caselessText_iff]
  constructor
  · rintro ⟨spelled, tail, rfl, same, none⟩
    obtain rfl := Regex.matches_empty_iff.1 none
    rwa [List.append_nil]
  · intro same
    exact ⟨part, [], (List.append_nil part).symm, same, Regex.matches_empty_iff.2 rfl⟩

/-- The search in rules text matches where the creature type, or its irregular plural, stands in
any case behind a word boundary. -/
theorem matchesIn_referenceExpression_iff {subtype : String} {text : List Char} :
    (referenceExpression subtype).matchesIn text = true ↔
      ∃ before spelled after, text = before ++ spelled ++ after ∧
        AtBoundary before (spelled ++ after) ∧
        (SpelledAs subtype.toList spelled ∨
          ∃ plural, irregularPlural? subtype = some plural ∧ SpelledAs plural.toList spelled) := by
  rw [referenceExpression, matchesIn_boundary_iff]
  refine exists_congr fun before => exists_congr fun part => exists_congr fun after =>
    and_congr_right fun _ => and_congr_right fun _ => ?_
  cases irregularPlural? subtype with
  | none => simp [matches_caselessText_empty_iff]
  | some plural => simp [Regex.matches_alt_iff, matches_caselessText_empty_iff]

/-! ## Words of texts and type lines -/

/-- The word stands in the text, with no word character right beside it. -/
def StandsAlone (word text : List Char) : Prop :=
  ∃ before after, text = before ++ word ++ after ∧
    isWord false before.getLast? = false ∧ isWord false after.head? = false

/-- A text that ends with a blank, or is empty, ends with no word character. -/
theorem isWord_eq_false_of_blank {c? : Option Char}
    (blank : ∀ c, c? = some c → isBlank c = true) : isWord false c? = false := by
  cases c? with
  | none => rfl
  | some c => exact isWordChar_of_isBlank (blank c rfl) false

/-- A word of a text stands alone in it. -/
theorem standsAlone_of_mem_words {text run : List Char} (mem : run ∈ words text) :
    StandsAlone run text := by
  obtain ⟨before, after, split, left, right⟩ := exists_split_of_mem_wordsFrom mem
  exact ⟨before, after, split, isWord_eq_false_of_blank left, isWord_eq_false_of_blank right⟩

/-- A long dash is no word character. -/
theorem isWordChar_dash : isWordChar false '—' = false := by decide +kernel

/-- Before the right side of a type line, if it is not empty, stands no word character. -/
theorem exists_left_side (line : List Char) :
    (TypeLine.sides line).2 = [] ∨ ∃ left, line = left ++ (TypeLine.sides line).2 ∧
      isWord false left.getLast? = false := by
  have ends (left separator : List Char) {c : Char} (last : separator.getLast? = some c)
      (other : isWordChar false c = false) :
      isWord false (left ++ separator).getLast? = false := by
    rw [List.getLast?_append, last]
    exact other
  rw [TypeLine.sides]
  split
  · rename_i parts found
    have joined := TypeLine.eq_append_of_cutFrom found
    exact .inr ⟨_, joined, ends _ _ rfl isWordChar_dash⟩
  · split
    · rename_i parts found
      have joined := TypeLine.eq_append_of_cutFrom found
      exact .inr ⟨_, joined, ends _ _ rfl (isWordChar_of_isBlank (by decide) false)⟩
    · exact .inl rfl

/-- A word of a text is one of its runs. -/
theorem toList_mem_words {word : String} {text : List Char} (mem : word ∈ TypeLine.wordsOf text) :
    word.toList ∈ words text := by
  obtain ⟨run, mem, rfl⟩ := List.mem_map.1 mem
  rwa [String.toList_ofList]

/-- A subtype is a word of the right side of its type line. -/
theorem toList_mem_words_of_mem_subtypes {subtype line : String}
    (listed : subtype ∈ (TypeLine.split line).2) :
    subtype.toList ∈ words (TypeLine.sides line.toList).2 :=
  toList_mem_words listed

/-- A subtype stands alone on its type line. -/
theorem standsAlone_of_mem_subtypes {subtype line : String}
    (listed : subtype ∈ (TypeLine.split line).2) :
    StandsAlone subtype.toList line.toList := by
  have mem := toList_mem_words_of_mem_subtypes listed
  obtain ⟨before, after, split, left, right⟩ := standsAlone_of_mem_words mem
  rcases exists_left_side line.toList with none | ⟨start, joined, open_⟩
  · rw [none] at mem
    exact absurd mem List.not_mem_nil
  · refine ⟨start ++ before, after, ?_, ?_, right⟩
    · rw [joined, split]
      simp only [List.append_assoc]
    · rw [List.getLast?_append]
      cases ending : before.getLast? with
      | none => exact open_
      | some c =>
        rw [ending] at left
        exact left

/-- Behind a long dash, a run without blanks is the only subtype. -/
theorem mem_subtypes_of_dash {subtype : String} (nonempty : subtype.toList ≠ [])
    (bare : ∀ c ∈ subtype.toList, isBlank c = false) :
    subtype ∈ (TypeLine.split (String.ofList ('—' :: subtype.toList))).2 := by
  have right : (TypeLine.sides ('—' :: subtype.toList)).2 = subtype.toList := rfl
  rw [TypeLine.split, String.toList_ofList]
  simp only [right, TypeLine.wordsOf, words_of_bare nonempty bare, List.map_cons, List.map_nil,
    String.ofList_toList, List.mem_singleton]

/-! ## Which searches find every mention -/

/-- A letter is a word character. -/
theorem isWordChar_of_isAlpha {c : Char} (letter : c.isAlpha = true) :
    isWordChar false c = true := by
  have bounds : 0x41 ≤ c.toNat ∧ c.toNat ≤ 0x5A ∨ 0x61 ≤ c.toNat ∧ c.toNat ≤ 0x7A := by
    rcases Bool.or_eq_true_iff.1 letter with upper | lower
    · have inside := of_decide_eq_true upper
      exact .inl ⟨UInt32.le_iff_toNat_le.1 inside.1, UInt32.le_iff_toNat_le.1 inside.2⟩
    · obtain ⟨low, high⟩ := Bool.and_eq_true_iff.1 lower
      exact .inr ⟨UInt32.le_iff_toNat_le.1 (of_decide_eq_true low),
        UInt32.le_iff_toNat_le.1 (of_decide_eq_true high)⟩
  apply contains_wordCharacters_of_asciiWord
  rw [asciiWord_eq, CharSet.contains_ofIntervals]
  simp only [List.any_cons, List.any_nil, Bool.or_eq_true, Interval.contains_iff]
  omega

/-- A character whose lower-case form is a letter is a letter. -/
theorem isAlpha_of_isLower_toLower {c : Char} (lower : c.toLower.isLower = true) :
    c.isAlpha = true := by
  show (c.isUpper || c.isLower) = true
  rw [Bool.or_eq_true]
  by_cases upper : c.isUpper = true
  · exact .inl upper
  · right
    have stays : c.toLower = c := dif_neg fun inside => upper (decide_eq_true inside)
    rwa [stays] at lower

/-- A creature type with an irregular plural begins with a letter. -/
theorem isWord_head?_of_irregular {subtype plural : String}
    (irregular : irregularPlural? subtype = some plural) :
    isWord false subtype.toList.head? = true := by
  have initials : ∀ entry ∈ irregularPlurals,
      (entry.1.toList.map Char.toLower).head?.any Char.isLower = true := by decide
  obtain ⟨entry, found, -⟩ := Option.map_eq_some_iff.1 irregular
  have same := List.find?_some found
  have initial := initials entry (List.mem_of_find?_eq_some found)
  rw [Text.equalIgnoringCase, beq_iff_eq] at same
  rw [same, List.head?_map] at initial
  cases first : subtype.toList.head? with
  | none =>
    rw [first] at initial
    exact Bool.noConfusion initial
  | some c =>
    rw [first] at initial
    exact isWordChar_of_isAlpha (isAlpha_of_isLower_toLower initial)

/-- A word that begins and ends with word characters is found wherever it stands alone. -/
theorem matchesIn_exactExpression_of_standsAlone {word text : List Char}
    (first : isWord false word.head? = true) (last : isWord false word.getLast? = true)
    (stands : StandsAlone word text) : (exactExpression word).matchesIn text = true := by
  obtain ⟨before, after, rfl, left, right⟩ := stands
  have nonempty : word ≠ [] := by
    rintro rfl
    exact Bool.noConfusion first
  refine matchesIn_exactExpression_iff.2 ⟨before, word, after, rfl, .refl word, ?_, ?_⟩
  · rw [AtBoundary, left, List.head?_append_of_ne_nil _ nonempty, first]
    exact Bool.false_ne_true
  · rw [AtBoundary, right, List.getLast?_append_of_ne_nil _ nonempty, last]
    exact Bool.false_ne_true.symm

/-- A creature type that begins with a word character is found wherever it stands alone. -/
theorem matchesIn_referenceExpression_of_standsAlone {subtype : String} {text : List Char}
    (first : isWord false subtype.toList.head? = true)
    (stands : StandsAlone subtype.toList text) :
    (referenceExpression subtype).matchesIn text = true := by
  obtain ⟨before, after, rfl, left, -⟩ := stands
  have nonempty : subtype.toList ≠ [] := by
    intro none
    rw [none] at first
    exact Bool.noConfusion first
  refine matchesIn_referenceExpression_iff.2 ⟨before, _, after, rfl, ?_, .inl (.refl _)⟩
  rw [AtBoundary, left, List.head?_append_of_ne_nil _ nonempty, first]
  exact Bool.false_ne_true

/-- Behind a long dash a word is found only if it begins and ends with word characters. -/
theorem ends_of_matchesIn_exactExpression_dash {word : List Char} (nonempty : word ≠ [])
    (found : (exactExpression word).matchesIn ('—' :: word) = true) :
    isWord false word.head? = true ∧ isWord false word.getLast? = true := by
  have dash : isWord false (some '—') = false := by
    rw [isWord, Option.any_some]
    exact isWordChar_dash
  obtain ⟨before, spelled, after, split, same, first, last⟩ :=
    matchesIn_exactExpression_iff.1 found
  have size := congrArg List.length split
  have long := same.length_eq
  simp only [List.length_cons, List.length_append] at size
  cases before with
  | nil =>
    rw [List.nil_append] at split
    rw [AtBoundary, ← split] at first
    exact absurd dash.symm first
  | cons c before =>
    rw [List.length_cons] at size
    obtain rfl : before = [] := List.length_eq_zero_iff.1 (by omega)
    obtain rfl : after = [] := List.length_eq_zero_iff.1 (by omega)
    rw [List.append_nil, List.singleton_append, List.cons.injEq] at split
    obtain ⟨rfl, rfl⟩ := split
    rw [AtBoundary, List.append_nil] at first
    rw [AtBoundary, List.getLast?_append_of_ne_nil _ nonempty] at last
    exact ⟨by simpa [dash] using first, by simpa [isWord] using last⟩

/-- A word by itself is found as the beginning of a word only if it begins with a word character.
-/
theorem isWord_head?_of_matchesIn_referenceExpression {subtype : String}
    (found : (referenceExpression subtype).matchesIn subtype.toList = true) :
    isWord false subtype.toList.head? = true := by
  obtain ⟨before, spelled, after, split, boundary, same | ⟨plural, irregular, -⟩⟩ :=
    matchesIn_referenceExpression_iff.1 found
  · have size := congrArg List.length split
    have long := same.length_eq
    simp only [List.length_append] at size
    obtain rfl : before = [] := List.length_eq_zero_iff.1 (by omega)
    obtain rfl : after = [] := List.length_eq_zero_iff.1 (by omega)
    rw [List.append_nil, List.nil_append] at split
    rw [AtBoundary, List.append_nil, ← split] at boundary
    simpa [isWord] using boundary
  · exact isWord_head?_of_irregular irregular

/-- A creature type is found on every type line that lists it exactly if it begins and ends with
word characters, and in every text that has it as a word exactly if it begins with one. -/
theorem finds_every_mention_iff {line subtype : String}
    (listed : subtype ∈ (TypeLine.split line).2)
    (exactly : (TextPattern.compile (subtypeExact subtype)).isLiteral = false)
    (reference : (TextPattern.compile (subtypeReference subtype)).isLiteral = false) :
    ((∀ other : String, subtype ∈ (TypeLine.split other).2 →
        (TextPattern.compile (subtypeExact subtype)).isMatch other = true) ↔
      isWord false subtype.toList.head? = true ∧ isWord false subtype.toList.getLast? = true) ∧
    ((∀ text : String, subtype ∈ TypeLine.wordsOf text.toList →
        (TextPattern.compile (subtypeReference subtype)).isMatch text = true) ↔
      isWord false subtype.toList.head? = true) := by
  rw [compile_of_not_isLiteral (regex?_subtypeExact subtype) exactly,
    compile_of_not_isLiteral (regex?_subtypeReference subtype) reference]
  simp only [TextPattern.isMatch]
  obtain ⟨nonempty, bare⟩ := bare_of_mem_words (toList_mem_words_of_mem_subtypes listed)
  refine ⟨⟨?_, ?_⟩, ?_, ?_⟩
  · intro everywhere
    have found := everywhere _ (mem_subtypes_of_dash nonempty bare)
    rw [String.toList_ofList] at found
    exact ends_of_matchesIn_exactExpression_dash nonempty found
  · rintro ⟨first, last⟩ other mem
    exact matchesIn_exactExpression_of_standsAlone first last (standsAlone_of_mem_subtypes mem)
  · intro everywhere
    have alone : subtype ∈ TypeLine.wordsOf subtype.toList := by
      rw [TypeLine.wordsOf, words_of_bare nonempty bare]
      simp
    exact isWord_head?_of_matchesIn_referenceExpression (everywhere subtype alone)
  · intro first text mem
    exact matchesIn_referenceExpression_of_standsAlone first
      (standsAlone_of_mem_words (toList_mem_words mem))

/-- A type line with one face. -/
theorem finds_every_mention_iff_of_elf :
    "Elf" ∈ (TypeLine.split "Creature — Elf Druid").2 ∧
      ((∀ other : String, "Elf" ∈ (TypeLine.split other).2 →
          (TextPattern.compile (subtypeExact "Elf")).isMatch other = true) ↔
        isWord false "Elf".toList.head? = true ∧ isWord false "Elf".toList.getLast? = true) ∧
      ((∀ text : String, "Elf" ∈ TypeLine.wordsOf text.toList →
          (TextPattern.compile (subtypeReference "Elf")).isMatch text = true) ↔
        isWord false "Elf".toList.head? = true) := by
  have listed : "Elf" ∈ (TypeLine.split "Creature — Elf Druid").2 := by decide +kernel
  have exactFits : (exactExpression "Elf".toList).fits = true := by
    simp only [exactExpression, caselessText, caseless, CharSet.ofCodePoints_eq_foldr]
    decide +kernel
  have referenceFits : (referenceExpression "Elf").fits = true := by
    simp only [referenceExpression, caselessText, caseless, CharSet.ofCodePoints_eq_foldr]
    decide +kernel
  have exactly : (TextPattern.compile (subtypeExact "Elf")).isLiteral = false := by
    rw [compile_of_fits (regex?_subtypeExact "Elf") exactFits]
    rfl
  have reference : (TextPattern.compile (subtypeReference "Elf")).isLiteral = false := by
    rw [compile_of_fits (regex?_subtypeReference "Elf") referenceFits]
    rfl
  exact ⟨listed, finds_every_mention_iff listed exactly reference⟩

/-- The slashes between the faces of a card are a subtype, and a word of the type line. Neither
search finds them. -/
theorem slashes_are_missed :
    "//" ∈ (TypeLine.split "Creature — Human // Creature — Werewolf").2 ∧
      (TextPattern.compile (subtypeExact "//")).isLiteral = false ∧
      (TextPattern.compile (subtypeExact "//")).isMatch
        "Creature — Human // Creature — Werewolf" = false ∧
      "//" ∈ TypeLine.wordsOf "Creature — Human // Creature — Werewolf".toList ∧
      (TextPattern.compile (subtypeReference "//")).isLiteral = false ∧
      (TextPattern.compile (subtypeReference "//")).isMatch
        "Creature — Human // Creature — Werewolf" = false := by
  decide +kernel

end Deckwright.Pattern
