import Deckwright.Proofs.Pattern.LiteralSearch
import Deckwright.Proofs.Pattern.Spans

/-!
# Searches in joined texts

Texts are joined by blanks and searched as one. A pattern that avoids the blank, because it has no
place for it and asks for no positions but those of words, finds nothing that goes across a seam. In
each of the texts it finds what it finds there by itself, since next to a word the blank counts as
little as the end of a text does. So it occurs in the joined text exactly if it occurs in one of the
texts. Other patterns may find more at a seam, or less.
-/

namespace Deckwright

open Unicode

namespace Pattern

/-! ## Blanks and words -/

/-- The word characters among the ASCII characters are digits, letters and the underscore. -/
theorem asciiWord_eq :
    asciiWord = .ofIntervals [⟨0x30, 0x39⟩, ⟨0x41, 0x5A⟩, ⟨0x5F, 0x5F⟩, ⟨0x61, 0x7A⟩] := rfl

/-- A word character among the ASCII characters is one among all. -/
theorem contains_wordCharacters_of_asciiWord {n : Nat} (word : asciiWord.contains n = true) :
    wordCharacters.contains n = true := by
  obtain ⟨later, all⟩ : ∃ later, wordCharacters.intervals =
      [⟨0x30, 0x39⟩, ⟨0x41, 0x5A⟩, ⟨0x5F, 0x5F⟩, ⟨0x61, 0x7A⟩] ++ later := ⟨_, rfl⟩
  rw [asciiWord_eq, CharSet.contains_ofIntervals] at word
  rw [CharSet.contains_eq_any, all, List.any_append, word, Bool.true_or]

/-- No blank is a word character. -/
theorem isWordChar_of_isBlank {c : Char} (blank : isBlank c = true) (ascii : Bool) :
    isWordChar ascii c = false := by
  have none : ∀ i ∈ blanks.intervals, ∀ k ∈ List.range (i.last + 1 - i.first),
      wordCharacters.contains (i.first + k) = false := by
    decide +kernel
  have other : wordCharacters.contains c.toNat = false := by
    rw [isBlank, CharSet.contains_eq_any] at blank
    obtain ⟨i, listed, inside⟩ := List.any_eq_true.1 blank
    obtain ⟨low, high⟩ := (i.contains_iff c.toNat).1 inside
    have here := none i listed (c.toNat - i.first) (List.mem_range.2 (by omega))
    rwa [Nat.add_sub_cancel' low] at here
  cases ascii with
  | false => exact other
  | true =>
    rw [isWordChar, if_pos rfl, Bool.eq_false_iff]
    intro word
    rw [contains_wordCharacters_of_asciiWord word] at other
    exact Bool.noConfusion other

/-! ## Regular expressions -/

/-- The position is one of words: it depends on the word characters beside it alone. -/
def Look.isOfWords : Look → Bool
  | .boundary _ => true
  | .notBoundary _ => true
  | .wordStart _ => true
  | .wordEnd _ => true
  | .wordStartHalf _ => true
  | .wordEndHalf _ => true
  | _ => false

/-- A position of words does not tell neighbours apart that are no word characters. -/
theorem Look.test_congr {l : Look} (ofWords : l.isOfWords = true)
    {before after before' after' : Option Char}
    (sameBefore : ∀ ascii, isWord ascii before = isWord ascii before')
    (sameAfter : ∀ ascii, isWord ascii after = isWord ascii after') :
    l.test before after = l.test before' after' := by
  cases l with
  | boundary ascii => rw [test, test, sameBefore, sameAfter]
  | notBoundary ascii => rw [test, test, sameBefore, sameAfter]
  | wordStart ascii => rw [test, test, sameBefore, sameAfter]
  | wordEnd ascii => rw [test, test, sameBefore, sameAfter]
  | wordStartHalf ascii => rw [test, test, sameBefore]
  | wordEndHalf ascii => rw [test, test, sameAfter]
  | _ => exact absurd ofWords Bool.false_ne_true

/-- The expression has no place for a character, and asks for no positions but those of words. -/
def Regex.avoids (c : Char) : Regex → Bool
  | .empty => true
  | .set s => !s.contains c.toNat
  | .look l => l.isOfWords
  | .capture body => body.avoids c
  | .seq first second => first.avoids c && second.avoids c
  | .alt left right => left.avoids c && right.avoids c
  | .repetition _ _ body => body.avoids c

/-- A part of a text begins at an offset, and nothing but a given character stands next to it on
either side. -/
structure Pane (c : Char) (part text : List Char) (offset : Nat) : Prop where
  /-- The part stands there. -/
  inside : ∀ i < part.length, text[offset + i]? = part[i]?
  /-- The character is before it, or nothing. -/
  before : ∀ d, charBefore text offset = some d → d = c
  /-- The character is after it, or nothing. -/
  after : ∀ d, text[offset + part.length]? = some d → d = c
  /-- It ends within the text. -/
  within : offset + part.length ≤ text.length

namespace Pane

variable {c : Char} {part text : List Char} {offset : Nat}

/-- The first of two joined texts. -/
theorem first (c : Char) (first second : List Char) : Pane c first (first ++ c :: second) 0 where
  inside i inside := by rw [Nat.zero_add, List.getElem?_append_left inside]
  before d found := nomatch found
  after d found := by
    rw [Nat.zero_add, List.getElem?_append_right (Nat.le_refl _), Nat.sub_self] at found
    exact (Option.some.inj found).symm
  within := by simp

/-- The second of two joined texts. -/
theorem second (c : Char) (first second : List Char) :
    Pane c second (first ++ c :: second) (first.length + 1) where
  inside i _ := by
    rw [List.getElem?_append_right (by omega),
      show first.length + 1 + i - first.length = i + 1 by omega, List.getElem?_cons_succ]
  before d found := by
    rw [charBefore, if_neg (Nat.succ_ne_zero _), Nat.add_sub_cancel,
      List.getElem?_append_right (Nat.le_refl _), Nat.sub_self] at found
    exact (Option.some.inj found).symm
  after d found := by
    rw [List.getElem?_eq_none (by simp; omega)] at found
    exact absurd found.symm (Option.some_ne_none d)
  within := by simp; omega

/-- Word characters stand before the same positions in the text as in the part. -/
theorem isWord_before (pane : Pane c part text offset) (blank : isBlank c = true) {i : Nat}
    (within : i ≤ part.length) (ascii : Bool) :
    isWord ascii (charBefore text (offset + i)) = isWord ascii (charBefore part i) := by
  cases i with
  | zero =>
    have none : isWord ascii (charBefore part 0) = false := rfl
    rw [none, isWord, Bool.eq_false_iff, ne_eq, Option.any_eq_true]
    rintro ⟨d, found, word⟩
    rw [pane.before d found, isWordChar_of_isBlank blank] at word
    exact Bool.noConfusion word
  | succ i =>
    rw [charBefore, charBefore, if_neg (by omega), if_neg (by omega), ← Nat.add_assoc,
      Nat.add_sub_cancel, Nat.add_sub_cancel, pane.inside i within]

/-- Word characters stand after the same positions in the text as in the part. -/
theorem isWord_after (pane : Pane c part text offset) (blank : isBlank c = true) {i : Nat}
    (within : i ≤ part.length) (ascii : Bool) :
    isWord ascii text[offset + i]? = isWord ascii part[i]? := by
  rcases Nat.lt_or_eq_of_le within with here | rfl
  · rw [pane.inside i here]
  · have none : isWord ascii part[part.length]? = false := by
      rw [List.getElem?_eq_none (Nat.le_refl _)]
      rfl
    rw [none, isWord, Bool.eq_false_iff, ne_eq, Option.any_eq_true]
    rintro ⟨d, found, word⟩
    rw [pane.after d found, isWordChar_of_isBlank blank] at word
    exact Bool.noConfusion word

/-- If each step from a position of the part leads to the same positions in the text as in the part,
so do several steps in a row. -/
theorem copies_iff {step inner : Nat → Nat → Prop}
    (stays : ∀ i j, inner i j → i ≤ part.length → j ≤ part.length)
    (same : ∀ i ≤ part.length, ∀ k, step (offset + i) k ↔ ∃ j, k = offset + j ∧ inner i j)
    (count : Nat) {i : Nat} (within : i ≤ part.length) (k : Nat) :
    Copies step count (offset + i) k ↔ ∃ j, k = offset + j ∧ Copies inner count i j := by
  induction count generalizing i with
  | zero =>
    constructor
    · rintro rfl
      exact ⟨i, rfl, rfl⟩
    · rintro ⟨_, rfl, rfl⟩
      rfl
  | succ count ih =>
    constructor
    · rintro ⟨m, head, tail⟩
      obtain ⟨l, rfl, innerHead⟩ := (same i within m).1 head
      obtain ⟨j, rfl, innerTail⟩ := (ih (stays i l innerHead within)).1 tail
      exact ⟨j, rfl, l, innerHead, innerTail⟩
    · rintro ⟨j, rfl, l, innerHead, innerTail⟩
      exact ⟨offset + l, (same i within _).2 ⟨l, rfl, innerHead⟩,
        (ih (stays i l innerHead within)).2 ⟨j, rfl, innerTail⟩⟩

/-- From the positions of the part, an expression that avoids the character beside it matches the
same parts in the text as in the part. -/
theorem spans_iff (pane : Pane c part text offset) (blank : isBlank c = true) {r : Regex}
    (avoids : r.avoids c = true) {i : Nat} (within : i ≤ part.length) (k : Nat) :
    r.Spans text (offset + i) k ↔ ∃ j, k = offset + j ∧ r.Spans part i j := by
  have stays (r : Regex) (i j : Nat) (spans : r.Spans part i j) (within : i ≤ part.length) :
      j ≤ part.length := by
    have := spans.bounds
    omega
  induction r generalizing i k with
  | empty =>
    constructor
    · rintro rfl
      exact ⟨i, rfl, rfl⟩
    · rintro ⟨_, rfl, rfl⟩
      rfl
  | set s =>
    constructor
    · rintro ⟨⟨d, there, member⟩, rfl⟩
      rcases Nat.lt_or_eq_of_le within with here | rfl
      · exact ⟨i + 1, Nat.add_assoc .., ⟨d, pane.inside i here ▸ there, member⟩, rfl⟩
      · rw [pane.after d there] at member
        rw [Regex.avoids, member] at avoids
        exact Bool.noConfusion avoids
    · rintro ⟨_, rfl, ⟨d, there, member⟩, rfl⟩
      obtain ⟨here, -⟩ := List.getElem?_eq_some_iff.1 there
      exact ⟨⟨d, (pane.inside i here).trans there, member⟩, Nat.add_assoc ..⟩
  | look l =>
    have same := Look.test_congr avoids (pane.isWord_before blank within)
      (pane.isWord_after blank within)
    have inText : offset + i ≤ text.length :=
      Nat.le_trans (Nat.add_le_add_left within offset) pane.within
    constructor
    · rintro ⟨⟨-, place⟩, rfl⟩
      exact ⟨i, rfl, ⟨within, same ▸ place⟩, rfl⟩
    · rintro ⟨_, rfl, ⟨-, place⟩, rfl⟩
      exact ⟨⟨inText, same ▸ place⟩, rfl⟩
  | capture body ih => exact ih avoids within k
  | seq first second ihFirst ihSecond =>
    obtain ⟨avoidsFirst, avoidsSecond⟩ := (Bool.and_eq_true _ _).mp avoids
    constructor
    · rintro ⟨m, head, tail⟩
      obtain ⟨l, rfl, innerHead⟩ := (ihFirst avoidsFirst within m).1 head
      obtain ⟨j, rfl, innerTail⟩ :=
        (ihSecond avoidsSecond (stays first i l innerHead within) k).1 tail
      exact ⟨j, rfl, l, innerHead, innerTail⟩
    · rintro ⟨j, rfl, l, innerHead, innerTail⟩
      exact ⟨offset + l, (ihFirst avoidsFirst within _).2 ⟨l, rfl, innerHead⟩,
        (ihSecond avoidsSecond (stays first i l innerHead within) _).2 ⟨j, rfl, innerTail⟩⟩
  | alt left right ihLeft ihRight =>
    obtain ⟨avoidsLeft, avoidsRight⟩ := (Bool.and_eq_true _ _).mp avoids
    constructor
    · rintro (spans | spans)
      · obtain ⟨j, rfl, inner⟩ := (ihLeft avoidsLeft within k).1 spans
        exact ⟨j, rfl, .inl inner⟩
      · obtain ⟨j, rfl, inner⟩ := (ihRight avoidsRight within k).1 spans
        exact ⟨j, rfl, .inr inner⟩
    · rintro ⟨j, rfl, inner | inner⟩
      · exact .inl ((ihLeft avoidsLeft within _).2 ⟨j, rfl, inner⟩)
      · exact .inr ((ihRight avoidsRight within _).2 ⟨j, rfl, inner⟩)
  | repetition min max? body ih =>
    have copies (extra : Nat) := copies_iff (fun i j => stays body i j)
      (fun i within k => ih avoids within k) (min + extra) within k
    constructor
    · rintro ⟨extra, few, all⟩
      obtain ⟨j, rfl, inner⟩ := (copies extra).1 all
      exact ⟨j, rfl, extra, few, inner⟩
    · rintro ⟨j, rfl, extra, few, inner⟩
      exact ⟨extra, few, (copies extra).2 ⟨j, rfl, inner⟩⟩

end Pane

/-- An expression that avoids a blank matches in two texts joined by it if it matches in one of
them. -/
theorem Regex.matchesIn_append_cons {r : Regex} {c : Char} (avoids : r.avoids c = true)
    (blank : isBlank c = true) (first second : List Char) :
    r.matchesIn (first ++ c :: second) = (r.matchesIn first || r.matchesIn second) := by
  have inFirst := Pane.first c first second
  have inSecond := Pane.second c first second
  rw [Bool.eq_iff_iff, Bool.or_eq_true, matchesIn_iff, matchesIn_iff, matchesIn_iff]
  constructor
  · rintro ⟨i, k, within, spans⟩
    rw [List.length_append, List.length_cons] at within
    by_cases early : i ≤ first.length
    · rw [← Nat.zero_add i, inFirst.spans_iff blank avoids early] at spans
      obtain ⟨j, -, inner⟩ := spans
      exact .inl ⟨i, j, early, inner⟩
    · obtain ⟨l, rfl⟩ : ∃ l, i = first.length + 1 + l := ⟨i - (first.length + 1), by omega⟩
      rw [inSecond.spans_iff blank avoids (by omega)] at spans
      obtain ⟨j, -, inner⟩ := spans
      exact .inr ⟨l, j, by omega, inner⟩
  · rintro (⟨i, j, within, inner⟩ | ⟨i, j, within, inner⟩)
    · exact ⟨0 + i, 0 + j, by simp; omega,
        (inFirst.spans_iff blank avoids within _).2 ⟨j, rfl, inner⟩⟩
    · exact ⟨_, _, by simp; omega,
        (inSecond.spans_iff blank avoids within _).2 ⟨j, rfl, inner⟩⟩

end Pattern

/-! ## Literal texts -/

/-- A text occurs in two texts joined by a character that it does not have if it occurs in one of
them. -/
theorem Text.occursIn_append_cons {part : List Char} {c : Char} (absent : c ∉ part)
    (first second : List Char) :
    occursIn part (first ++ c :: second) = (occursIn part first || occursIn part second) := by
  rw [Bool.eq_iff_iff, Bool.or_eq_true, occursIn_iff, occursIn_iff, occursIn_iff]
  constructor
  · rintro ⟨before, after, split⟩
    rcases List.append_eq_append_iff.1 split with ⟨late, ends, tail⟩ | ⟨early, rfl, tail⟩
    · -- What the part and the text before it have beyond the first text begins with the character.
      cases late with
      | nil =>
        rw [List.append_nil] at ends
        exact .inl ⟨before, [], by rw [← ends, List.append_nil]⟩
      | cons d late =>
        obtain ⟨rfl, rfl⟩ := List.cons.inj tail
        rcases List.append_eq_append_iff.1 ends with ⟨more, -, rfl⟩ | ⟨more, rfl, rest⟩
        · simp at absent
        · cases more with
          | nil =>
            rw [List.nil_append] at rest
            exact absurd (rest ▸ List.mem_cons_self) absent
          | cons e more =>
            obtain ⟨-, rfl⟩ := List.cons.inj rest
            exact .inr ⟨more, after, rfl⟩
    · exact .inl ⟨before, early, rfl⟩
  · rintro (⟨before, after, rfl⟩ | ⟨before, after, rfl⟩)
    · exact ⟨before, after ++ c :: second, by simp⟩
    · exact ⟨first ++ c :: before, after, by simp⟩

/-- The character keeps apart the texts that it joins: it is a blank, and lower-casing leaves it
alone and does not look past it. -/
structure Separates (c : Char) : Prop where
  /-- It is a blank. -/
  blank : isBlank c = true
  /-- The texts on both sides are lower-cased by themselves. -/
  lower_append : ∀ first second, lower (first ++ c :: second) = lower first ++ c :: lower second

/-- A blank before the characters that casing looks for keeps texts apart. -/
theorem separates_of_lt {c : Char} (blank : isBlank c = true) (low : c.toNat < 0x27)
    (bare : ∀ before after, lowerWithin before after [c] = [c]) : Separates c where
  blank := blank
  lower_append first second := by
    rw [lower_append_cons (nextIsCased_cons_of_lt low), bare, List.append_assoc,
      List.singleton_append]

/-- A line feed keeps texts apart. -/
theorem separates_lineFeed : Separates '\n' :=
  separates_of_lt (by decide) (by decide) fun _ _ => rfl

/-- A space keeps texts apart. -/
theorem separates_space : Separates ' ' := separates_of_lt (by decide) (by decide) fun _ _ => rfl

/-! ## Patterns -/

namespace TextPattern

/-- The pattern has no place for a character, and asks for no positions but those of words. -/
def avoids (c : Char) : TextPattern → Bool
  | .regex _ expression => expression.avoids c
  | .literal lowered => !lowered.contains c

/-- A pattern that avoids a character occurs in two texts joined by it if it occurs in one of
them. -/
theorem isMatch_join {p : TextPattern} {c : Char} (avoids : p.avoids c = true)
    (separates : Separates c) (first second : String) :
    p.isMatch (first ++ String.singleton c ++ second) = (p.isMatch first || p.isMatch second) := by
  have joined : (first ++ String.singleton c ++ second).toList =
      first.toList ++ c :: second.toList := by simp
  cases p with
  | regex source expression =>
    rw [isMatch, isMatch, isMatch, joined]
    exact Pattern.Regex.matchesIn_append_cons avoids separates.blank _ _
  | literal lowered =>
    have absent : c ∉ lowered := by simpa [TextPattern.avoids] using avoids
    rw [isMatch, isMatch, isMatch, joined, separates.lower_append]
    exact Text.occursIn_append_cons absent _ _

/-- A pattern that avoids a character occurs in one or more texts joined by it if it occurs in one
of them. -/
theorem isMatch_intercalate {p : TextPattern} {c : Char} (avoids : p.avoids c = true)
    (separates : Separates c) {texts : List String} (some : texts ≠ []) :
    p.isMatch ((String.singleton c).intercalate texts) = texts.any p.isMatch := by
  induction texts with
  | nil => exact absurd rfl some
  | cons first rest ih =>
    cases rest with
    | nil => simp
    | cons second rest =>
      rw [String.intercalate_cons_cons, isMatch_join avoids separates, ih (List.cons_ne_nil _ _)]
      rfl

end TextPattern

end Deckwright
