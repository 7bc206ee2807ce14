import Deckwright.Proofs.Unicode.Blank
import Deckwright.Proofs.Unicode.CaseForms
import Deckwright.Proofs.Unicode.Lowercase

/-!
# Characters without case

A character without case is the lower-case form of itself and of nothing else. Whole intervals of
code points have no case because all runs of the lower-case table miss them; the blanks and the long
dash are such. A text in lower case has them where the text had them, so lower-casing a trimmed text
gives a trimmed text.
-/

namespace Deckwright.Unicode

/-! ## Intervals that case shifts miss -/

/-- The run has no member in the interval, and leads to none. -/
def CaseShift.misses (s : CaseShift) (i : Interval) : Bool :=
  (i.meet ⟨s.first, s.last⟩).isEmpty &&
    (i.meet ⟨s.target, s.target + (s.last - s.first)⟩).isEmpty

/-- Of an interval that a run misses, no code point is a member of the run or reached by it. -/
theorem CaseShift.not_covers_of_misses {s : CaseShift} {i : Interval} {c : Nat}
    (missed : s.misses i = true) (inside : i.contains c = true) :
    s.covers c = false ∧ s.reaches c = false := by
  simp only [misses, Interval.isEmpty, Bool.and_eq_true, decide_eq_true_eq] at missed
  simp only [Interval.meet] at missed
  rw [Interval.contains_iff] at inside
  simp only [covers, reaches, Bool.and_eq_false_iff, decide_eq_false_iff_not]
  omega

/-- Characters that lower-casing leads from or to in ways of its own, and the one that stands for
numbers that are no code points. -/
def irregularlyCased : List Char := ['İ', 'i', '\u0307', 'Σ', 'σ', 'ς', '\x00']

/-- The characters of the interval have no case: the lower-case table misses them, and they are
regular. -/
def Interval.isCaseless (i : Interval) : Bool :=
  (lowercaseShifts.all fun s => s.misses i) &&
    irregularlyCased.all fun c => !i.contains c.toNat

/-! ## Characters -/

/-- The character is the lower-case form of itself and of no other one, wherever it stands. -/
structure IsCaseless (c : Char) : Prop where
  /-- It is its own lower-case form. -/
  lowered : lowerChar c = [c]
  /-- It occurs in the lower-case form of no other character. -/
  eq_of_mem : ∀ d, c ∈ lowerChar d → d = c
  /-- It is no sigma. -/
  other : c ∉ ['Σ', 'σ', 'ς']

/-- The characters of a caseless interval have no case. -/
theorem isCaseless_of_contains {i : Interval} {c : Char} (caseless : i.isCaseless = true)
    (inside : i.contains c.toNat = true) : IsCaseless c := by
  rw [Interval.isCaseless, Bool.and_eq_true, List.all_eq_true, List.all_eq_true] at caseless
  obtain ⟨misses, regular⟩ := caseless
  have missed (s : CaseShift) (mem : s ∈ lowercaseShifts) :=
    CaseShift.not_covers_of_misses (misses s mem) inside
  have apart (d : Char) (mem : d ∈ irregularlyCased) : c ≠ d := by
    rintro rfl
    have outside := regular c mem
    rw [inside] at outside
    exact Bool.noConfusion outside
  have stays := CaseShift.shiftCodePoint_of_not_covers fun s mem => (missed s mem).1
  refine ⟨(isLowered_of_shiftCodePoint (apart 'İ' (by decide)) stays).2, ?_, ?_⟩
  · intro d mem
    by_cases dotted : d = 'İ'
    · rw [lowerChar, if_pos dotted, List.mem_pair] at mem
      rcases mem with same | same
      · exact absurd same (apart 'i' (by decide))
      · exact absurd same (apart '\u0307' (by decide))
    · rw [lowerChar, if_neg dotted, List.mem_singleton] at mem
      have image : c.toNat = shiftCodePoint d.toNat lowercaseShifts := by
        rcases toNat_ofNat_cases (shiftCodePoint d.toNat lowercaseShifts) with same | zero
        · rw [mem, same]
        · rw [← mem] at zero
          exact absurd (Char.toNat_inj.1 zero) (apart '\x00' (by decide))
      rcases CaseShift.shiftCodePoint_cases ascend_lowercaseShifts d.toNat with
        ⟨-, same⟩ | ⟨s, listed, covered, moved⟩
      · exact Char.toNat_inj.1 (same.symm.trans image.symm)
      · have reached := (CaseShift.unapply_apply covered).1
        rw [← moved, ← image, (missed s listed).2] at reached
        exact Bool.noConfusion reached
  · simp only [List.mem_cons, List.not_mem_nil, or_false, not_or]
    exact ⟨apart 'Σ' (by decide), apart 'σ' (by decide), apart 'ς' (by decide)⟩

/-- The blanks are in caseless intervals. -/
theorem isCaseless_intervals_blanks : (blanks.intervals.all Interval.isCaseless) = true := by
  decide +kernel

/-- Blanks have no case. -/
theorem isCaseless_of_isBlank {c : Char} (blank : isBlank c = true) : IsCaseless c := by
  rw [isBlank, CharSet.contains_eq_any, List.any_eq_true] at blank
  obtain ⟨i, mem, inside⟩ := blank
  exact isCaseless_of_contains (List.all_eq_true.1 isCaseless_intervals_blanks i mem) inside

/-- The long dash has no case. -/
theorem isCaseless_dash : IsCaseless '—' :=
  isCaseless_of_contains (i := ⟨0x2014, 0x2014⟩) (by decide +kernel) (by decide)

/-! ## Texts -/

/-- A character without case is in the lower-case form of a part of a text where it is in the
part. -/
theorem IsCaseless.mem_lowerWithin_iff {c : Char} (caseless : IsCaseless c)
    {before after text : List Char} : c ∈ lowerWithin before after text ↔ c ∈ text := by
  obtain ⟨lowered, eq_of_mem, other⟩ := caseless
  simp only [List.mem_cons, List.not_mem_nil, or_false, not_or] at other
  obtain ⟨notCapital, notInner, notFinal⟩ := other
  induction text generalizing before with
  | nil => rfl
  | cons d rest ih =>
    have here : c ∈ (if d = 'Σ' then [lowerSigma before (rest ++ after)] else lowerChar d) ↔
        c = d := by
      split
      · rename_i sigma
        rw [List.mem_singleton, lowerSigma, sigma]
        split
        · exact iff_of_false notFinal notCapital
        · exact iff_of_false notInner notCapital
      · constructor
        · exact fun mem => (eq_of_mem d mem).symm
        · rintro rfl
          rw [lowered]
          exact List.mem_cons_self
    rw [lowerWithin, List.mem_append, List.mem_cons, here, ih]

/-- A character without case is in the lower-case form of a text where it is in the text. -/
theorem IsCaseless.mem_lower_iff {c : Char} (caseless : IsCaseless c) {text : List Char} :
    c ∈ lower text ↔ c ∈ text := by
  rw [lower_eq_lowerWithin, caseless.mem_lowerWithin_iff]

/-- Lower-casing leaves something of every character. -/
theorem lowerWithin_singleton_ne_nil (before after : List Char) (c : Char) :
    lowerWithin before after [c] ≠ [] := by
  rw [lowerWithin, lowerWithin, List.append_nil]
  split
  · exact List.cons_ne_nil _ _
  · rw [lowerChar]
    split
    · exact List.cons_ne_nil _ _
    · exact List.cons_ne_nil _ _

/-- Nothing but the empty text is empty in lower case. -/
theorem lower_eq_nil_iff {text : List Char} : lower text = [] ↔ text = [] := by
  cases text with
  | nil => exact iff_of_true rfl rfl
  | cons c rest =>
    have first := lowerWithin_singleton_ne_nil [] (rest ++ []) c
    rw [lower_eq_lowerWithin, ← List.singleton_append, lowerWithin_append, List.append_eq_nil_iff]
    exact iff_of_false (fun none => first none.1) (List.cons_ne_nil c rest)

/-- If the lower-case form of a character has a blank, the character is that blank. -/
theorem isBlank_of_mem_lowerWithin {before after : List Char} {c d : Char}
    (mem : d ∈ lowerWithin before after [c]) (bare : isBlank c = false) : isBlank d = false := by
  rw [Bool.eq_false_iff]
  intro blank
  have same := List.mem_singleton.1 ((isCaseless_of_isBlank blank).mem_lowerWithin_iff.1 mem)
  rw [same, bare] at blank
  exact Bool.noConfusion blank

/-- The lower-case form of a trimmed text is trimmed. -/
theorem IsTrimmed.lower {text : List Char} (trimmed : IsTrimmed text) :
    IsTrimmed (lower text) := by
  constructor
  · intro d first
    cases text with
    | nil => exact absurd first (Option.some_ne_none d).symm
    | cons c rest =>
      rw [lower_eq_lowerWithin, ← List.singleton_append, lowerWithin_append,
        List.head?_append_of_ne_nil _ (lowerWithin_singleton_ne_nil _ _ c)] at first
      exact isBlank_of_mem_lowerWithin (List.mem_of_head? first) (trimmed.first c rfl)
  · intro d last
    rcases List.eq_nil_or_concat text with rfl | ⟨front, c, rfl⟩
    · exact absurd last (Option.some_ne_none d).symm
    · rw [lower_eq_lowerWithin, List.concat_eq_append, lowerWithin_append,
        List.getLast?_append_of_ne_nil _ (lowerWithin_singleton_ne_nil _ _ c)] at last
      refine isBlank_of_mem_lowerWithin (List.mem_of_getLast? last) (trimmed.last c ?_)
      rw [List.concat_eq_append, List.getLast?_concat]

end Deckwright.Unicode
