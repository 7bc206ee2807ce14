import Deckwright.Proofs.Unicode.CaseShift
import Deckwright.Unicode.Case

/-!
# Texts in lower case, and characters that fold together

The runs of the lower-case table lead out of all of them, and none leads to the capital I with a
dot above, which the table leaves out. So the characters of a lower-case form are their own
lower-case forms. None of them is a capital sigma, so it does not count where they stand, and
lower-casing twice is lower-casing once.

The runs of the folding table ascend as well, and the code points that they lead to lie in none of
them. So folding twice is folding once, and the code points that are the same as a given one when
case is ignored are those with its folding, four at most.
-/

namespace Deckwright.Unicode

/-! ## The lower-case table -/

/-- The runs of the lower-case table ascend. -/
theorem ascend_lowercaseShifts : CaseShift.ascend 0 lowercaseShifts = true := by decide +kernel

/-- The runs of the lower-case table lead out of all of them. -/
theorem imagesClear_lowercaseShifts :
    (lowercaseShifts.all fun s => s.imagesClear lowercaseShifts) = true := by
  decide +kernel

/-- No run of the lower-case table leads to the capital I with a dot above. -/
theorem not_reaches_lowercaseShifts :
    (lowercaseShifts.all fun s => !s.reaches 'İ'.toNat) = true := by
  decide +kernel

/-- Only the capital I with a dot above itself stands at its place in the table. -/
theorem shiftCodePoint_ne_dotted {c : Char} (other : c ≠ 'İ') :
    shiftCodePoint c.toNat lowercaseShifts ≠ 'İ'.toNat := by
  rcases CaseShift.shiftCodePoint_cases ascend_lowercaseShifts c.toNat with
    ⟨-, same⟩ | ⟨s, mem, covered, moved⟩
  · rw [same]
    exact fun equal => other (Char.toNat_inj.1 equal)
  · intro equal
    have reached := (CaseShift.unapply_apply covered).1
    have apart := List.all_eq_true.1 not_reaches_lowercaseShifts s mem
    rw [← moved, equal] at reached
    rw [reached] at apart
    exact Bool.false_ne_true apart

/-! ## Characters in lower case -/

/-- The character is its own lower-case form, wherever it stands. -/
def IsLowered (c : Char) : Prop := c ≠ 'Σ' ∧ lowerChar c = [c]

instance (c : Char) : Decidable (IsLowered c) := inferInstanceAs (Decidable (_ ∧ _))

/-- A number that is no code point stands for the code point zero. -/
theorem toNat_ofNat_cases (n : Nat) : (Char.ofNat n).toNat = n ∨ (Char.ofNat n).toNat = 0 := by
  by_cases valid : n.isValidChar
  · left
    rw [Char.ofNat, dif_pos valid]
    rfl
  · right
    rw [Char.ofNat, dif_neg valid]
    rfl

/-- A code point that the table does not move, and that it does not leave out, is in lower case. -/
theorem isLowered_of_shiftCodePoint {c : Char} (other : c ≠ 'İ')
    (stays : shiftCodePoint c.toNat lowercaseShifts = c.toNat) : IsLowered c := by
  constructor
  · rintro rfl
    exact absurd stays (by decide)
  · rw [lowerChar, if_neg other, stays, Char.ofNat_toNat]

/-- The lower-case form of a character is in lower case. -/
theorem isLowered_of_mem_lowerChar {c d : Char} (mem : d ∈ lowerChar c) : IsLowered d := by
  by_cases dotted : c = 'İ'
  · have pair : d = 'i' ∨ d = '\u0307' := by
      rw [lowerChar, if_pos dotted] at mem
      simpa using mem
    rcases pair with rfl | rfl <;> decide
  · rw [lowerChar, if_neg dotted, List.mem_singleton] at mem
    have again := CaseShift.shiftCodePoint_shiftCodePoint ascend_lowercaseShifts
      imagesClear_lowercaseShifts c.toNat
    have elsewhere := shiftCodePoint_ne_dotted dotted
    generalize shiftCodePoint c.toNat lowercaseShifts = n at mem again elsewhere
    subst mem
    rcases toNat_ofNat_cases n with same | zero
    · refine isLowered_of_shiftCodePoint ?_ (by rw [same, again])
      intro equal
      exact elsewhere (same.symm.trans (congrArg Char.toNat equal))
    · refine isLowered_of_shiftCodePoint ?_ (by rw [zero]; decide)
      intro equal
      rw [equal] at zero
      exact absurd zero (by decide)

/-! ## Texts in lower case -/

/-- The lower-case form of a text is in lower case. -/
theorem isLowered_of_mem_lowerFrom {before text : List Char} {d : Char}
    (mem : d ∈ lowerFrom before text) : IsLowered d := by
  induction text generalizing before with
  | nil => cases mem
  | cons c rest ih =>
    rw [lowerFrom] at mem
    split at mem
    · rcases List.mem_cons.1 mem with formed | later
      · split at formed
        · rw [formed]
          decide
        · rw [formed]
          decide
      · exact ih later
    · rcases List.mem_append.1 mem with here | later
      · exact isLowered_of_mem_lowerChar here
      · exact ih later

/-- A text in lower case stays as it is. -/
theorem lowerFrom_eq_self {text : List Char} (lowered : ∀ c ∈ text, IsLowered c)
    (before : List Char) : lowerFrom before text = text := by
  induction text generalizing before with
  | nil => rfl
  | cons c rest ih =>
    obtain ⟨plain, same⟩ := lowered c List.mem_cons_self
    have later := ih (fun d mem => lowered d (List.mem_cons_of_mem c mem)) (c :: before)
    rw [lowerFrom, if_neg plain, same, later, List.singleton_append]

/-- Lower-casing twice is lower-casing once. -/
theorem lower_lower (text : List Char) : lower (lower text) = lower text :=
  lowerFrom_eq_self (fun _ mem => isLowered_of_mem_lowerFrom mem) []

/-! ## The folding table -/

/-- The runs of the folding table ascend. -/
theorem ascend_foldShifts : CaseShift.ascend 0 foldShifts = true := by decide +kernel

/-- The runs of the folding table lead out of all of them. -/
theorem imagesClear_foldShifts : (foldShifts.all fun s => s.imagesClear foldShifts) = true := by
  decide +kernel

/-- A code point folds to itself or where the run goes that it is a member of. -/
theorem foldCodePoint_cases (c : Nat) :
    ((∀ s ∈ foldShifts, s.covers c = false) ∧ foldCodePoint c = c) ∨
      ∃ s ∈ foldShifts, s.covers c = true ∧ foldCodePoint c = s.apply c :=
  CaseShift.shiftCodePoint_cases ascend_foldShifts c

/-- Folding twice is folding once. -/
theorem foldCodePoint_foldCodePoint (c : Nat) :
    foldCodePoint (foldCodePoint c) = foldCodePoint c :=
  CaseShift.shiftCodePoint_shiftCodePoint ascend_foldShifts imagesClear_foldShifts c

/-- The code points that are the same as a given one when case is ignored are those with its
folding. -/
theorem contains_foldOrbit_iff (c d : Nat) :
    (foldOrbit c).contains d = true ↔ foldCodePoint c = foldCodePoint d := by
  rw [List.contains_iff_mem, foldOrbit, List.mem_cons, unfoldings, List.mem_map]
  simp only [List.mem_filter]
  constructor
  · rintro (rfl | ⟨s, ⟨mem, reached⟩, rfl⟩)
    · exact (foldCodePoint_foldCodePoint c).symm
    · have proper := (CaseShift.bounds_of_ascend ascend_foldShifts mem).2
      obtain ⟨covered, back⟩ := CaseShift.apply_unapply proper reached
      have moved := CaseShift.shiftCodePoint_of_covers ascend_foldShifts mem covered
      rw [back] at moved
      exact moved.symm
  · intro same
    rcases foldCodePoint_cases d with ⟨-, stays⟩ | ⟨s, mem, covered, moved⟩
    · left
      rw [same, stays]
    · right
      obtain ⟨reached, back⟩ := CaseShift.unapply_apply covered
      rw [same, moved]
      exact ⟨s, ⟨mem, reached⟩, back⟩

/-- No more than three runs of the folding table overlap. -/
theorem overlapAtMost_foldShifts : CaseShift.overlapAtMost 3 foldShifts = true := by
  decide +kernel

/-- No more than four code points are the same when case is ignored. -/
theorem length_foldOrbit_le (c : Nat) : (foldOrbit c).length ≤ 4 := by
  have few := CaseShift.length_filter_reaches_le overlapAtMost_foldShifts (foldCodePoint c)
  rw [foldOrbit, List.length_cons, unfoldings, List.length_map]
  omega

end Deckwright.Unicode
