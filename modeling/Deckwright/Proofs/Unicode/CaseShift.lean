import Deckwright.Unicode.CaseShift
import Mathlib.Data.List.MinMax

/-!
# Runs of case shifts

The runs of a case mapping ascend, and each moves its members by one distance. A member of a run
goes where that run takes it, and a code point of no run stays. If the code points that the runs
lead to lie in none of them, what has been shifted stays where it is. A code point is reached by few
of the runs if few of them overlap where the images of one of them begin.
-/

namespace Deckwright.Unicode

namespace CaseShift

/-! ## Tables of runs -/

/-- The runs ascend from a bound, without common code points. -/
def ascend (bound : Nat) : List CaseShift → Bool
  | [] => true
  | s :: rest => bound.ble s.first && s.first.ble s.last && ascend (s.last + 1) rest

/-- Runs that ascend from a bound begin at it or above, and end no earlier than they begin. -/
theorem bounds_of_ascend {bound : Nat} {shifts : List CaseShift} {s : CaseShift}
    (ascending : ascend bound shifts = true) (mem : s ∈ shifts) :
    bound ≤ s.first ∧ s.first ≤ s.last := by
  induction shifts generalizing bound with
  | nil => exact absurd mem List.not_mem_nil
  | cons t rest ih =>
    simp only [ascend, Bool.and_eq_true, Nat.ble_eq] at ascending
    obtain ⟨⟨low, proper⟩, later⟩ := ascending
    rcases List.mem_cons.1 mem with rfl | mem
    · exact ⟨low, proper⟩
    · have := ih later mem
      omega

/-- Members of a run lie between its ends. -/
theorem bounds_of_covers {s : CaseShift} {c : Nat} (covered : s.covers c = true) :
    s.first ≤ c ∧ c ≤ s.last ∧ (c - s.first) % s.step = 0 := by
  simpa [covers, and_assoc] using covered

/-- A member of one of the runs goes where that run takes it. -/
theorem shiftCodePoint_of_covers {bound c : Nat} {shifts : List CaseShift} {s : CaseShift}
    (ascending : ascend bound shifts = true) (mem : s ∈ shifts) (covered : s.covers c = true) :
    shiftCodePoint c shifts = s.apply c := by
  induction shifts generalizing bound with
  | nil => exact absurd mem List.not_mem_nil
  | cons t rest ih =>
    simp only [ascend, Bool.and_eq_true, Nat.ble_eq] at ascending
    obtain ⟨⟨low, proper⟩, later⟩ := ascending
    have inside := bounds_of_covers covered
    rcases List.mem_cons.1 mem with rfl | mem
    · have above : ¬c < s.first := by omega
      rw [shiftCodePoint, if_neg above, if_pos covered]
    · have := bounds_of_ascend later mem
      have above : ¬c < t.first := by omega
      have beyond : ¬t.covers c = true := by
        intro covered
        have := bounds_of_covers covered
        omega
      rw [shiftCodePoint, if_neg above, if_neg beyond]
      exact ih later mem

/-- A member of no run stays. -/
theorem shiftCodePoint_of_not_covers {c : Nat} {shifts : List CaseShift}
    (free : ∀ s ∈ shifts, s.covers c = false) : shiftCodePoint c shifts = c := by
  induction shifts with
  | nil => rfl
  | cons t rest ih =>
    have here : ¬t.covers c = true := by
      rw [free t List.mem_cons_self]
      exact Bool.false_ne_true
    rw [shiftCodePoint, if_neg here, ih fun s mem => free s (List.mem_cons_of_mem t mem), ite_self]

/-! ## Images -/

/-- No member of the runs lies between two code points; if only every second one is in question,
those that are not may be members of the runs. -/
def clear (low high : Nat) (even : Bool) : List CaseShift → Bool
  | [] => true
  | t :: rest =>
    if high.blt t.first then true
    else (t.last.blt low || (t.step == 2 && even && (low + t.first) % 2 == 1)) &&
      clear low high even rest

/-- What is clear of ascending runs has no member of them. -/
theorem not_covers_of_clear {bound low high c : Nat} {even : Bool} {shifts : List CaseShift}
    (ascending : ascend bound shifts = true) (free : clear low high even shifts = true)
    (least : low ≤ c) (greatest : c ≤ high) (aligned : even = true → (c - low) % 2 = 0) :
    ∀ t ∈ shifts, t.covers c = false := by
  induction shifts generalizing bound with
  | nil => simp
  | cons t rest ih =>
    simp only [ascend, Bool.and_eq_true, Nat.ble_eq] at ascending
    obtain ⟨⟨-, proper⟩, later⟩ := ascending
    intro r mem
    rw [Bool.eq_false_iff]
    intro covered
    have inside := bounds_of_covers covered
    rw [clear] at free
    split at free
    · rename_i past
      rw [Nat.blt_eq] at past
      rcases List.mem_cons.1 mem with rfl | mem
      · omega
      · have := bounds_of_ascend later mem
        omega
    · rw [Bool.and_eq_true] at free
      rcases List.mem_cons.1 mem with rfl | mem
      · have apart := free.1
        simp only [Bool.or_eq_true, Nat.blt_eq, Bool.and_eq_true, beq_iff_eq] at apart
        rcases apart with under | ⟨⟨two, even⟩, odd⟩
        · omega
        · have := aligned even
          rw [two] at inside
          omega
      · exact absurd covered (by simp [ih later free.2 r mem])

/-- The images of the run lie in none of the runs. -/
def imagesClear (shifts : List CaseShift) (s : CaseShift) : Bool :=
  clear s.target (s.target + (s.last - s.first)) (s.step == 2 || s.first == s.last) shifts

/-- Where ascending runs take their members there is no member of them. -/
theorem not_covers_apply {bound c : Nat} {shifts : List CaseShift} {s : CaseShift}
    (ascending : ascend bound shifts = true) (free : s.imagesClear shifts = true)
    (covered : s.covers c = true) : ∀ t ∈ shifts, t.covers (s.apply c) = false := by
  have inside := bounds_of_covers covered
  apply not_covers_of_clear ascending free
  · exact Nat.le_add_right _ _
  · rw [apply]
    omega
  · intro even
    have distance : s.apply c - s.target = c - s.first := by
      rw [apply]
      omega
    rw [distance]
    simp only [Bool.or_eq_true, beq_iff_eq] at even
    rcases even with two | single
    · rw [two] at inside
      exact inside.2.2
    · have : c - s.first = 0 := by omega
      rw [this]

/-- A run reaches back to its members. -/
theorem unapply_apply {s : CaseShift} {c : Nat} (covered : s.covers c = true) :
    s.reaches (s.apply c) = true ∧ s.unapply (s.apply c) = c := by
  have inside := bounds_of_covers covered
  have distance : s.apply c - s.target = c - s.first := by
    rw [apply]
    omega
  constructor
  · rw [reaches, distance, inside.2.2, apply]
    simp only [Bool.and_eq_true, decide_eq_true_eq, BEq.rfl, and_true]
    omega
  · rw [unapply, distance]
    omega

/-- What a run reaches back to is its member, and goes where it came from. -/
theorem apply_unapply {s : CaseShift} {c : Nat} (proper : s.first ≤ s.last)
    (reached : s.reaches c = true) :
    s.covers (s.unapply c) = true ∧ s.apply (s.unapply c) = c := by
  simp only [reaches, Bool.and_eq_true, decide_eq_true_eq, beq_iff_eq] at reached
  obtain ⟨⟨low, high⟩, aligned⟩ := reached
  have origin : s.unapply c = s.first + (c - s.target) := rfl
  have distance : s.unapply c - s.first = c - s.target := by omega
  constructor
  · rw [covers, distance, aligned]
    simp only [Bool.and_eq_true, decide_eq_true_eq, BEq.rfl, and_true]
    omega
  · rw [apply, distance]
    omega

/-! ## Shifting again -/

/-- A code point stays, or goes where the run takes it that it is a member of. -/
theorem shiftCodePoint_cases {bound : Nat} {shifts : List CaseShift}
    (ascending : ascend bound shifts = true) (c : Nat) :
    ((∀ s ∈ shifts, s.covers c = false) ∧ shiftCodePoint c shifts = c) ∨
      ∃ s ∈ shifts, s.covers c = true ∧ shiftCodePoint c shifts = s.apply c := by
  by_cases found : ∃ s ∈ shifts, s.covers c = true
  · right
    obtain ⟨s, mem, covered⟩ := found
    exact ⟨s, mem, covered, shiftCodePoint_of_covers ascending mem covered⟩
  · left
    have free : ∀ s ∈ shifts, s.covers c = false := by
      intro s mem
      rw [Bool.eq_false_iff]
      intro covered
      exact found ⟨s, mem, covered⟩
    exact ⟨free, shiftCodePoint_of_not_covers free⟩

/-- If ascending runs lead out of all of them, shifting twice is shifting once. -/
theorem shiftCodePoint_shiftCodePoint {bound : Nat} {shifts : List CaseShift}
    (ascending : ascend bound shifts = true)
    (free : (shifts.all fun s => s.imagesClear shifts) = true) (c : Nat) :
    shiftCodePoint (shiftCodePoint c shifts) shifts = shiftCodePoint c shifts := by
  rcases shiftCodePoint_cases ascending c with ⟨-, same⟩ | ⟨s, mem, covered, moved⟩
  · rw [same, same]
  · rw [moved]
    exact shiftCodePoint_of_not_covers
      (not_covers_apply ascending (List.all_eq_true.1 free s mem) covered)

/-! ## Overlaps -/

/-- Where the images of a run begin, those of no more than `most` runs lie. -/
def overlapAtMost (most : Nat) (shifts : List CaseShift) : Bool :=
  shifts.all fun s =>
    (shifts.countP fun t =>
      t.target.ble s.target && s.target.ble (t.target + (t.last - t.first))).ble most

/-- A code point is reached by no more runs than overlap. -/
theorem length_filter_reaches_le {most : Nat} {shifts : List CaseShift}
    (few : overlapAtMost most shifts = true) (c : Nat) :
    (shifts.filter fun s => s.reaches c).length ≤ most := by
  -- Of the runs that reach the code point, one begins last; there all of them overlap.
  cases last : (shifts.filter fun s => s.reaches c).argmax target with
  | none =>
    rw [List.argmax_eq_none] at last
    rw [last]
    exact Nat.zero_le most
  | some s =>
    have mem := (List.mem_filter.1 (List.argmax_mem last)).1
    have reached := (List.mem_filter.1 (List.argmax_mem last)).2
    have overlap : ∀ t ∈ shifts, t.reaches c = true →
        (t.target.ble s.target && s.target.ble (t.target + (t.last - t.first))) = true := by
      intro t listed reaches
      have before := List.le_of_mem_argmax (List.mem_filter.2 ⟨listed, reaches⟩) last
      simp only [CaseShift.reaches, Bool.and_eq_true, decide_eq_true_eq] at reached reaches
      rw [Bool.and_eq_true, Nat.ble_eq, Nat.ble_eq]
      omega
    rw [← List.countP_eq_length_filter]
    have bound := Nat.le_of_ble_eq_true (List.all_eq_true.1 few s mem)
    exact (List.countP_mono_left overlap).trans bound

end CaseShift

end Deckwright.Unicode
