import Deckwright.Unicode.CharSet

/-!
# Sets of code points are their members

The intervals of a set ascend with a gap between neighbours, so the members decide where each of
them begins and ends: sets with the same members are equal. Which intervals a set was made of, and
in which order they were added, is forgotten.
-/

namespace Deckwright.Unicode

/-- The first interval begins at the least code point that the intervals hold. -/
theorem Separated.first_le_of_any {i : Interval} {is : List Interval} {c : Nat}
    (separated : Separated (i :: is)) (held : ((i :: is).any fun j => j.contains c) = true) :
    i.first ≤ c := by
  obtain ⟨proper, ahead, -⟩ := Separated.cons_iff.1 separated
  obtain ⟨j, listed, holds⟩ := List.any_eq_true.1 held
  have low := (j.contains_iff c).1 holds
  rcases List.mem_cons.1 listed with rfl | later
  · exact low.1
  · have := ahead j later
    omega

/-- The gap after the first interval is not held. -/
theorem Separated.not_any_of_gap {i : Interval} {is : List Interval}
    (separated : Separated (i :: is)) :
    ((i :: is).any fun j => j.contains (i.last + 1)) = false := by
  obtain ⟨-, ahead, -⟩ := Separated.cons_iff.1 separated
  rw [List.any_eq_false]
  intro j listed holds
  have inside := (j.contains_iff (i.last + 1)).1 holds
  rcases List.mem_cons.1 listed with rfl | later
  · omega
  · have := ahead j later
    omega

/-- The first interval holds its first code point. -/
theorem Separated.any_first {i : Interval} {is : List Interval} (separated : Separated (i :: is)) :
    ((i :: is).any fun j => j.contains i.first) = true := by
  have proper := (Separated.cons_iff.1 separated).1
  rw [List.any_cons, (i.contains_iff i.first).2 ⟨Nat.le_refl _, proper⟩, Bool.true_or]

/-- An interval that begins where the first one does, and whose code points are all held, ends no
later. -/
theorem Separated.last_le_of_same_first {i j : Interval} {is js : List Interval}
    (left : Separated (i :: is)) (begins : i.first = j.first)
    (same : ∀ c, ((i :: is).any fun k => k.contains c) = (j :: js).any fun k => k.contains c) :
    j.last ≤ i.last := by
  have proper := (Separated.cons_iff.1 left).1
  refine Nat.le_of_not_lt fun longer => ?_
  have gap := left.not_any_of_gap
  rw [same, List.any_cons, (j.contains_iff _).2 (by omega), Bool.true_or] at gap
  exact Bool.noConfusion gap

/-- Separated intervals that hold the same code points are the same. -/
theorem Separated.eq_of_any_contains {is js : List Interval} (left : Separated is)
    (right : Separated js)
    (same : ∀ c, (is.any fun i => i.contains c) = js.any fun j => j.contains c) : is = js := by
  induction is generalizing js with
  | nil =>
    cases js with
    | nil => rfl
    | cons j js =>
      have held := right.any_first
      rw [← same] at held
      exact Bool.noConfusion held
  | cons i is ih =>
    cases js with
    | nil =>
      have held := left.any_first
      rw [same] at held
      exact Bool.noConfusion held
    | cons j js =>
      have begins : i.first = j.first := Nat.le_antisymm
        (left.first_le_of_any ((same j.first).trans right.any_first))
        (right.first_le_of_any ((same i.first).symm.trans left.any_first))
      have ends : i.last = j.last := Nat.le_antisymm
        (right.last_le_of_same_first begins.symm fun c => (same c).symm)
        (left.last_le_of_same_first begins same)
      obtain rfl : i = j := by
        cases i
        cases j
        exact (Interval.mk.injEq ..).mpr ⟨begins, ends⟩
      obtain ⟨-, aheadLeft, tailLeft⟩ := Separated.cons_iff.1 left
      obtain ⟨-, aheadRight, tailRight⟩ := Separated.cons_iff.1 right
      -- Within the first interval neither rest holds anything, beyond it the rests decide.
      have beyond {ks : List Interval} (ahead : ∀ k ∈ ks, i.last + 1 < k.first) {c : Nat}
          (within : i.contains c = true) : (ks.any fun k => k.contains c) = false := by
        rw [List.any_eq_false]
        intro k listed holds
        have := ahead k listed
        have := (i.contains_iff c).1 within
        have := (k.contains_iff c).1 holds
        omega
      rw [ih tailLeft tailRight]
      intro c
      cases within : i.contains c with
      | true => rw [beyond aheadLeft within, beyond aheadRight within]
      | false => simpa [within] using same c

namespace CharSet

/-- Sets with the same members are equal. -/
theorem eq_of_contains {s t : CharSet} (same : ∀ c, s.contains c = t.contains c) : s = t := by
  have intervals : s.intervals = t.intervals := by
    refine s.separated.eq_of_any_contains t.separated fun c => ?_
    rw [← contains_eq_any, ← contains_eq_any, same]
  cases s
  cases t
  congr

/-- The set of some code points can be made by adding them one after the other, in any order. -/
theorem ofCodePoints_eq_foldr (points : List Nat) :
    ofCodePoints points = points.foldr (fun c s => s.insert ⟨c, c⟩) empty := by
  refine eq_of_contains fun c => ?_
  rw [ofCodePoints, contains_ofIntervals, ← contains_foldr_insert, List.foldr_map]

end CharSet

/-! ## Numbers of members -/

/-- Number of code points of an interval. -/
def Interval.size (i : Interval) : Nat := i.last + 1 - i.first

/-- Number of code points of intervals, which may overlap. -/
def totalSize : List Interval → Nat
  | [] => 0
  | i :: rest => i.size + totalSize rest

/-- Intervals that are joined have no more code points together. -/
theorem totalSize_insertInterval_le {i : Interval} {is : List Interval}
    (proper : i.first ≤ i.last) (separated : Separated is) :
    totalSize (insertInterval i is) ≤ i.size + totalSize is := by
  induction is generalizing i with
  | nil => exact Nat.le_refl _
  | cons j rest ih =>
    obtain ⟨first, -, tail⟩ := Separated.cons_iff.1 separated
    simp only [insertInterval]
    split
    · exact Nat.le_refl _
    · rw [totalSize]
      split
      · have := ih proper tail
        rw [totalSize]
        omega
      · have joined : (i.hull j).size ≤ i.size + j.size := by
          simp only [Interval.size, Interval.hull]
          omega
        have longer : (i.hull j).first ≤ (i.hull j).last := by
          simp only [Interval.hull]
          omega
        have := ih longer tail
        omega

namespace CharSet

/-- Number of code points of a set. -/
def size (s : CharSet) : Nat := totalSize s.intervals

/-- A set has no more intervals than code points. -/
theorem length_intervals_le (s : CharSet) : s.intervals.length ≤ s.size := by
  have proper := s.separated.proper
  rw [size]
  generalize s.intervals = is at proper ⊢
  induction is with
  | nil => exact Nat.le_refl _
  | cons i rest ih =>
    have := proper i List.mem_cons_self
    have := ih fun j later => proper j (List.mem_cons_of_mem i later)
    rw [List.length_cons, totalSize, Interval.size]
    omega

/-- An insertion adds no more code points than the interval has. -/
theorem size_insert_le (s : CharSet) (i : Interval) : (s.insert i).size ≤ i.size + s.size := by
  rw [insert]
  split
  · rename_i proper
    exact totalSize_insertInterval_le proper s.separated
  · exact Nat.le_add_left _ _

/-- The set of some code points has no more of them than are listed. -/
theorem size_ofCodePoints_le (points : List Nat) : (ofCodePoints points).size ≤ points.length := by
  rw [ofCodePoints_eq_foldr]
  induction points with
  | nil => exact Nat.le_refl _
  | cons c rest ih =>
    have added := size_insert_le (rest.foldr (fun c s => s.insert ⟨c, c⟩) empty) ⟨c, c⟩
    have one : Interval.size ⟨c, c⟩ = 1 := Nat.add_sub_cancel_left c 1
    rw [List.foldr_cons, List.length_cons]
    omega

end CharSet

end Deckwright.Unicode
