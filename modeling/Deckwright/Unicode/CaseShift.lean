import Deckwright.Unicode.CharSet

/-!
# Case shifts

Case mappings are regular over long stretches of the alphabet: every code point of a run, or
every second one, goes to the code point at one fixed distance. A shift is one such run, and a
case mapping is a list of shifts with ascending, disjoint runs.
-/

namespace Deckwright.Unicode

/-- A run of code points that a case mapping moves by one distance. -/
structure CaseShift where
  /-- Least code point of the run. -/
  first : Nat
  /-- Greatest code point of the run. -/
  last : Nat
  /-- Distance between neighbours of the run. -/
  step : Nat
  /-- Image of the least code point. -/
  target : Nat
  deriving DecidableEq, Repr, Inhabited

namespace CaseShift

/-- Shifts from rows of first, last, step and target. -/
def ofRows (rows : List (Nat × Nat × Nat × Nat)) : List CaseShift :=
  rows.map fun r => ⟨r.1, r.2.1, r.2.2.1, r.2.2.2⟩

/-- The code point lies in the run. -/
def covers (s : CaseShift) (c : Nat) : Bool :=
  s.first ≤ c && c ≤ s.last && (c - s.first) % s.step == 0

/-- Where the run takes one of its code points. -/
def apply (s : CaseShift) (c : Nat) : Nat := s.target + (c - s.first)

/-- The code point is the image of one in the run. -/
def reaches (s : CaseShift) (c : Nat) : Bool :=
  s.target ≤ c && c ≤ s.target + (s.last - s.first) && (c - s.target) % s.step == 0

/-- The code point of the run that goes to the given image. -/
def unapply (s : CaseShift) (c : Nat) : Nat := s.first + (c - s.target)

/-- The run that goes back from the images to the code points. -/
def inverse (s : CaseShift) : CaseShift :=
  ⟨s.target, s.target + (s.last - s.first), s.step, s.first⟩

/-- Least member of the run at or above a code point of its stretch. -/
def alignUp (s : CaseShift) (c : Nat) : Nat :=
  s.first + (c - s.first + s.step - 1) / s.step * s.step

/-- Images of the members of the run that lie in an interval. -/
def image (s : CaseShift) (i : Interval) : List Interval :=
  let part := i.meet ⟨s.first, s.last⟩
  if part.isEmpty then []
  else if s.step = 1 then [⟨s.apply part.first, s.apply part.last⟩]
  else
    let start := s.alignUp part.first
    (List.range ((part.last + s.step - start) / s.step)).map fun k =>
      ⟨s.apply (start + k * s.step), s.apply (start + k * s.step)⟩

end CaseShift

/-- Apply the mapping given by ascending, disjoint shifts; a code point of no run stays. -/
def shiftCodePoint (c : Nat) : List CaseShift → Nat
  | [] => c
  | s :: rest =>
    if c < s.first then c
    else if s.covers c then s.apply c
    else shiftCodePoint c rest

end Deckwright.Unicode
