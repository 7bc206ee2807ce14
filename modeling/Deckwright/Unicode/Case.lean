import Deckwright.Unicode.CasingTable
import Deckwright.Unicode.FoldTable
import Deckwright.Unicode.LowercaseTable

/-!
# Lower-casing and case folding

Each character has a lower-case form of its own, with one exception: a capital sigma becomes a
final sigma at the end of a word, that is after a cased letter and before none, where characters
that casing passes over do not count. The capital I with a dot above becomes two characters.

Two characters are the same under simple case folding when they fold to one code point. A pattern
that ignores case replaces each of its sets by the characters that are the same as some member.
-/

namespace Deckwright.Unicode

/-! ## Lower-casing -/

/-- Characters that casing passes over when it looks for a neighbouring letter. -/
def caseIgnorable : CharSet := .ofRunText caseIgnorableRuns

/-- Letters with a case. -/
def casedLetters : CharSet := .ofRunText casedRuns

/-- The next character that casing does not pass over is a cased letter. -/
def nextIsCased (text : List Char) : Bool :=
  match text.dropWhile fun c => caseIgnorable.contains c.toNat with
  | [] => false
  | c :: _ => casedLetters.contains c.toNat

/-- The lower-case form of one character, apart from the final sigma. -/
def lowerChar (c : Char) : List Char :=
  if c = 'İ' then ['i', '\u0307'] else [Char.ofNat (shiftCodePoint c.toNat lowercaseShifts)]

/-- Lower-case a text, given in reverse what stands before it. -/
def lowerFrom (before : List Char) : List Char → List Char
  | [] => []
  | c :: rest =>
    if c = 'Σ' then
      (if nextIsCased before && !nextIsCased rest then 'ς' else 'σ') :: lowerFrom (c :: before) rest
    else lowerChar c ++ lowerFrom (c :: before) rest

/-- The lower-case form of a text. -/
def lower (text : List Char) : List Char := lowerFrom [] text

/-! ## Case folding -/

/-- Simple case folding of a code point. -/
def foldCodePoint (c : Nat) : Nat := shiftCodePoint c foldShifts

/-- Two characters are the same when case is ignored. -/
def sameFold (a b : Char) : Bool := foldCodePoint a.toNat == foldCodePoint b.toNat

/-- The code points that fold to the given one and are not that one. -/
def unfoldings (c : Nat) : List Nat :=
  (foldShifts.filter fun s => s.reaches c).map fun s => s.unapply c

/-- The code points that are the same as the given one when case is ignored. -/
def foldOrbit (c : Nat) : List Nat := foldCodePoint c :: unfoldings (foldCodePoint c)

namespace CharSet

/-- Images of the members of a set under a list of shifts. -/
def images (s : CharSet) (shifts : List CaseShift) : List Interval :=
  shifts.flatMap fun shift => s.intervals.flatMap shift.image

/-- The characters that are the same as some member when case is ignored. -/
def closeFold (s : CharSet) : CharSet :=
  let folded := ofIntervals (s.intervals ++ s.images foldShifts)
  ofIntervals (folded.intervals ++ folded.images (foldShifts.map CaseShift.inverse))

end CharSet

end Deckwright.Unicode
