import Deckwright.Pattern.Regex

/-!
# Running a regular expression over a text

The positions of a text of n characters are the numbers 0 to n, and a set of positions is a
number whose bits they are. Against one text, each set of characters becomes the set of the
positions before its members, and each kind of position the set of such positions. A part of
the expression then takes the set of positions where it may start to the set where it may end:
a character is one shift, and an alternative one disjunction, for all positions at once.
-/

namespace Deckwright.Pattern

open Unicode

/-- A set of positions: position `i` is in it when bit `i` is set. -/
abbrev Positions := Nat

/-- A regular expression against one text. -/
inductive Track where
  /-- Stay. -/
  | stay
  /-- Pass over one character at one of the positions. -/
  | step (starts : Positions)
  /-- Stay, at one of the positions. -/
  | at (places : Positions)
  /-- One part after another. -/
  | seq (first second : Track)
  /-- One part or another. -/
  | alt (left right : Track)
  /-- Between `min` and `max` copies, or `min` and more. -/
  | repetition (min : Nat) (max? : Option Nat) (body : Track)

/-- The first bit of a set is that of its first position. -/
theorem testBit_zero_double_add (n : Nat) (b : Bool) : (2 * n + b.toNat).testBit 0 = b := by
  rw [Nat.testBit_zero, Nat.mul_add_mod]
  cases b <;> rfl

/-- Beyond the first bit of a set, its bits are those of the set it was made from. -/
theorem half_of_double_add (n : Nat) (b : Bool) : (2 * n + b.toNat) / 2 = n := by
  have := Bool.toNat_le b
  omega

/-- The positions before the characters that satisfy a test. -/
def positionsWhere (test : Char → Bool) : List Char → Positions
  | [] => 0
  | c :: rest => 2 * positionsWhere test rest + (test c).toNat

/-- A position is before a character that satisfies the test when its bit is set. -/
theorem testBit_positionsWhere (test : Char → Bool) (text : List Char) (i : Nat) :
    (positionsWhere test text).testBit i = text[i]?.any test := by
  induction text generalizing i with
  | nil => simp [positionsWhere]
  | cons c rest ih =>
    cases i with
    | zero => exact testBit_zero_double_add _ (test c)
    | succ i =>
      have half : positionsWhere test (c :: rest) / 2 = positionsWhere test rest :=
        half_of_double_add _ (test c)
      rw [Nat.testBit_succ, half, ih, List.getElem?_cons_succ]

/-- The positions whose neighbours, to the left and to the right, satisfy a test; `before` is the
character to the left of the text. -/
def positionsBetween (test : Option Char → Option Char → Bool) (before : Option Char) :
    List Char → Positions
  | [] => (test before none).toNat
  | c :: rest => 2 * positionsBetween test (some c) rest + (test before (some c)).toNat

/-- A position of the text has its bit set when its neighbours satisfy the test, and beyond the
text no bit is set. -/
theorem testBit_positionsBetween (test : Option Char → Option Char → Bool) (before : Option Char)
    (text : List Char) (i : Nat) :
    (positionsBetween test before text).testBit i =
      (decide (i ≤ text.length) && test (if i = 0 then before else text[i - 1]?) text[i]?) := by
  induction text generalizing before i with
  | nil =>
    cases i with
    | zero => cases h : test before none <;> simp [positionsBetween, h]
    | succ i =>
      cases h : test before none <;> simp [positionsBetween, Nat.testBit_succ, h]
  | cons c rest ih =>
    cases i with
    | zero =>
      rw [positionsBetween, testBit_zero_double_add, decide_eq_true (Nat.zero_le _), if_pos rfl,
        List.getElem?_cons_zero, Bool.true_and]
    | succ i =>
      have half : positionsBetween test before (c :: rest) / 2 =
          positionsBetween test (some c) rest :=
        half_of_double_add _ (test before (some c))
      rw [Nat.testBit_succ, half, ih]
      cases i with
      | zero => simp
      | succ i => simp

/-- The character is a word character, in the sense of a boundary. -/
def isWordChar (ascii : Bool) (c : Char) : Bool :=
  if ascii then asciiWord.contains c.toNat else wordCharacters.contains c.toNat

/-- There is a word character. -/
def isWord (ascii : Bool) (c? : Option Char) : Bool := c?.any (isWordChar ascii)

/-- The position between two neighbours is one that is asked for. -/
def Look.test (l : Look) (before after : Option Char) : Bool :=
  match l with
  | .start => before.isNone
  | .finish => after.isNone
  | .lineStart => before.all (· == '\n')
  | .lineEnd => after.all (· == '\n')
  | .crlfStart => before.all (· == '\n') || (before == some '\r' && after != some '\n')
  | .crlfEnd => after.all (· == '\r') || (after == some '\n' && before != some '\r')
  | .boundary ascii => isWord ascii before != isWord ascii after
  | .notBoundary ascii => isWord ascii before == isWord ascii after
  | .wordStart ascii => !isWord ascii before && isWord ascii after
  | .wordEnd ascii => isWord ascii before && !isWord ascii after
  | .wordStartHalf ascii => !isWord ascii before
  | .wordEndHalf ascii => !isWord ascii after

/-- The regular expression against a text. -/
def Regex.against (text : List Char) : Regex → Track
  | .empty => .stay
  | .set s => .step (positionsWhere (fun c => s.contains c.toNat) text)
  | .look l => .at (positionsBetween l.test none text)
  | .capture body => body.against text
  | .seq first second => .seq (first.against text) (second.against text)
  | .alt left right => .alt (left.against text) (right.against text)
  | .repetition min max? body => .repetition min max? (body.against text)

/-- Apply a step the given number of times; once no position is left there is nothing to do. -/
def iterate (step : Positions → Positions) : Nat → Positions → Positions
  | 0, starts => starts
  | count + 1, starts => if starts = 0 then 0 else iterate step count (step starts)

/-- The positions reached by at most the given number of steps. Only positions reached for the
first time are stepped from again. -/
def spread (step : Positions → Positions) : Nat → (reached fresh : Positions) → Positions
  | 0, reached, _ => reached
  | count + 1, reached, fresh =>
    let next := step fresh
    let new := next ^^^ (next &&& reached)
    if new = 0 then reached else spread step count (reached ||| new) new

/-- Where a part may end if it starts at one of the given positions of a text of `length`
characters. -/
def Track.run (length : Nat) : Track → Positions → Positions
  | .stay, starts => starts
  | .step places, starts => (starts &&& places) <<< 1
  | .at places, starts => starts &&& places
  | .seq first second, starts =>
    let middle := first.run length starts
    if middle = 0 then 0 else second.run length middle
  | .alt left right, starts => left.run length starts ||| right.run length starts
  | .repetition min max? body, starts =>
    let required := iterate (body.run length) min starts
    let more := match max? with
      | none => length + 1
      | some max => max - min
    spread (body.run length) more required required

/-- The expression matches somewhere in the text. -/
def Regex.matchesIn (r : Regex) (text : List Char) : Bool :=
  (r.against text).run text.length (Nat.pow 2 (text.length + 1) - 1) != 0

end Deckwright.Pattern
