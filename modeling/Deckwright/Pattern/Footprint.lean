import Deckwright.Pattern.Regex

/-!
# Size limit of regular expressions

A pattern is a regular expression only if the automaton built for it, which spells characters in
UTF-8 and copies a repeated part as often as it is counted, stays within a limit of memory. The
automaton is built twice, once to read texts forwards and once backwards. Nothing but its size
matters here, and the size of an expression follows from the sizes of its parts.
-/

namespace Deckwright.Pattern

open Unicode

/-- Memory of one state of an automaton, in bytes. -/
def stateBytes : Nat := 32

/-- Memory of one choice of a state that branches. -/
def branchBytes : Nat := 4

/-- Memory of one transition of a state that reads one of several ranges of bytes. -/
def transitionBytes : Nat := 8

/-- Greatest memory of an automaton. -/
def automatonLimit : Nat := 10485760

/-! ## Characters as bytes -/

/-- Sequences of byte ranges, one byte range for each byte of a character. -/
abbrev ByteRanges := List Interval

/-- All sequences of the given number of digits in base 64, with the mark of a continuation
byte. -/
def anyContinuations (count : Nat) : ByteRanges := List.replicate count ⟨0x80, 0xBF⟩

/-- The numbers between two, ends included, as sequences of ranges of a leading digit and of
`count` digits in base 64. -/
def digitRanges (mark : Nat) : (count first last : Nat) → List ByteRanges
  | 0, first, last => [[⟨mark + first, mark + last⟩]]
  | count + 1, first, last =>
    let unit := Nat.pow 64 (count + 1)
    let firstHead := first / unit
    let lastHead := last / unit
    let firstTail := first % unit
    let lastTail := last % unit
    if firstHead = lastHead then
      (digitRanges 0x80 count firstTail lastTail).map (⟨mark + firstHead, mark + firstHead⟩ :: ·)
    else
      let low := if firstTail = 0 then [] else
        (digitRanges 0x80 count firstTail (unit - 1)).map
          (⟨mark + firstHead, mark + firstHead⟩ :: ·)
      let high := if lastTail = unit - 1 then [] else
        (digitRanges 0x80 count 0 lastTail).map (⟨mark + lastHead, mark + lastHead⟩ :: ·)
      let start := if firstTail = 0 then firstHead else firstHead + 1
      let stop := if lastTail = unit - 1 then lastHead + 1 else lastHead
      let middle := if start < stop then
        [⟨mark + start, mark + stop - 1⟩ :: anyContinuations (count + 1)] else []
      low ++ middle ++ high

/-- Code points with encodings of one length: the interval, the mark of the first byte and the
number of bytes after it. -/
def encodingClasses : List (Interval × Nat × Nat) := [
  (⟨0, 0x7F⟩, 0, 0), (⟨0x80, 0x7FF⟩, 0xC0, 1), (⟨0x800, 0xD7FF⟩, 0xE0, 2),
  (⟨0xE000, 0xFFFF⟩, 0xE0, 2), (⟨0x10000, maxCodePoint⟩, 0xF0, 3)]

/-- The encodings of the characters of a set, as sequences of byte ranges. -/
def byteRanges (s : CharSet) : List ByteRanges :=
  s.intervals.flatMap fun i =>
    encodingClasses.flatMap fun (domain, mark, count) =>
      let part := i.meet domain
      if part.isEmpty then [] else digitRanges mark count part.first part.last

/-- Group sequences, of which those with one first range stand together, by that range. -/
def groupByFirst : List ByteRanges → List (Interval × List ByteRanges)
  | [] => []
  | [] :: rest => groupByFirst rest
  | (i :: tail) :: rest =>
    match groupByFirst rest with
    | (j, tails) :: groups =>
      if i = j then (j, tail :: tails) :: groups else (i, [tail]) :: (j, tails) :: groups
    | [] => [(i, [tail])]

/-- The different lists of continuations that follow the given ones, byte by byte. -/
def laterContinuations : (depth : Nat) → List (List ByteRanges) → List (List ByteRanges)
  | 0, _ => []
  | depth + 1, nodes =>
    let next := (nodes.flatMap fun node => (groupByFirst node).map (·.2)).filter (· != [[]])
    nodes ++ laterContinuations depth next.eraseDups

/-- Memory for a set read forwards, where equal continuations share their states. -/
def forwardBytes (s : CharSet) : Nat :=
  let nodes := (laterContinuations 4 [byteRanges s]).eraseDups
  stateBytes + (nodes.map fun node =>
    stateBytes + transitionBytes * (groupByFirst node).length).foldr (· + ·) 0

/-- Number of different beginnings of the sequences. -/
def beginnings : (depth : Nat) → List ByteRanges → Nat
  | 0, _ => 0
  | depth + 1, sequences =>
    ((groupByFirst sequences).map fun group => 1 + beginnings depth group.2).foldr (· + ·) 0

/-- Memory for a set read backwards, where equal beginnings share their states. -/
def backwardBytes (s : CharSet) : Nat :=
  let sequences := byteRanges s
  2 * stateBytes + branchBytes * sequences.length + stateBytes * beginnings 4 sequences

/-- Number of bytes of a character. -/
def encodedLength (c : Nat) : Nat :=
  if c ≤ 0x7F then 1 else if c ≤ 0x7FF then 2 else if c ≤ 0xFFFF then 3 else 4

/-- Memory for one character of a set. -/
def setBytes (backwards : Bool) (s : CharSet) : Nat :=
  match s.intervals with
  | [] => stateBytes
  | intervals =>
    match intervals with
    | [⟨first, last⟩] =>
      if first = last then stateBytes * encodedLength first
      else if s.isAscii then 2 * stateBytes + transitionBytes
      else if backwards then backwardBytes s else forwardBytes s
    | _ =>
      if s.isAscii then 2 * stateBytes + transitionBytes * intervals.length
      else if backwards then backwardBytes s else forwardBytes s

/-! ## Expressions -/

namespace Regex

/-- The expression matches only texts with a character in them. -/
def needsText : Regex → Bool
  | .empty => false
  | .set s => !s.isEmpty
  | .look _ => false
  | .capture body => body.needsText
  | .seq first second => first.needsText || second.needsText
  | .alt left right => left.needsText && right.needsText
  | .repetition min _ body => 0 < min && body.needsText

/-- Every match begins at the start of the text. -/
def isStartAnchored : Regex → Bool
  | .look .start => true
  | .capture body => body.isStartAnchored
  | .seq first second =>
    first.isStartAnchored || (first.isEmptyOnly && second.isStartAnchored)
  | .alt left right => left.isStartAnchored && right.isStartAnchored
  | .repetition min _ body => 0 < min && body.isStartAnchored
  | _ => false

/-- Every match ends at the end of the text. -/
def isEndAnchored : Regex → Bool
  | .look .finish => true
  | .capture body => body.isEndAnchored
  | .seq first second => second.isEndAnchored || (second.isEmptyOnly && first.isEndAnchored)
  | .alt left right => left.isEndAnchored && right.isEndAnchored
  | .repetition min _ body => 0 < min && body.isEndAnchored
  | _ => false

/-- The sets of an expression that is a choice between sets only. -/
def choices? : Regex → Option (List CharSet)
  | .set s => some [s]
  | .alt left right => do return (← left.choices?) ++ (← right.choices?)
  | _ => none

/-- Number of alternatives of a choice, where a choice between choices is one choice. -/
def branchCount : Regex → Nat
  | .alt left right => left.branchCount + right.branchCount
  | _ => 1

/-- Memory for a repetition, given the memory for one copy. -/
def repetitionBytes (copy : Nat) (needsText : Bool) : Nat → Option Nat → Nat
  | 0, some 0 => stateBytes
  | 0, some 1 => copy + 2 * stateBytes + 2 * branchBytes
  | 0, none =>
    if needsText then copy + stateBytes + 2 * branchBytes
    else copy + 3 * stateBytes + 4 * branchBytes
  | min, none => min * copy + stateBytes + 2 * branchBytes
  | min, some max =>
    if min = max then min * copy
    else
      (if min = 0 then stateBytes else min * copy) + stateBytes
        + (max - min) * (copy + stateBytes + 2 * branchBytes)

mutual

/-- Memory for an expression, by the direction in which it is read. -/
def bytes (backwards : Bool) : Regex → Nat
  | .empty => stateBytes
  | .set s => setBytes backwards s
  | .look _ => stateBytes
  | .capture body => body.bytes backwards + if backwards then 0 else 2 * stateBytes
  | .seq first second => first.bytes backwards + second.bytes backwards
  | .alt left right =>
    match (Regex.alt left right).choices? with
    | some sets => setBytes backwards (.unions sets)
    | none =>
      2 * stateBytes + branchBytes * (left.branchCount + right.branchCount)
        + left.branchBytesSum backwards + right.branchBytesSum backwards
  | .repetition min max? body =>
    repetitionBytes (body.bytes backwards) body.needsText min max?

/-- Memory for the alternatives of a choice. -/
def branchBytesSum (backwards : Bool) : Regex → Nat
  | .alt left right => left.branchBytesSum backwards + right.branchBytesSum backwards
  | .empty => stateBytes
  | .set s => setBytes backwards s
  | .look _ => stateBytes
  | .capture body => body.bytes backwards + if backwards then 0 else 2 * stateBytes
  | .seq first second => first.bytes backwards + second.bytes backwards
  | .repetition min max? body =>
    repetitionBytes (body.bytes backwards) body.needsText min max?

end

/-- Memory for the whole automaton: the expression, the end, the whole match as a numbered part
and, unless every match begins where reading does, a loop that passes over what comes before. -/
def automatonBytes (backwards : Bool) (r : Regex) : Nat :=
  let anchored := if backwards then r.isEndAnchored else r.isStartAnchored
  (if anchored then stateBytes else 3 * stateBytes + 2 * branchBytes + transitionBytes)
    + (if backwards then 0 else 2 * stateBytes) + r.bytes backwards + stateBytes

/-- Both automata stay within the limit. -/
def fits (r : Regex) : Bool :=
  r.automatonBytes false ≤ automatonLimit && r.automatonBytes true ≤ automatonLimit

end Regex

end Deckwright.Pattern
