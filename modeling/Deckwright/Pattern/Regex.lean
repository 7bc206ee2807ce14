import Deckwright.Pattern.Expr
import Deckwright.Unicode.Blank
import Deckwright.Unicode.Case
import Deckwright.Unicode.Property

/-!
# Regular expressions over characters

Flags, character properties and case are resolved here: what remains of a pattern is sets of
characters, positions, and the three ways to combine them. A pattern whose classes name
properties that do not exist, or that would match part of a character, has no regular
expression.
-/

namespace Deckwright.Pattern

open Unicode

/-- Positions a regular expression may ask for. -/
inductive Look where
  /-- Start of the text. -/
  | start
  /-- End of the text. -/
  | finish
  /-- Start of a line that ends in a line feed. -/
  | lineStart
  /-- End of a line that ends in a line feed. -/
  | lineEnd
  /-- Start of a line that ends in a line feed, a carriage return or both. -/
  | crlfStart
  /-- End of a line that ends in a line feed, a carriage return or both. -/
  | crlfEnd
  /-- A word character on exactly one side. -/
  | boundary (ascii : Bool)
  /-- A word character on both sides or on none. -/
  | notBoundary (ascii : Bool)
  /-- A word character on the right side only. -/
  | wordStart (ascii : Bool)
  /-- A word character on the left side only. -/
  | wordEnd (ascii : Bool)
  /-- No word character on the left side. -/
  | wordStartHalf (ascii : Bool)
  /-- No word character on the right side. -/
  | wordEndHalf (ascii : Bool)
  deriving DecidableEq, Repr

/-- A regular expression over characters. -/
inductive Regex where
  /-- The empty text. -/
  | empty
  /-- One character of a set. -/
  | set (members : CharSet)
  /-- A position. -/
  | look (l : Look)
  /-- A numbered or named part. -/
  | capture (body : Regex)
  /-- One part after another. -/
  | seq (first second : Regex)
  /-- One part or another. -/
  | alt (left right : Regex)
  /-- Between `min` and `max` copies, or `min` and more. -/
  | repetition (min : Nat) (max? : Option Nat) (body : Regex)
  deriving Repr

/-- The flags that decide what an expression means. -/
structure Flags where
  /-- Case is ignored. -/
  caseless : Bool := false
  /-- Line anchors match at every line. -/
  multiLine : Bool := false
  /-- The dot matches line ends. -/
  dotAll : Bool := false
  /-- Classes and literals are about characters, not bytes. -/
  unicode : Bool := true
  /-- Carriage returns end lines. -/
  crlf : Bool := false
  deriving DecidableEq, Repr

namespace Flags

/-- Give one flag a value. -/
def set (f : Flags) : Flag × Bool → Flags
  | (.caseless, b) => { f with caseless := b }
  | (.multiLine, b) => { f with multiLine := b }
  | (.dotAll, b) => { f with dotAll := b }
  | (.unicode, b) => { f with unicode := b }
  | (.crlf, b) => { f with crlf := b }
  | (.swapGreed, _) => f
  | (.extended, _) => f

/-- Give flags values. -/
def change (f : Flags) (entries : FlagChange) : Flags := entries.foldl set f

end Flags

/-- The ASCII characters of a named class. -/
def asciiClass (name : String) : CharSet :=
  let digits := (0x30, 0x39)
  let uppers := (0x41, 0x5A)
  let lowers := (0x61, 0x7A)
  .ofPairs <| match name with
    | "alnum" => [digits, uppers, lowers]
    | "alpha" => [uppers, lowers]
    | "ascii" => [(0, 0x7F)]
    | "blank" => [(0x9, 0x9), (0x20, 0x20)]
    | "cntrl" => [(0, 0x1F), (0x7F, 0x7F)]
    | "digit" => [digits]
    | "graph" => [(0x21, 0x7E)]
    | "lower" => [lowers]
    | "print" => [(0x20, 0x7E)]
    | "punct" => [(0x21, 0x2F), (0x3A, 0x40), (0x5B, 0x60), (0x7B, 0x7E)]
    | "space" => [(0x9, 0xD), (0x20, 0x20)]
    | "upper" => [uppers]
    | "word" => [digits, uppers, (0x5F, 0x5F), lowers]
    | "xdigit" => [digits, (0x41, 0x46), (0x61, 0x66)]
    | _ => []

/-- Word characters among the ASCII characters. -/
def asciiWord : CharSet := asciiClass "word"

/-- The members of a short class. -/
def ShortClass.members (f : Flags) : ShortClass → CharSet
  | .digit => if f.unicode then decimalDigits else asciiClass "digit"
  | .space => if f.unicode then blanks else asciiClass "space"
  | .word => if f.unicode then wordCharacters else asciiWord

/-- The bytes. -/
def byteSet : CharSet := .range 0 0xFF

/-- ASCII letters in the other case. -/
def asciiFold (s : CharSet) : CharSet :=
  let move (letters : Interval) (distance : Int) := s.intervals.map fun i =>
    let part := i.meet letters
    if part.isEmpty then part
    else ⟨(part.first + distance).toNat, (part.last + distance).toNat⟩
  .ofIntervals (s.intervals ++ move ⟨0x41, 0x5A⟩ 32 ++ move ⟨0x61, 0x7A⟩ (-32))

/-- The members of a bracket from its content: case is ignored before the bracket is negated.
Where bytes are meant, a bracket with bytes that are no ASCII characters is refused. -/
def closeBracket (f : Flags) (negated : Bool) (s : CharSet) : Option CharSet :=
  if f.unicode then
    let s := if f.caseless then s.closeFold else s
    some (if negated then s.complement else s)
  else
    let s := if f.caseless then asciiFold s else s
    let s := if negated then byteSet.difference s else s
    if s.isAscii then some s else none

/-- The members of a class by property. Where bytes are meant there are none such. -/
def PropertyClass.members? (f : Flags) (p : PropertyClass) : Option CharSet :=
  if f.unicode then
    let found := match p.value? with
      | none => propertySet? p.name
      | some value => propertyValueSet? p.name value
    found.bind (closeBracket f p.negated)
  else none

/-- The members of a short class, or the others. -/
def shortMembers? (f : Flags) (kind : ShortClass) (negated : Bool) : Option CharSet :=
  let s := kind.members f
  if f.unicode then some (if negated then s.complement else s)
  else if negated then none
  else some s

/-- The code point of a literal inside a bracket. -/
def Literal.member? (f : Flags) (l : Literal) : Option Nat :=
  if f.unicode || l.char.toNat ≤ 0x7F then some l.char.toNat else none

/-- The set of an operation between two sets. -/
def ClassOperation.apply : ClassOperation → CharSet → CharSet → CharSet
  | .intersection => .intersection
  | .difference => .difference
  | .symmetricDifference => .symmetricDifference

mutual

/-- The members of the content of a bracket, before case is ignored. -/
def ClassExpr.members? (f : Flags) : ClassExpr → Option CharSet
  | .nothing => some .empty
  | .literal l => (l.member? f).map .singleton
  | .range first last => do return .range (← first.member? f) (← last.member? f)
  | .ascii name negated => closeBracket f negated (asciiClass name)
  | .property p => p.members? f
  | .short kind negated => shortMembers? f kind negated
  | .bracket negated inner => (inner.members? f).bind (closeBracket f negated)
  | .union items => ClassExpr.membersOfList? f items
  | .operation op left right => do
    let s ← left.members? f
    let t ← right.members? f
    let fold (s : CharSet) : CharSet :=
      if !f.caseless then s else if f.unicode then s.closeFold else asciiFold s
    return op.apply (fold s) (fold t)

/-- The members of any of several items. -/
def ClassExpr.membersOfList? (f : Flags) : List ClassExpr → Option CharSet
  | [] => some .empty
  | item :: rest => do
    let s ← item.members? f
    let t ← ClassExpr.membersOfList? f rest
    return s.union t

end

/-- The regular expression of a literal. Where bytes are meant, a byte that is no ASCII
character is refused, and only ASCII letters have another case. -/
def Literal.regex? (f : Flags) (l : Literal) : Option Regex :=
  let c := l.char.toNat
  if f.unicode then
    some (.set (if f.caseless then .ofCodePoints (foldOrbit c) else .singleton c))
  else if l.twoDigits && 0x7F < c then none
  else some (.set (if f.caseless && c ≤ 0x7F then asciiFold (.singleton c) else .singleton c))

/-- The regular expression of the dot. -/
def dotRegex? (f : Flags) : Option Regex :=
  if !f.unicode then none
  else if f.dotAll then some (.set .full)
  else if f.crlf then some (.set (CharSet.ofCodePoints [0xA, 0xD]).complement)
  else some (.set (CharSet.singleton 0xA).complement)

/-- The position meant by an anchor. -/
def Anchor.look (f : Flags) : Anchor → Look
  | .startLine => if !f.multiLine then .start else if f.crlf then .crlfStart else .lineStart
  | .endLine => if !f.multiLine then .finish else if f.crlf then .crlfEnd else .lineEnd
  | .startText => .start
  | .endText => .finish
  | .wordBoundary => .boundary !f.unicode
  | .notWordBoundary => .notBoundary !f.unicode
  | .wordStart => .wordStart !f.unicode
  | .wordEnd => .wordEnd !f.unicode
  | .wordStartHalf => .wordStartHalf !f.unicode
  | .wordEndHalf => .wordEndHalf !f.unicode

/-- One part after another, where the empty text adds nothing. -/
def Regex.andThen : Regex → Regex → Regex
  | .empty, second => second
  | first, .empty => first
  | first, second => .seq first second

/-- The expression matches no text with a character in it. -/
def Regex.isEmptyOnly : Regex → Bool
  | .empty => true
  | .set _ => false
  | .look _ => true
  | .capture body => body.isEmptyOnly
  | .seq first second => first.isEmptyOnly && second.isEmptyOnly
  | .alt left right => left.isEmptyOnly && right.isEmptyOnly
  | .repetition _ max? body => max? = some 0 || body.isEmptyOnly

/-- Copies of an expression. Copies of the empty text are as good as one, no copy is the empty
text, and one copy is the expression itself. -/
def Regex.repeated (min : Nat) (max? : Option Nat) (body : Regex) : Regex :=
  let least := if body.isEmptyOnly then Nat.min min 1 else min
  let most? := if body.isEmptyOnly then some (Nat.min (max?.getD 1) 1) else max?
  if most? = some 0 then .empty
  else if least = 1 ∧ most? = some 1 then body
  else .repetition least most? body

mutual

/-- The regular expression of a pattern under the given flags, with the flags that hold after
it. -/
def Expr.regex? (f : Flags) : Expr → Option (Regex × Flags)
  | .empty => some (.empty, f)
  | .setFlags change => some (.empty, f.change change)
  | .literal l => (l.regex? f).map fun r => (r, f)
  | .dot => (dotRegex? f).map fun r => (r, f)
  | .anchor a => some (.look (a.look f), f)
  | .property p => (p.members? f).map fun s => (.set s, f)
  | .short kind negated => (shortMembers? f kind negated).map fun s => (.set s, f)
  | .bracket negated inner =>
    ((inner.members? f).bind (closeBracket f negated)).map fun s => (.set s, f)
  | .repetition min max? body =>
    (body.regex? f).map fun (r, after) => (.repeated min max? r, after)
  | .group .capture body => (body.regex? f).map fun (r, _) => (.capture r, f)
  | .group (.flags change) body => (body.regex? (f.change change)).map fun (r, _) => (r, f)
  | .alternation branches => Expr.anyOf? f branches
  | .concat parts => Expr.allOf? f parts

/-- The regular expression of several parts in a row. -/
def Expr.allOf? (f : Flags) : List Expr → Option (Regex × Flags)
  | [] => some (.empty, f)
  | part :: rest =>
    match part.regex? f with
    | none => none
    | some (first, between) =>
      (Expr.allOf? between rest).map fun (second, after) => (first.andThen second, after)

/-- The regular expression of several alternatives. -/
def Expr.anyOf? (f : Flags) : List Expr → Option (Regex × Flags)
  | [] => some (.empty, f)
  | [branch] => branch.regex? f
  | branch :: rest =>
    match branch.regex? f with
    | none => none
    | some (left, between) =>
      (Expr.anyOf? between rest).map fun (right, after) => (.alt left right, after)

end

end Deckwright.Pattern
