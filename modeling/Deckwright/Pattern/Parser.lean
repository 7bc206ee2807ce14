import Deckwright.Pattern.Expr
import Deckwright.Unicode.Blank
import Deckwright.Unicode.Property

/-!
# Reading pattern expressions

A pattern is read from left to right. Reading either gives a syntax tree or fails: why a
pattern is not a regular expression has no consequence, so a failure carries no cause. Each
reader takes the characters not yet read and returns what it made of the first of them,
together with the rest.
-/

namespace Deckwright.Pattern

open Unicode (isBlank)

/-- Drop blanks and comments, which run from a number sign to the end of the line. -/
def dropFiller : (inComment : Bool) → List Char → List Char
  | _, [] => []
  | true, c :: rest => dropFiller (c != '\n') rest
  | false, c :: rest =>
    if c = '#' then dropFiller true rest
    else if isBlank c then dropFiller false rest
    else c :: rest

/-- Drop what does not count between two parts of a pattern. -/
def skipFiller (extended : Bool) (text : List Char) : List Char :=
  if extended then dropFiller false text else text

/-- What is left after filler is no longer than the text. -/
theorem dropFiller_length_le (inComment : Bool) (text : List Char) :
    (dropFiller inComment text).length ≤ text.length := by
  induction text generalizing inComment with
  | nil => simp [dropFiller]
  | cons c rest ih =>
    cases inComment with
    | true => exact Nat.le_trans (ih _) (Nat.le_succ _)
    | false =>
      simp only [dropFiller]
      split
      · exact Nat.le_trans (ih _) (Nat.le_succ _)
      · split
        · exact Nat.le_trans (ih _) (Nat.le_succ _)
        · exact Nat.le_refl _

/-- Dropping filler makes no text longer. -/
theorem skipFiller_length_le (extended : Bool) (text : List Char) :
    (skipFiller extended text).length ≤ text.length := by
  unfold skipFiller
  split
  · exact dropFiller_length_le _ _
  · exact Nat.le_refl _

/-- Value of a digit in a base up to sixteen. -/
def digitValue? (base : Nat) (c : Char) : Option Nat :=
  let value :=
    if '0' ≤ c ∧ c ≤ '9' then some (c.toNat - '0'.toNat)
    else if 'a' ≤ c ∧ c ≤ 'f' then some (c.toNat - 'a'.toNat + 10)
    else if 'A' ≤ c ∧ c ≤ 'F' then some (c.toNat - 'A'.toNat + 10)
    else none
  value.filter (· < base)

/-- The character of a code point, unless the number is none. -/
def charOf? (n : Nat) : Option Char :=
  if n.isValidChar then some (Char.ofNat n) else none

/-- Read digits as long as there are any; filler may stand after each. -/
def readDigits (extended : Bool) (base : Nat) (digits : List Nat) (text : List Char) :
    List Nat × List Char :=
  match text with
  | [] => (digits.reverse, [])
  | c :: rest =>
    match digitValue? base c with
    | some d => readDigits extended base (d :: digits) (skipFiller extended rest)
    | none => (digits.reverse, c :: rest)
  termination_by text.length
  decreasing_by exact Nat.lt_succ_of_le (skipFiller_length_le _ _)

/-- The number written by digits in a base. -/
def numberOf (base : Nat) (digits : List Nat) : Nat :=
  digits.foldl (fun n d => n * base + d) 0

/-- Greatest count of a repetition, which is that of a word of 32 bits. -/
def countLimit : Nat := 0xFFFFFFFF

/-- The number in a repetition count: `none` if no digit stands there. -/
inductive Count where
  /-- No digit stands there. -/
  | missing
  /-- The number is too large. -/
  | tooLarge
  /-- A number. -/
  | number (n : Nat)
  deriving DecidableEq, Repr

/-- The count as a number. -/
def Count.toNat? : Count → Option Nat
  | .number n => some n
  | _ => none

/-- Read the number of a repetition count, with blanks around it. -/
def readCount (extended : Bool) (text : List Char) : Count × List Char :=
  let (digits, rest) := readDigits extended 10 [] (text.dropWhile isBlank)
  let rest := if rest.takeWhile isBlank = [] then rest
    else skipFiller extended (rest.dropWhile isBlank)
  if digits.isEmpty then (.missing, rest)
  else
    let n := numberOf 10 digits
    (if n ≤ countLimit then .number n else .tooLarge, rest)

/-- Read exactly the given number of hexadecimal digits. -/
def readFixedDigits (extended : Bool) : Nat → List Nat → List Char → Option (List Nat × List Char)
  | 0, digits, text => some (digits.reverse, text)
  | count + 1, digits, text =>
    match text with
    | [] => none
    | c :: rest =>
      match digitValue? 16 c with
      | some d => readFixedDigits extended count (d :: digits) (skipFiller extended rest)
      | none => none

/-- Read a code point after its letter: in braces, or with a fixed number of digits. -/
def readCodePoint (extended : Bool) (count : Nat) (text : List Char) :
    Option (Literal × List Char) :=
  match skipFiller extended text with
  | '{' :: rest =>
    match readDigits extended 16 [] (skipFiller extended rest) with
    | (digits, '}' :: rest) =>
      if digits.isEmpty then none
      else (charOf? (numberOf 16 digits)).map fun c => (⟨c, false⟩, skipFiller extended rest)
    | _ => none
  | text =>
    match readFixedDigits extended count [] text with
    | some (digits, rest) =>
      (charOf? (numberOf 16 digits)).map fun c => (⟨c, count == 2⟩, rest)
    | none => none

/-- Read up to a closing brace, passing over filler. -/
def readBraced (extended : Bool) (name : List Char) (text : List Char) :
    Option (List Char × List Char) :=
  match text with
  | [] => none
  | '}' :: rest => some (name.reverse, rest)
  | c :: rest => readBraced extended (c :: name) (skipFiller extended rest)
  termination_by text.length
  decreasing_by exact Nat.lt_succ_of_le (skipFiller_length_le _ _)

/-- Split at the first place where a mark stands. -/
def splitAtMark (mark : List Char) (before : List Char) : List Char →
    Option (List Char × List Char)
  | [] => none
  | c :: rest =>
    if mark.isPrefixOf (c :: rest) then some (before.reverse, (c :: rest).drop mark.length)
    else splitAtMark mark (c :: before) rest

/-- The class meant by the text between the braces of a property. -/
def propertyOf (negated : Bool) (text : List Char) : PropertyClass :=
  match splitAtMark ['!', '='] [] text with
  | some (name, value) => ⟨name, some value, !negated⟩
  | none =>
    match splitAtMark [':'] [] text with
    | some (name, value) => ⟨name, some value, negated⟩
    | none =>
      match splitAtMark ['='] [] text with
      | some (name, value) => ⟨name, some value, negated⟩
      | none => ⟨text, none, negated⟩

/-- Read a property after its letter. -/
def readProperty (extended negated : Bool) (text : List Char) :
    Option (PropertyClass × List Char) :=
  match skipFiller extended text with
  | [] => none
  | '{' :: rest =>
    (readBraced extended [] (skipFiller extended rest)).map fun (name, rest) =>
      (propertyOf negated name, rest)
  | c :: rest => if c = '\\' then none else some (⟨[c], none, negated⟩, skipFiller extended rest)

/-- Characters that have a meaning of their own in patterns. -/
def isMeta (c : Char) : Bool :=
  ['\\', '.', '+', '*', '?', '(', ')', '|', '[', ']', '\x7b', '\x7d', '^', '$', '#', '&', '-',
    '~'].contains c

/-- A backslash before the character changes nothing: it is an ASCII character, but no letter,
digit or angle bracket. -/
def isEscapable (c : Char) : Bool :=
  isMeta c || (c.toNat ≤ 0x7F && !c.isAlphanum && c != '<' && c != '>')

/-- What a single backslash sequence or character stands for. -/
inductive Primitive where
  /-- One character. -/
  | literal (l : Literal)
  /-- A position. -/
  | anchor (a : Anchor)
  /-- A class by property. -/
  | property (p : PropertyClass)
  /-- A short class. -/
  | short (kind : ShortClass) (negated : Bool)

/-- A primitive outside brackets. -/
def Primitive.toExpr : Primitive → Expr
  | .literal l => .literal l
  | .anchor a => .anchor a
  | .property p => .property p
  | .short kind negated => .short kind negated

/-- A primitive inside brackets, where positions have no place. -/
def Primitive.toClass? : Primitive → Option ClassExpr
  | .literal l => some (.literal l)
  | .anchor _ => none
  | .property p => some (.property p)
  | .short kind negated => some (.short kind negated)

/-- A primitive as an end of a range. -/
def Primitive.toLiteral? : Primitive → Option Literal
  | .literal l => some l
  | _ => none

/-- Letters and hyphens, of which the names of word boundaries are made. -/
def isBoundaryLetter (c : Char) : Bool := c.isAlpha || c == '-'

/-- Read the name of a word boundary. -/
def readBoundaryName (extended : Bool) (name : List Char) (text : List Char) :
    List Char × List Char :=
  match text with
  | [] => (name.reverse, [])
  | c :: rest =>
    if isBoundaryLetter c then readBoundaryName extended (c :: name) (skipFiller extended rest)
    else (name.reverse, c :: rest)
  termination_by text.length
  decreasing_by exact Nat.lt_succ_of_le (skipFiller_length_le _ _)

/-- The boundary of the given name. -/
def boundaryOf? (name : String) : Option Anchor :=
  if name = "start" then some .wordStart
  else if name = "end" then some .wordEnd
  else if name = "start-half" then some .wordStartHalf
  else if name = "end-half" then some .wordEndHalf
  else none

/-- Read what may follow the letter of a word boundary: the name of a special one in braces. A
brace that opens no name is left for a repetition. -/
def readBoundary (extended : Bool) (text : List Char) : Option (Anchor × List Char) :=
  match text with
  | '{' :: rest =>
    match skipFiller extended rest with
    | [] => none
    | c :: tail =>
      if isBoundaryLetter c then
        match readBoundaryName extended [] (c :: tail) with
        | (name, '}' :: rest) => (boundaryOf? (String.ofList name)).map fun a => (a, rest)
        | _ => none
      else some (.wordBoundary, text)
  | _ => some (.wordBoundary, text)

/-- Read what follows a backslash. -/
def readEscape (extended : Bool) (text : List Char) : Option (Primitive × List Char) :=
  match text with
  | [] => none
  | c :: rest =>
    let plain (l : Char) := some (Primitive.literal ⟨l, false⟩, rest)
    let anchor (a : Anchor) := some (Primitive.anchor a, rest)
    let short (kind : ShortClass) (negated : Bool) := some (Primitive.short kind negated, rest)
    if isEscapable c then plain c
    else match c with
      | 'x' => (readCodePoint extended 2 rest).map fun (l, rest) => (.literal l, rest)
      | 'u' => (readCodePoint extended 4 rest).map fun (l, rest) => (.literal l, rest)
      | 'U' => (readCodePoint extended 8 rest).map fun (l, rest) => (.literal l, rest)
      | 'p' => (readProperty extended false rest).map fun (p, rest) => (.property p, rest)
      | 'P' => (readProperty extended true rest).map fun (p, rest) => (.property p, rest)
      | 'd' => short .digit false
      | 'D' => short .digit true
      | 's' => short .space false
      | 'S' => short .space true
      | 'w' => short .word false
      | 'W' => short .word true
      | 'a' => plain '\x07'
      | 'f' => plain '\x0C'
      | 't' => plain '\t'
      | 'n' => plain '\n'
      | 'r' => plain '\r'
      | 'v' => plain '\x0B'
      | 'A' => anchor .startText
      | 'z' => anchor .endText
      | 'b' => (readBoundary extended rest).map fun (a, rest) => (.anchor a, rest)
      | 'B' => anchor .notWordBoundary
      | '<' => anchor .wordStart
      | '>' => anchor .wordEnd
      | _ => none

/-! ## Brackets -/

/-- Names of the classes of ASCII characters. -/
def asciiClassNames : List String :=
  ["alnum", "alpha", "ascii", "blank", "cntrl", "digit", "graph", "lower", "print", "punct",
    "space", "upper", "word", "xdigit"]

/-- Read a named class of ASCII characters after its bracket; anything else is none. -/
def readAsciiClass? (text : List Char) : Option (ClassExpr × List Char) :=
  match text with
  | ':' :: rest =>
    let (negated, rest) := match rest with
      | '^' :: rest => (true, rest)
      | rest => (false, rest)
    let name := String.ofList (rest.takeWhile (· != ':'))
    match rest.dropWhile (· != ':') with
    | ':' :: ']' :: rest =>
      if asciiClassNames.contains name then some (.ascii name negated, rest) else none
    | _ => none
  | _ => none

/-- A bracket that is being read. -/
structure OpenBracket where
  /-- The bracket means the characters that are not in it. -/
  negated : Bool
  /-- An operation that waits for its right side. -/
  pending? : Option (ClassOperation × ClassExpr)
  /-- Items read since the last operation, last one first. -/
  items : List ClassExpr

namespace OpenBracket

/-- Add an item. -/
def push (b : OpenBracket) (item : ClassExpr) : OpenBracket := { b with items := item :: b.items }

/-- What the bracket holds so far. -/
def content (b : OpenBracket) : ClassExpr :=
  let right := ClassExpr.ofItems b.items.reverse
  match b.pending? with
  | none => right
  | some (op, left) => .operation op left right

/-- Go on to the right side of an operation. -/
def startOperation (b : OpenBracket) (op : ClassOperation) : OpenBracket :=
  { b with pending? := some (op, b.content), items := [] }

end OpenBracket

/-- Read the hyphens that may open a bracket. -/
def readHyphens (extended : Bool) (b : OpenBracket) (text : List Char) :
    OpenBracket × List Char :=
  match text with
  | [] => (b, [])
  | c :: rest =>
    if c = '-' then readHyphens extended (b.push (.literal ⟨'-', false⟩)) (skipFiller extended rest)
    else (b, c :: rest)
  termination_by text.length
  decreasing_by exact Nat.lt_succ_of_le (skipFiller_length_le _ _)

/-- Read the start of a bracket after its opening mark: a negation, hyphens, or a closing mark
that stands for itself. -/
def openBracket (extended : Bool) (text : List Char) : Option (OpenBracket × List Char) :=
  let (negated, rest) := match skipFiller extended text with
    | '^' :: rest => (true, skipFiller extended rest)
    | rest => (false, rest)
  match readHyphens extended ⟨negated, none, []⟩ rest with
  | (_, []) => none
  | (b, ']' :: rest) =>
    if b.items.isEmpty then
      let rest := skipFiller extended rest
      if rest.isEmpty then none else some (b.push (.literal ⟨']', false⟩), rest)
    else some (b, ']' :: rest)
  | (b, rest) => some (b, rest)

/-- Read one character or backslash sequence of a bracket. -/
def readClassItem (extended : Bool) : List Char → Option (Primitive × List Char)
  | [] => none
  | '\\' :: rest => readEscape extended rest
  | c :: rest => some (.literal ⟨c, false⟩, rest)

/-- The character that decides whether a hyphen makes a range: the next one that is no filler,
where the first character of a comment counts. -/
def peekPastFiller (extended : Bool) (text : List Char) : Option Char :=
  if extended then
    let next := match text.dropWhile isBlank with
      | '#' :: rest => rest.dropWhile isBlank
      | rest => rest
    if next.isEmpty then text.head? else next.head?
  else text.head?

/-- Read a character, a class or a range of a bracket. -/
def readClassRange (extended : Bool) (text : List Char) : Option (ClassExpr × List Char) :=
  match readClassItem extended text with
  | none => none
  | some (first, rest) =>
    match skipFiller extended rest with
    | [] => none
    | '-' :: rest =>
      if peekPastFiller extended rest = some ']' || peekPastFiller extended rest = some '-' then
        first.toClass?.map fun item => (item, '-' :: rest)
      else
        match skipFiller extended rest with
        | [] => none
        | rest =>
          match readClassItem extended rest with
          | none => none
          | some (last, rest) =>
            match first.toLiteral?, last.toLiteral? with
            | some a, some b => if a.char ≤ b.char then some (.range a b, rest) else none
            | _, _ => none
    | rest => first.toClass?.map fun item => (item, rest)

/-- Read the rest of a bracket. The outermost bracket is the last of `outer`, and `fuel` bounds
the number of items. -/
def readBracket (extended : Bool) : (fuel : Nat) → (outer : List OpenBracket) →
    (inner : OpenBracket) → List Char → Option (Bool × ClassExpr × List Char)
  | 0, _, _, _ => none
  | fuel + 1, outer, inner, text =>
    match skipFiller extended text with
    | [] => none
    | '[' :: rest =>
      match readAsciiClass? rest with
      | some (item, rest) => readBracket extended fuel outer (inner.push item) rest
      | none =>
        match openBracket extended rest with
        | none => none
        | some (b, rest) => readBracket extended fuel (inner :: outer) b rest
    | ']' :: rest =>
      match outer with
      | [] => some (inner.negated, inner.content, rest)
      | next :: outer =>
        readBracket extended fuel outer (next.push (.bracket inner.negated inner.content)) rest
    | '&' :: '&' :: rest =>
      readBracket extended fuel outer (inner.startOperation .intersection) rest
    | '-' :: '-' :: rest =>
      readBracket extended fuel outer (inner.startOperation .difference) rest
    | '~' :: '~' :: rest =>
      readBracket extended fuel outer (inner.startOperation .symmetricDifference) rest
    | rest =>
      match readClassRange extended rest with
      | none => none
      | some (item, rest) => readBracket extended fuel outer (inner.push item) rest

/-! ## Groups -/

/-- The flag of a letter. -/
def flagOf? (c : Char) : Option Flag :=
  match c with
  | 'i' => some .caseless
  | 'm' => some .multiLine
  | 's' => some .dotAll
  | 'U' => some .swapGreed
  | 'u' => some .unicode
  | 'R' => some .crlf
  | 'x' => some .extended
  | _ => none

/-- Read flags up to the mark that ends them. A flag is named at most once, and a minus sign, of
which there is at most one, has a flag after it. -/
def readFlags (negated afterSign : Bool) (change : FlagChange) :
    List Char → Option (FlagChange × Char × List Char)
  | [] => none
  | c :: rest =>
    if c = ':' || c = ')' then
      if afterSign then none else some (change.reverse, c, rest)
    else if c = '-' then
      if negated then none else readFlags true true change rest
    else
      match flagOf? c with
      | none => none
      | some flag =>
        if change.any fun entry => entry.1 == flag then none
        else readFlags negated false ((flag, !negated) :: change) rest

/-- The character may stand in the name of a group. -/
def isNameChar (first : Bool) (c : Char) : Bool :=
  c == '_' || Unicode.alphabetic.contains c.toNat
    || (!first && (c == '.' || c == '[' || c == ']' || Unicode.numeric.contains c.toNat))

/-- Read the name of a group up to its closing angle bracket. -/
def readName (text : List Char) : Option (List Char × List Char) :=
  let name := text.takeWhile (· != '>')
  match text.drop name.length with
  | '>' :: rest =>
    match name with
    | [] => none
    | c :: tail =>
      if isNameChar true c && tail.all (isNameChar false) then some (name, rest) else none
  | _ => none

/-- A group that is being read, seen from its inside. -/
structure OpenGroup where
  /-- What the group is for. -/
  kind : GroupKind
  /-- Finished alternatives of the pattern around it, last one first. -/
  branches : List Expr
  /-- Parts before the group of the alternative around it, last one first. -/
  parts : List Expr
  /-- Filler did not count before the group. -/
  extended : Bool

/-- How far the reading of a pattern has come. -/
structure Progress where
  /-- Groups not yet closed, innermost first. -/
  groups : List OpenGroup
  /-- Finished alternatives, last one first. -/
  branches : List Expr
  /-- Parts of the current alternative, last one first. -/
  parts : List Expr
  /-- Filler does not count. -/
  extended : Bool
  /-- Names of groups read so far. -/
  names : List (List Char)

namespace Progress

/-- The start of a pattern. -/
def start : Progress := ⟨[], [], [], false, []⟩

/-- Add a part to the current alternative. -/
def push (p : Progress) (part : Expr) : Progress := { p with parts := part :: p.parts }

/-- The pattern read since the innermost open group began. -/
def current (p : Progress) : Expr :=
  let last := Expr.ofParts p.parts.reverse
  if p.branches.isEmpty then last else .alternation (last :: p.branches).reverse

/-- Go on to the next alternative. -/
def startBranch (p : Progress) : Progress :=
  { p with branches := Expr.ofParts p.parts.reverse :: p.branches, parts := [] }

/-- Go inside a group. -/
def openGroup (p : Progress) (kind : GroupKind) (extended : Bool) : Progress :=
  { p with
    groups := ⟨kind, p.branches, p.parts, p.extended⟩ :: p.groups
    branches := []
    parts := []
    extended := extended }

/-- Come out of the innermost group. -/
def closeGroup? (p : Progress) : Option Progress :=
  match p.groups with
  | [] => none
  | g :: groups =>
    some { p with
      groups := groups
      branches := g.branches
      parts := .group g.kind p.current :: g.parts
      extended := g.extended }

/-- Repeat the last part, which must be there and be more than a change of flags. -/
def repeatLast? (p : Progress) (min : Nat) (max? : Option Nat) : Option Progress :=
  match p.parts with
  | [] => none
  | .setFlags _ :: _ => none
  | part :: parts => some { p with parts := .repetition min max? part :: parts }

end Progress

/-- Drop the mark after a repetition that makes it prefer few copies. -/
def dropLazyMark : List Char → List Char
  | '?' :: rest => rest
  | rest => rest

/-- Read a count after its opening brace: least and greatest number of copies. -/
def readRepeat (extended : Bool) (text : List Char) :
    Option (Nat × Option Nat × List Char) :=
  match skipFiller extended text with
  | [] => none
  | text =>
    let (least, rest) := readCount extended text
    let finish (min : Nat) (max? : Option Nat) (rest : List Char) :=
      match rest with
      | '}' :: rest =>
        if max?.all (min ≤ ·) then some (min, max?, dropLazyMark (skipFiller extended rest))
        else none
      | _ => none
    match rest with
    | ',' :: rest =>
      match skipFiller extended rest with
      | '}' :: rest => least.toNat?.bind fun min => finish min none ('}' :: rest)
      | rest =>
        let (greatest, rest) := readCount extended rest
        match least.toNat?, greatest.toNat? with
        | some min, some max => finish min (some max) rest
        | _, _ => none
    | rest => least.toNat?.bind fun min => finish min (some min) rest

/-- Read what follows an opening parenthesis. -/
def readGroup (p : Progress) (text : List Char) : Option (Progress × List Char) :=
  let named (rest : List Char) :=
    match readName rest with
    | none => none
    | some (name, rest) =>
      if p.names.contains name then none
      else some ({ p with names := name :: p.names }.openGroup .capture p.extended, rest)
  match skipFiller p.extended text with
  | '?' :: '=' :: _ => none
  | '?' :: '!' :: _ => none
  | '?' :: '<' :: '=' :: _ => none
  | '?' :: '<' :: '!' :: _ => none
  | '?' :: 'P' :: '<' :: rest => named rest
  | '?' :: '<' :: rest => named rest
  | '?' :: rest =>
    match readFlags false false [] rest with
    | none => none
    | some (change, mark, rest) =>
      let extended := (change.value? .extended).getD p.extended
      if mark = ')' then
        if change.isEmpty then none
        else some ({ p with extended := extended }.push (.setFlags change), rest)
      else some (p.openGroup (.flags change) extended, rest)
  | rest => some (p.openGroup .capture p.extended, rest)

/-- Read one part of a pattern. -/
def readPart (p : Progress) (text : List Char) : Option (Progress × List Char) :=
  match text with
  | [] => none
  | c :: rest =>
    match c with
    | '(' => readGroup p rest
    | ')' => p.closeGroup?.map fun p => (p, rest)
    | '|' => some (p.startBranch, rest)
    | '[' =>
      match openBracket p.extended rest with
      | none => none
      | some (b, rest) =>
        (readBracket p.extended (rest.length + 1) [] b rest).map fun (negated, inner, rest) =>
          (p.push (.bracket negated inner), rest)
    | '?' => (p.repeatLast? 0 (some 1)).map fun p => (p, dropLazyMark rest)
    | '*' => (p.repeatLast? 0 none).map fun p => (p, dropLazyMark rest)
    | '+' => (p.repeatLast? 1 none).map fun p => (p, dropLazyMark rest)
    | '{' =>
      match readRepeat p.extended rest with
      | none => none
      | some (min, max?, rest) => (p.repeatLast? min max?).map fun p => (p, rest)
    | '\\' => (readEscape p.extended rest).map fun (item, rest) => (p.push item.toExpr, rest)
    | '.' => some (p.push .dot, rest)
    | '^' => some (p.push (.anchor .startLine), rest)
    | '$' => some (p.push (.anchor .endLine), rest)
    | c => some (p.push (.literal ⟨c, false⟩), rest)

/-- Read the parts of a pattern to its end; `fuel` bounds their number. -/
def readParts : (fuel : Nat) → Progress → List Char → Option Expr
  | 0, _, _ => none
  | fuel + 1, p, text =>
    match skipFiller p.extended text with
    | [] => if p.groups.isEmpty then some p.current else none
    | rest =>
      match readPart p rest with
      | none => none
      | some (p, rest) => readParts fuel p rest

/-- Read a pattern. A pattern nested deeper than the limit is none. -/
def Expr.parse? (text : List Char) : Option Expr :=
  (readParts (text.length + 1) .start text).filter fun e => e.depth ≤ nestingLimit

end Deckwright.Pattern
