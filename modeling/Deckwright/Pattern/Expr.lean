/-!
# Pattern expressions

A pattern is written as a regular expression. This module holds its syntax tree: what was
written, before flags, character properties and case decide what it means.
-/

namespace Deckwright.Pattern

/-- Switches that a pattern may turn on and off. -/
inductive Flag where
  /-- Ignore case. -/
  | caseless
  /-- The line anchors match at every line. -/
  | multiLine
  /-- The dot matches line ends too. -/
  | dotAll
  /-- Repetitions prefer few copies, which changes no answer about whether a text matches. -/
  | swapGreed
  /-- Classes and literals are about characters, not bytes. -/
  | unicode
  /-- Carriage returns end lines too. -/
  | crlf
  /-- Blanks and comments in the pattern do not count. -/
  | extended
  deriving DecidableEq, Repr

/-- A list of flags with the value each one gets. -/
abbrev FlagChange := List (Flag × Bool)

/-- The new value of a flag, if the change gives it one. -/
def FlagChange.value? (change : FlagChange) (flag : Flag) : Option Bool :=
  (change.find? fun entry => entry.1 == flag).map (·.2)

/-- A character of the pattern that stands for itself. -/
structure Literal where
  /-- The character. -/
  char : Char
  /-- It was written by two hexadecimal digits, and so may mean a byte. -/
  twoDigits : Bool := false
  deriving DecidableEq, Repr

/-- The three short classes. -/
inductive ShortClass where
  /-- Digits. -/
  | digit
  /-- Blanks. -/
  | space
  /-- Word characters. -/
  | word
  deriving DecidableEq, Repr

/-- Positions that a pattern may ask for. -/
inductive Anchor where
  /-- Start of the text, or of a line. -/
  | startLine
  /-- End of the text, or of a line. -/
  | endLine
  /-- Start of the text. -/
  | startText
  /-- End of the text. -/
  | endText
  /-- A word character on exactly one side. -/
  | wordBoundary
  /-- A word character on both sides or on none. -/
  | notWordBoundary
  /-- A word character on the right side only. -/
  | wordStart
  /-- A word character on the left side only. -/
  | wordEnd
  /-- No word character on the left side. -/
  | wordStartHalf
  /-- No word character on the right side. -/
  | wordEndHalf
  deriving DecidableEq, Repr

/-- A class written by the name of a property, and of a value of it. -/
structure PropertyClass where
  /-- Name of the property. -/
  name : List Char
  /-- Name of the value, if one is given. -/
  value? : Option (List Char)
  /-- The characters without the property are meant. -/
  negated : Bool
  deriving DecidableEq, Repr

/-- Operations between the classes inside a bracket. -/
inductive ClassOperation where
  /-- Members of both. -/
  | intersection
  /-- Members of the first only. -/
  | difference
  /-- Members of exactly one. -/
  | symmetricDifference
  deriving DecidableEq, Repr

/-- What stands inside a bracket. -/
inductive ClassExpr where
  /-- No member. -/
  | nothing
  /-- One character. -/
  | literal (l : Literal)
  /-- All characters from one to another. -/
  | range (first last : Literal)
  /-- A class of ASCII characters by name. -/
  | ascii (name : String) (negated : Bool)
  /-- A class by property. -/
  | property (p : PropertyClass)
  /-- A short class. -/
  | short (kind : ShortClass) (negated : Bool)
  /-- A bracket inside the bracket. -/
  | bracket (negated : Bool) (inner : ClassExpr)
  /-- Members of any of several items. -/
  | union (items : List ClassExpr)
  /-- Two classes joined by an operation. -/
  | operation (op : ClassOperation) (left right : ClassExpr)
  deriving Repr

/-- What the parentheses of a group are for. -/
inductive GroupKind where
  /-- The group is numbered or named. -/
  | capture
  /-- The group changes flags inside it. -/
  | flags (change : FlagChange)
  deriving DecidableEq, Repr

/-- A pattern as written. -/
inductive Expr where
  /-- Nothing. -/
  | empty
  /-- Flags for the rest of the enclosing group. -/
  | setFlags (change : FlagChange)
  /-- One character. -/
  | literal (l : Literal)
  /-- Any character. -/
  | dot
  /-- A position. -/
  | anchor (a : Anchor)
  /-- A class by property. -/
  | property (p : PropertyClass)
  /-- A short class. -/
  | short (kind : ShortClass) (negated : Bool)
  /-- A bracketed class. -/
  | bracket (negated : Bool) (inner : ClassExpr)
  /-- Between `min` and `max` copies, or `min` and more. -/
  | repetition (min : Nat) (max? : Option Nat) (body : Expr)
  /-- A parenthesised pattern. -/
  | group (kind : GroupKind) (body : Expr)
  /-- One of several patterns. -/
  | alternation (branches : List Expr)
  /-- Several patterns one after the other. -/
  | concat (parts : List Expr)
  deriving Repr

mutual

/-- Levels of nesting inside a bracket. -/
def ClassExpr.depth : ClassExpr → Nat
  | .bracket _ inner => inner.depth + 1
  | .union items => ClassExpr.depthOfList items + 1
  | .operation _ left right => max left.depth right.depth + 1
  | _ => 0

/-- Greatest number of levels among several items. -/
def ClassExpr.depthOfList : List ClassExpr → Nat
  | [] => 0
  | item :: rest => max item.depth (ClassExpr.depthOfList rest)

end

mutual

/-- Levels of nesting of a pattern. -/
def Expr.depth : Expr → Nat
  | .bracket _ inner => inner.depth + 1
  | .repetition _ _ body => body.depth + 1
  | .group _ body => body.depth + 1
  | .alternation branches => Expr.depthOfList branches + 1
  | .concat parts => Expr.depthOfList parts + 1
  | _ => 0

/-- Greatest number of levels among several patterns. -/
def Expr.depthOfList : List Expr → Nat
  | [] => 0
  | part :: rest => max part.depth (Expr.depthOfList rest)

end

/-- Deepest nesting that a pattern may have. -/
def nestingLimit : Nat := 250

/-- Several patterns in a row as one. -/
def Expr.ofParts : List Expr → Expr
  | [] => .empty
  | [part] => part
  | parts => .concat parts

/-- Several items of a bracket as one. -/
def ClassExpr.ofItems : List ClassExpr → ClassExpr
  | [] => .nothing
  | [item] => item
  | items => .union items

end Deckwright.Pattern
