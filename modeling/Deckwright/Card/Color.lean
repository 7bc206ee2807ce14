import Deckwright.Failure
import Deckwright.Json.Reader
import Deckwright.Json.Value
import Deckwright.Unicode.Blank

/-!
# Colors and color identities

A color identity is a set of the five colors. It is written by the letters of its colors in
their traditional order, and read from letters in any order and case; braces, commas, blanks and
the letter for colorless do not count.
-/

namespace Deckwright

/-- The five colors. -/
inductive Color where
  /-- White. -/
  | white
  /-- Blue. -/
  | blue
  /-- Black. -/
  | black
  /-- Red. -/
  | red
  /-- Green. -/
  | green
  deriving DecidableEq, Repr

namespace Color

/-- All colors in their traditional order. -/
def all : List Color := [.white, .blue, .black, .red, .green]

/-- The list has every color. -/
theorem mem_all (c : Color) : c ∈ all := by
  cases c <;> decide

/-- The letter of a color. -/
def symbol : Color → Char
  | .white => 'W'
  | .blue => 'U'
  | .black => 'B'
  | .red => 'R'
  | .green => 'G'

/-- The color of a letter in either case. -/
def ofSymbol? (c : Char) : Option Color :=
  match c.toUpper with
  | 'W' => some .white
  | 'U' => some .blue
  | 'B' => some .black
  | 'R' => some .red
  | 'G' => some .green
  | _ => none

/-- Every color is the color of its letter. -/
theorem ofSymbol?_symbol (c : Color) : ofSymbol? c.symbol = some c := by
  cases c <;> decide

/-- The text of a color. -/
def name (c : Color) : String := String.singleton c.symbol

/-- Read a color. -/
def read : Json.Reader Color := Json.readCase (all.map fun c => (c.name, c))

end Color

/-- A set of colors. -/
structure ColorIdentity where
  /-- White is in the set. -/
  white : Bool := false
  /-- Blue is in the set. -/
  blue : Bool := false
  /-- Black is in the set. -/
  black : Bool := false
  /-- Red is in the set. -/
  red : Bool := false
  /-- Green is in the set. -/
  green : Bool := false
  deriving DecidableEq, Repr, Inhabited

namespace ColorIdentity

/-- The set with no color. -/
def colorless : ColorIdentity := {}

/-- The color is in the set. -/
def contains (s : ColorIdentity) : Color → Bool
  | .white => s.white
  | .blue => s.blue
  | .black => s.black
  | .red => s.red
  | .green => s.green

/-- Sets with the same colors are equal. -/
theorem eq_of_contains {s t : ColorIdentity} (same : ∀ c, s.contains c = t.contains c) :
    s = t := by
  cases s
  cases t
  rw [mk.injEq]
  exact ⟨same .white, same .blue, same .black, same .red, same .green⟩

/-- The set with no color holds none. -/
@[simp] theorem contains_colorless (c : Color) : colorless.contains c = false := by
  cases c <;> rfl

/-- The set of the colors that satisfy a test. -/
def ofTest (test : Color → Bool) : ColorIdentity :=
  ⟨test .white, test .blue, test .black, test .red, test .green⟩

/-- The set of a test holds the colors that satisfy it. -/
@[simp] theorem contains_ofTest (test : Color → Bool) (c : Color) :
    (ofTest test).contains c = test c := by
  cases c <;> rfl

/-- Add a color. -/
def insert (s : ColorIdentity) (color : Color) : ColorIdentity :=
  ofTest fun c => c == color || s.contains c

/-- An added color is in the set, beside those that were. -/
@[simp] theorem contains_insert (s : ColorIdentity) (color c : Color) :
    (s.insert color).contains c = (c == color || s.contains c) :=
  contains_ofTest _ c

/-- The set of the colors in a list. -/
def ofList (colors : List Color) : ColorIdentity := colors.foldl insert colorless

/-- Colors in at least one of two sets. -/
def union (s t : ColorIdentity) : ColorIdentity := ofTest fun c => s.contains c || t.contains c

/-- A union holds the colors that one of its sets holds. -/
@[simp] theorem contains_union (s t : ColorIdentity) (c : Color) :
    (s.union t).contains c = (s.contains c || t.contains c) :=
  contains_ofTest _ c

/-- Colors in both sets. -/
def intersection (s t : ColorIdentity) : ColorIdentity :=
  ofTest fun c => s.contains c && t.contains c

/-- An intersection holds the colors that both of its sets hold. -/
@[simp] theorem contains_intersection (s t : ColorIdentity) (c : Color) :
    (s.intersection t).contains c = (s.contains c && t.contains c) :=
  contains_ofTest _ c

/-- Every color of the first set is in the second. -/
def isSubsetOf (s t : ColorIdentity) : Bool := Color.all.all fun c => !s.contains c || t.contains c

/-- A set is part of another when every color of it is in the other. -/
theorem isSubsetOf_iff (s t : ColorIdentity) :
    s.isSubsetOf t = true ↔ ∀ c, s.contains c = true → t.contains c = true := by
  rw [isSubsetOf, List.all_eq_true]
  constructor
  · intro all c within
    have := all c (Color.mem_all c)
    simpa [within] using this
  · intro all c _
    cases within : s.contains c with
    | false => rfl
    | true => simp [all c within]

/-- The colors in their traditional order. -/
def toList (s : ColorIdentity) : List Color := Color.all.filter s.contains

/-- The list of a set has the colors of the set. -/
@[simp] theorem mem_toList (s : ColorIdentity) (c : Color) :
    c ∈ s.toList ↔ s.contains c = true := by
  simp [toList, Color.mem_all]

/-- Number of colors. -/
def size (s : ColorIdentity) : Nat := s.toList.length

/-- There is no color in the set. -/
def isEmpty (s : ColorIdentity) : Bool := s == colorless

/-- The letters of the colors. -/
def text (s : ColorIdentity) : String := String.ofList (s.toList.map Color.symbol)

/-- The character does not count when colors are read. -/
def isIgnored (c : Char) : Bool :=
  c = '{' || c = '}' || c = ',' || c = 'C' || c = 'c' || Unicode.isBlank c

/-- Read letters into a set that holds the colors read before; the first character that neither
stands for a color nor is ignored is the error. -/
def readSymbols (s : ColorIdentity) : List Char → Except Char ColorIdentity
  | [] => .ok s
  | c :: rest =>
    if isIgnored c then readSymbols s rest
    else match Color.ofSymbol? c with
      | some color => readSymbols (s.insert color) rest
      | none => .error c

/-- Read a set of colors. -/
def parse (text : String) : Except Failure ColorIdentity :=
  match readSymbols colorless text.toList with
  | .ok s => .ok s
  | .error c => .error (.parse (.colorSymbol c text))

/-- Read a set of colors from a JSON text. -/
def read : Json.Reader ColorIdentity :=
  Json.readString.check fun text => (parse text).mapError Failure.message

/-- The JSON value of a set of colors. -/
def toJson (s : ColorIdentity) : Json.Value := .text s.text

end ColorIdentity

end Deckwright
