import Deckwright.Pattern.Footprint
import Deckwright.Pattern.Parser
import Deckwright.Pattern.Track
import Deckwright.Text.Basic

/-!
# Text patterns

Rule tables and card queries are written as regular expressions that ignore case. A pattern that
is no regular expression is not an error: it is searched for as a literal text, again without
regard to case, so that one malformed entry of a table cannot fail a whole request.

A creature type is looked for in rules text, where it may stand in the plural, and on type lines,
where it stands as a word of its own.
-/

namespace Deckwright

open Unicode

/-- A pattern ready to be looked for in texts. -/
inductive TextPattern where
  /-- A regular expression, with the text it was written as. -/
  | regex (source : String) (expression : Pattern.Regex)
  /-- A text in lower case. -/
  | literal (lowered : List Char)

namespace TextPattern

/-- The flags a pattern starts with: case is ignored. -/
def initialFlags : Pattern.Flags := { caseless := true }

/-- The regular expression a pattern is written as, if it is one of a size within the limit. -/
def regex? (pattern : String) : Option Pattern.Regex := do
  let expr ← Pattern.Expr.parse? pattern.toList
  let (expression, _) ← expr.regex? initialFlags
  if expression.fits then some expression else none

/-- The pattern that finds a text, whatever its case. -/
def ofLiteral (text : String) : TextPattern := .literal (lower text.toList)

/-- The pattern meant by a text: its regular expression, or else the text itself. -/
def compile (pattern : String) : TextPattern :=
  match regex? pattern with
  | some expression => .regex pattern expression
  | none => ofLiteral pattern

/-- The pattern occurs somewhere in the text. -/
def isMatch (p : TextPattern) (text : String) : Bool :=
  match p with
  | .regex _ expression => expression.matchesIn text.toList
  | .literal lowered => Text.occursIn lowered (lower text.toList)

/-- The pattern is searched for as a literal text. -/
def isLiteral : TextPattern → Bool
  | .regex _ _ => false
  | .literal _ => true

/-- The text of the pattern: as written, or in lower case when it is searched for literally. -/
def text : TextPattern → String
  | .regex source _ => source
  | .literal lowered => String.ofList lowered

/-- The kind of the pattern and its text in quotation marks. -/
def describe (p : TextPattern) : String :=
  (if p.isLiteral then "Substring(" else "Regex(") ++ Text.quote p.text ++ ")"

end TextPattern

namespace Pattern

/-! ## Patterns for creature types -/

/-- The pattern that matches a text character by character. -/
def escape (text : List Char) : List Char :=
  text.flatMap fun c => if isMeta c then ['\\', c] else [c]

/-- Creature types whose plural is more than the singular with an ending. -/
def irregularPlurals : List (String × String) := [
  ("Dwarf", "Dwarves"), ("Elf", "Elves"), ("Fungus", "Fungi"), ("Mouse", "Mice"), ("Ox", "Oxen"),
  ("Werewolf", "Werewolves"), ("Wolf", "Wolves")]

/-- The irregular plural of a creature type, if it has one. -/
def irregularPlural? (subtype : String) : Option String :=
  (irregularPlurals.find? fun entry => Text.equalIgnoringCase entry.1 subtype).map (·.2)

/-- The pattern that finds a creature type in rules text: a word that begins with it, or with
its irregular plural. -/
def subtypeReference (subtype : String) : String :=
  let singular := escape subtype.toList
  String.ofList <| match irregularPlural? subtype with
    | some plural =>
      ['\\', 'b', '(', '?', ':'] ++ singular ++ ['|'] ++ escape plural.toList ++ [')']
    | none => ['\\', 'b'] ++ singular

/-- The pattern that finds a creature type as a word of its own. -/
def subtypeExact (subtype : String) : String :=
  String.ofList (['\\', 'b'] ++ escape subtype.toList ++ ['\\', 'b'])

end Pattern

end Deckwright
