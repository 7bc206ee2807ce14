import Deckwright.Card.Color
import Deckwright.Card.TypeLine
import Deckwright.Text.Basic
import Deckwright.Text.NameTable

/-!
# Cards

A card is a record of the attributes that suggestions and searches look at, and it is read and
written field by field. A field that is not given is empty.
-/

namespace Deckwright

open Text (NameSet)

/-- A card. -/
structure Card where
  /-- Name. -/
  name : String := ""
  /-- Colors of the card. -/
  colors : ColorIdentity := .colorless
  /-- Colors of the card and of its costs, which decide the decks it fits in. -/
  colorIdentity : ColorIdentity := .colorless
  /-- Type line. -/
  typeLine : String := ""
  /-- Card types. -/
  types : List String := []
  /-- Subtypes. -/
  subtypes : List String := []
  /-- Keyword abilities. -/
  keywords : List String := []
  /-- Rules text. -/
  oracleText : String := ""
  /-- Mana cost. -/
  manaCost : String := ""
  /-- Names of the formats the card is legal in. -/
  legalFormats : NameSet := .empty
  deriving DecidableEq, Inhabited

namespace Card

/-- The card with a name and a type line, which gives its types and subtypes. -/
def ofTypeLine (name typeLine : String) : Card :=
  let (types, subtypes) := TypeLine.split typeLine
  { name, typeLine, types, subtypes }

/-- The card with both sets of colors replaced by one. -/
def withColors (card : Card) (identity : ColorIdentity) : Card :=
  { card with colors := identity, colorIdentity := identity }

/-- The card with the formats it is legal in replaced, in lower case. -/
def withLegalFormats (card : Card) (formats : List String) : Card :=
  { card with legalFormats := .ofList (formats.map lowercase) }

/-- The normal form of the name. -/
def normalizedName (card : Card) : String := normalizeName card.name

/-- The card has a type, in any case of its ASCII letters. -/
def hasType (card : Card) (type : String) : Bool :=
  card.types.any fun t => Text.equalIgnoringCase t type

/-- The subtypes of the card are creature types: it is a creature, or of one of the two types
that have the subtypes of creatures. -/
def hasCreatureSubtypes (card : Card) : Bool :=
  card.hasType "Creature" || card.hasType "Tribal" || card.hasType "Kindred"

/-- The card is legal in a format, in any case. -/
def isLegalIn (card : Card) (format : String) : Bool :=
  card.legalFormats.contains (lowercase format)

/-- The fields of a card in a JSON text. -/
def fields : List (Json.Field Card) := [
  .of "name" .default Json.readString fun v card => { card with name := v },
  .of "colors" .default ColorIdentity.read fun v card => { card with colors := v },
  .of "color_identity" .default ColorIdentity.read fun v card => { card with colorIdentity := v },
  .of "type_line" .default Json.readString fun v card => { card with typeLine := v },
  .of "types" .default (Json.readList Json.readString) fun v card => { card with types := v },
  .of "subtypes" .default (Json.readList Json.readString) fun v card =>
    { card with subtypes := v },
  .of "keywords" .default (Json.readList Json.readString) fun v card =>
    { card with keywords := v },
  .of "oracle_text" .default Json.readString fun v card => { card with oracleText := v },
  .of "mana_cost" .default Json.readString fun v card => { card with manaCost := v },
  .of "legal_formats" .default (Json.readList Json.readString) fun v card =>
    { card with legalFormats := .ofList v }]

/-- Read a card. -/
def read : Json.Reader Card := Json.readRecord "Card" fields {}

/-- The JSON value of a card. -/
def toJson (card : Card) : Json.Value := .map [
  ("name", .text card.name),
  ("colors", card.colors.toJson),
  ("color_identity", card.colorIdentity.toJson),
  ("type_line", .text card.typeLine),
  ("types", .texts card.types),
  ("subtypes", .texts card.subtypes),
  ("keywords", .texts card.keywords),
  ("oracle_text", .text card.oracleText),
  ("mana_cost", .text card.manaCost),
  ("legal_formats", .texts card.legalFormats.toList)]

end Card

end Deckwright
