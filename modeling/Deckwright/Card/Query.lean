import Deckwright.Card.Basic

/-!
# Card queries

A query asks for the cards whose rules text or type line matches a pattern, up to a page. It may
ask only for cards that fit a color identity or are legal in a format.
-/

namespace Deckwright

/-- The attribute of a card in which a pattern is looked for. -/
inductive SearchField where
  /-- The rules text. -/
  | oracleText
  /-- The type line. -/
  | typeLine
  deriving DecidableEq, Repr, Inhabited

namespace SearchField

/-- The name of an attribute. -/
def name : SearchField → String
  | .oracleText => "oracle_text"
  | .typeLine => "type_line"

/-- Read an attribute. -/
def read : Json.Reader SearchField :=
  Json.readCase ([.oracleText, .typeLine].map fun f => (f.name, f))

/-- The text of the attribute on a card. -/
def text (field : SearchField) (card : Card) : String :=
  match field with
  | .oracleText => card.oracleText
  | .typeLine => card.typeLine

end SearchField

/-- Number of cards on a page unless another is asked for. -/
def defaultPageSize : Nat := 20

/-- A search for cards. -/
structure CardQuery where
  /-- Pattern to look for. -/
  pattern : String
  /-- Attribute to look in. -/
  field : SearchField := .oracleText
  /-- Only cards whose identity is part of this one. -/
  colorIdentity : Option ColorIdentity := none
  /-- Only cards legal in this format. -/
  format : Option String := none
  /-- Greatest number of cards wanted. -/
  pageSize : Nat := defaultPageSize
  deriving DecidableEq, Repr, Inhabited

namespace CardQuery

/-- The search of a pattern in rules texts. -/
def oracleText (pattern : String) : CardQuery := { pattern }

/-- The search of a pattern on type lines. -/
def typeLine (pattern : String) : CardQuery := { pattern, field := .typeLine }

/-- The fields of a query in a JSON text. -/
def fields : List (Json.Field CardQuery) := [
  .of "pattern" .refused Json.readString fun v q => { q with pattern := v },
  .of "field" .refused SearchField.read fun v q => { q with field := v },
  .of "color_identity" .empty (Json.readOptional ColorIdentity.read) fun v q =>
    { q with colorIdentity := v },
  .of "format" .empty (Json.readOptional Json.readString) fun v q => { q with format := v },
  .of "page_size" .refused Json.readCount fun v q => { q with pageSize := v }]

/-- Read a query. -/
def read : Json.Reader CardQuery := Json.readRecord "CardQuery" fields (oracleText "")

/-- The JSON value of a query. -/
def toJson (q : CardQuery) : Json.Value := .map [
  ("pattern", .text q.pattern),
  ("field", .text q.field.name),
  ("color_identity", .optional ColorIdentity.toJson q.colorIdentity),
  ("format", .optional .text q.format),
  ("page_size", .number q.pageSize)]

end CardQuery

end Deckwright
