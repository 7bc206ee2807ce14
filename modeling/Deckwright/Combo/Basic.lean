import Deckwright.Card.Color
import Deckwright.Text.Basic

/-!
# Combos

A combo is a set of cards that do something together, and it is known by its identifier. Its
cards are listed by name; a name counts once, however it is spelled, and a blank one not at all.
-/

namespace Deckwright

/-- A combo. -/
structure Combo where
  /-- Identifier. -/
  id : String
  /-- Names of the cards, in order. -/
  cards : List String
  /-- What the combo does. -/
  description : String := ""
  /-- Colors of the combo. -/
  colorIdentity : ColorIdentity := .colorless
  /-- Names of its effects. -/
  effects : List String := []
  deriving DecidableEq, Repr, Inhabited

/-- The names whose normal form is neither blank nor among those seen before, in order. -/
def distinctNames (seen : List String) : List String → List String
  | [] => []
  | name :: rest =>
    let key := normalizeName name
    if key.isEmpty || seen.contains key then distinctNames seen rest
    else name :: distinctNames (key :: seen) rest

/-- A name that is blank, or whose normal form was seen, is passed over. -/
theorem distinctNames_cons_of_idle {seen rest : List String} {first : String}
    (idle : normalizeName first = "" ∨ normalizeName first ∈ seen) :
    distinctNames seen (first :: rest) = distinctNames seen rest := by
  have passed : ((normalizeName first).isEmpty || seen.contains (normalizeName first)) = true := by
    simpa using idle
  rw [distinctNames, if_pos passed]

/-- Another name is kept, and its normal form is seen from then on. -/
theorem distinctNames_cons_of_new {seen rest : List String} {first : String}
    (new : ¬(normalizeName first = "" ∨ normalizeName first ∈ seen)) :
    distinctNames seen (first :: rest) =
      first :: distinctNames (normalizeName first :: seen) rest := by
  have kept : ¬((normalizeName first).isEmpty || seen.contains (normalizeName first)) = true := by
    simpa using new
  rw [distinctNames, if_neg kept]

namespace Combo

/-- The combo with each card listed once, under its first spelling, and no blank names. -/
def distinctCards (combo : Combo) : Combo := { combo with cards := distinctNames [] combo.cards }

/-- The combo with an identifier and cards, each listed once. -/
def ofCards (id : String) (cards : List String) : Combo := distinctCards { id, cards }

/-- The normal forms of the names of the cards. -/
def normalizedCards (combo : Combo) : List String := combo.cards.map normalizeName

/-- The combo lists the card. -/
def containsCard (combo : Combo) (name : String) : Bool :=
  combo.normalizedCards.contains (normalizeName name)

/-- Number of cards. -/
def size (combo : Combo) : Nat := combo.cards.length

/-- The fields of a combo in a JSON text. -/
def fields : List (Json.Field Combo) := [
  .of "id" .refused Json.readString fun v combo => { combo with id := v },
  .of "cards" .refused (Json.readList Json.readString) fun v combo => { combo with cards := v },
  .of "description" .default Json.readString fun v combo => { combo with description := v },
  .of "color_identity" .default ColorIdentity.read fun v combo =>
    { combo with colorIdentity := v },
  .of "effects" .default (Json.readList Json.readString) fun v combo =>
    { combo with effects := v }]

/-- Read a combo. -/
def read : Json.Reader Combo := Json.readRecord "Combo" fields { id := "", cards := [] }

/-- The JSON value of a combo. -/
def toJson (combo : Combo) : Json.Value := .map [
  ("id", .text combo.id),
  ("cards", .texts combo.cards),
  ("description", .text combo.description),
  ("color_identity", combo.colorIdentity.toJson),
  ("effects", .texts combo.effects)]

end Combo

/-- A combo compared with a list of cards. -/
structure ComboMatch where
  /-- The combo. -/
  combo : Combo
  /-- Cards of the combo that are not in the list, in the order of the combo. -/
  missing : List String
  /-- Number of cards of the combo that are in the list. -/
  present : Nat
  deriving DecidableEq, Repr, Inhabited

namespace ComboMatch

/-- No card is missing. -/
def isComplete (m : ComboMatch) : Bool := m.missing.isEmpty

/-- The JSON value of a comparison. -/
def toJson (m : ComboMatch) : Json.Value := .map [
  ("combo", m.combo.toJson),
  ("missing_cards", .texts m.missing),
  ("present_count", .number m.present)]

end ComboMatch

end Deckwright
