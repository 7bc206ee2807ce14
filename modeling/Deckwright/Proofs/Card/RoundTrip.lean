import Deckwright.Card.Basic
import Deckwright.Proofs.Card.Color

/-!
# Reading back cards

The formats of a card are a set, and a text gives them as a list. A card is read back from a text
with any list of formats as the card that holds the set of them; written by itself, a card gives the
list of its set, and so is read back as it was.
-/

namespace Deckwright.Card

open Json

/-- The fields of a card as they are written, with the given formats. -/
def written (card : Card) (given : List String) : List (WrittenField Card) := [
  .of "name" .default (readString_readsBack card.name) fun v card => { card with name := v },
  .of "colors" .default card.colors.read_readsBack fun v card => { card with colors := v },
  .of "color_identity" .default card.colorIdentity.read_readsBack fun v card =>
    { card with colorIdentity := v },
  .of "type_line" .default (readString_readsBack card.typeLine) fun v card =>
    { card with typeLine := v },
  .of "types" .default (readTexts_readsBack card.types) fun v card => { card with types := v },
  .of "subtypes" .default (readTexts_readsBack card.subtypes) fun v card =>
    { card with subtypes := v },
  .of "keywords" .default (readTexts_readsBack card.keywords) fun v card =>
    { card with keywords := v },
  .of "oracle_text" .default (readString_readsBack card.oracleText) fun v card =>
    { card with oracleText := v },
  .of "mana_cost" .default (readString_readsBack card.manaCost) fun v card =>
    { card with manaCost := v },
  .of "legal_formats" .default (readTexts_readsBack given) fun v card =>
    { card with legalFormats := .ofList v }]

/-- The JSON value of a card with the given formats, in any order and case. -/
def toJsonWith (card : Card) (given : List String) : Value :=
  .map ((card.written given).map WrittenField.entry)

/-- A card with any formats is read as the card that holds them. -/
theorem read_toJsonWith (card : Card) (given : List String) :
    read.ReadsBack (card.toJsonWith given) { card with legalFormats := .ofList given } := by
  have names : (card.written given).map WrittenField.name =
      ["name", "colors", "color_identity", "type_line", "types", "subtypes", "keywords",
        "oracle_text", "mana_cost", "legal_formats"] := rfl
  have set : (card.written given).foldl (fun card field => field.set card) {} =
      { card with legalFormats := .ofList given } := by
    simp only [written, WrittenField.of, List.foldl_cons, List.foldl_nil]
  exact set ▸ readRecord_readsBack_of_names "Card" names (by decide) {}

/-- A card has no number. -/
theorem wordSized_toJsonWith (card : Card) (given : List String) :
    (card.toJsonWith given).WordSized :=
  .entry (.text _) <| .entry (.text _) <| .entry (.text _) <| .entry (.text _) <|
    .entry (Value.wordSized_texts _) <| .entry (Value.wordSized_texts _) <|
    .entry (Value.wordSized_texts _) <| .entry (.text _) <| .entry (.text _) <|
    .entry (Value.wordSized_texts _) .noEntry

/-- A card by itself is written with the list of its formats. -/
theorem toJson_eq_toJsonWith (card : Card) :
    card.toJson = card.toJsonWith card.legalFormats.toList :=
  rfl

/-- The text of a card is read back. -/
theorem readWhole_render (card : Card) : readWhole read card.toJson.render = .ok card := by
  have back := card.read_toJsonWith card.legalFormats.toList
  rw [Text.NameSet.ofList_toList] at back
  rw [toJson_eq_toJsonWith]
  exact back.readWhole_render (card.wordSized_toJsonWith _)

end Deckwright.Card
