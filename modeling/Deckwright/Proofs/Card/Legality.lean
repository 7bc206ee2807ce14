import Deckwright.Proofs.Card.RoundTrip
import Deckwright.Proofs.Json.InStep
import Deckwright.Proofs.Unicode.CaseForms

/-!
# The formats a card is legal in

A card is asked for a format by its lower-case form. A card that is built holds the lower-case forms
of the formats given for it, so their case does not count. A card that is read holds the formats as
the text gives them, and a format that is not given in lower case is not found, not even by the name
that was given. To say what a text gives, its formats are read by themselves, as a list, in step
with the card.
-/

namespace Deckwright

open Json

/-- Lower case is kept by lower-casing. -/
theorem lowercase_lowercase (text : String) : lowercase (lowercase text) = lowercase text := by
  rw [lowercase, lowercase, String.toList_ofList, Unicode.lower_lower]

/-- A reading is known by the value that it gives. -/
theorem Json.eq_ok_of_toOption {α : Type} {result : Except Problem α} {a : α}
    (gives : result.toOption = some a) : result = .ok a := by
  cases result with
  | error p => cases gives
  | ok b => exact congrArg Except.ok (Option.some.inj gives)

namespace Card

/-- The card is legal in the given formats, each of them in any case, and in no others. -/
def IgnoresCase (card : Card) (given : List String) : Prop :=
  ∀ format, card.isLegalIn format = true ↔ ∃ name ∈ given, lowercase name = lowercase format

/-- The case of the formats of a card that is built does not count. -/
theorem withLegalFormats_ignoresCase (card : Card) (given : List String) :
    (card.withLegalFormats given).IgnoresCase given := by
  intro format
  simp [isLegalIn, withLegalFormats]

/-- The card holds formats as they were given. -/
def HoldsFormats (card : Card) (given : List String) : Prop := card.legalFormats = .ofList given

namespace HoldsFormats

variable {card : Card} {given : List String} (holds : card.HoldsFormats given)

include holds

/-- A card that holds formats as they were given is legal in those given in lower case. -/
theorem isLegalIn_iff (format : String) :
    card.isLegalIn format = true ↔ lowercase format ∈ given := by
  rw [HoldsFormats] at holds
  rw [isLegalIn, holds, Text.NameSet.contains_ofList, List.contains_iff_mem]

/-- Case does not count if each format is also given in lower case, and only then. -/
theorem ignoresCase_iff : card.IgnoresCase given ↔ ∀ name ∈ given, lowercase name ∈ given := by
  constructor
  · intro ignores name mem
    exact (holds.isLegalIn_iff name).1 ((ignores name).2 ⟨name, mem, rfl⟩)
  · intro lowered format
    rw [holds.isLegalIn_iff]
    constructor
    · intro mem
      exact ⟨lowercase format, mem, lowercase_lowercase format⟩
    · rintro ⟨name, mem, same⟩
      exact same ▸ lowered name mem

end HoldsFormats

/-! ## Cards that are read -/

/-- The fields of a card, of which only the formats are kept, as a list. -/
def formatFields : List (Json.Field (List String)) := [
  .of "name" .default readString fun _ given => given,
  .of "colors" .default ColorIdentity.read fun _ given => given,
  .of "color_identity" .default ColorIdentity.read fun _ given => given,
  .of "type_line" .default readString fun _ given => given,
  .of "types" .default (readList readString) fun _ given => given,
  .of "subtypes" .default (readList readString) fun _ given => given,
  .of "keywords" .default (readList readString) fun _ given => given,
  .of "oracle_text" .default readString fun _ given => given,
  .of "mana_cost" .default readString fun _ given => given,
  .of "legal_formats" .default (readList readString) fun formats _ => formats]

/-- Read the formats that the text of a card gives. -/
def readFormats : Reader (List String) := readRecord "Card" formatFields []

/-- A field that is not the one of the formats is read in step. -/
theorem inStep_of_passed {γ : Type} {set : γ → Card → Card}
    (keeps : ∀ v card, (set v card).legalFormats = card.legalFormats) (name : String)
    (value : Reader γ) :
    Field.InStep HoldsFormats (.of name .default value set)
      (.of name .default value fun _ given => given) := by
  refine Field.inStep_of ?_ name .default value
  intro v card given holds
  exact (keeps v card).trans holds

/-- A card is read in step with the formats given for it, and holds them. -/
theorem read_inStep (ts : List Token) : InStep HoldsFormats (read ts) (readFormats ts) := by
  have last : Field.InStep HoldsFormats
      (.of "legal_formats" .default (readList readString) fun v card =>
        { card with legalFormats := .ofList v })
      (.of "legal_formats" .default (readList readString) fun formats _ => formats) := by
    refine Field.inStep_of ?_ _ _ _
    intro formats card given _
    rfl
  refine readRecord_inStep "Card" ?_ ?_ ts
  · refine .cons (inStep_of_passed ?_ _ _) <| .cons (inStep_of_passed ?_ _ _) <|
      .cons (inStep_of_passed ?_ _ _) <| .cons (inStep_of_passed ?_ _ _) <|
      .cons (inStep_of_passed ?_ _ _) <| .cons (inStep_of_passed ?_ _ _) <|
      .cons (inStep_of_passed ?_ _ _) <| .cons (inStep_of_passed ?_ _ _) <|
      .cons (inStep_of_passed ?_ _ _) <| .cons last .nil
    all_goals exact fun _ _ => rfl
  · rfl

/-- A card that is built is legal in the formats given for it, in any case. A text can give a card
any formats, and a card that is read is legal in those that the text gives in lower case; so their
case does not count exactly if each of them is given in lower case as well. -/
theorem legality_of_built_and_read_cards (card : Card) (given : List String) :
    (card.withLegalFormats given).IgnoresCase given ∧
    (∃ card' : Card, readWhole read (card.toJsonWith given).render = .ok card' ∧
      (card'.IgnoresCase given ↔ ∀ name ∈ given, lowercase name ∈ given)) ∧
    ∀ text : String, readWhole read text = .ok card →
      ∃ listed : List String, readWhole readFormats text = .ok listed ∧
        (∀ format, card.isLegalIn format = true ↔ lowercase format ∈ listed) ∧
        (card.IgnoresCase listed ↔ ∀ name ∈ listed, lowercase name ∈ listed) := by
  refine ⟨card.withLegalFormats_ignoresCase given, ?_, ?_⟩
  · refine ⟨{ card with legalFormats := .ofList given }, ?_, HoldsFormats.ignoresCase_iff rfl⟩
    exact (card.read_toJsonWith given).readWhole_render (card.wordSized_toJsonWith given)
  · intro text accepted
    obtain ⟨listed, gives, holds⟩ := readWhole_inStep read_inStep accepted
    exact ⟨listed, gives, holds.isLegalIn_iff, holds.ignoresCase_iff⟩

/-- A card with a format in lower case is read, and case does not count. -/
theorem legality_of_built_and_read_cards_of_modern :
    let text := "\x7b\"name\": \"Sol Ring\", \"legal_formats\": [\"modern\"]\x7d"
    let card : Card := { name := "Sol Ring", legalFormats := .ofList ["modern"] }
    readWhole read text = .ok card ∧ readWhole readFormats text = .ok ["modern"] ∧
      card.IgnoresCase ["modern"] := by
  intro text card
  have accepted : readWhole read text = .ok card := eq_ok_of_toOption (by decide +kernel)
  have gives : readWhole readFormats text = .ok ["modern"] := eq_ok_of_toOption (by decide +kernel)
  obtain ⟨-, -, reads⟩ := legality_of_built_and_read_cards card ["modern"]
  obtain ⟨listed, gives', -, ignores⟩ := reads text accepted
  have same : listed = ["modern"] := Except.ok.inj (gives'.symm.trans gives)
  rw [same] at ignores
  exact ⟨accepted, gives, ignores.2 (by decide +kernel)⟩

/-- A card that is read with a capitalized format is not legal in it, in whatever case it is asked
for. -/
theorem capitals_are_missed_if_read :
    let text := "\x7b\"name\": \"Sol Ring\", \"legal_formats\": [\"Modern\"]\x7d"
    let card : Card := { name := "Sol Ring", legalFormats := .ofList ["Modern"] }
    readWhole read text = .ok card ∧ readWhole readFormats text = .ok ["Modern"] ∧
      lowercase "Modern" = lowercase "modern" ∧ card.isLegalIn "Modern" = false ∧
      card.isLegalIn "modern" = false := by
  intro text card
  have accepted : readWhole read text = .ok card := eq_ok_of_toOption (by decide +kernel)
  have gives : readWhole readFormats text = .ok ["Modern"] := eq_ok_of_toOption (by decide +kernel)
  have lowered : lowercase "Modern" = "modern" ∧ lowercase "modern" = "modern" := by
    decide +kernel
  refine ⟨accepted, gives, lowered.1.trans lowered.2.symm, ?_, ?_⟩
  · decide +kernel
  · decide +kernel

end Card

end Deckwright
