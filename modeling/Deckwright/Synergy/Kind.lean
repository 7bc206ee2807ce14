import Deckwright.Card.Color

/-!
# Kinds of synergy and scores

Every suggestion is of one kind, and each kind has a base score. The score of a candidate is the
base score with a bonus for the colors it shares with the source card, times a multiplier, and
never leaves the range from zero to one. All scores are binary32 numbers.
-/

namespace Deckwright

/-- A kind of affinity between two cards. -/
inductive SynergyType where
  /-- A keyword ability of the source card. -/
  | keyword
  /-- A creature type of the source card. -/
  | tribal
  /-- The rules text of the source card. -/
  | ability
  /-- A card type of the source card. -/
  | theme
  /-- A theme of decks. -/
  | archetype
  deriving DecidableEq, Repr, Inhabited

namespace SynergyType

/-- All kinds. -/
def all : List SynergyType := [.keyword, .tribal, .ability, .theme, .archetype]

/-- The name of a kind. -/
def name : SynergyType → String
  | .keyword => "keyword"
  | .tribal => "tribal"
  | .ability => "ability"
  | .theme => "theme"
  | .archetype => "archetype"

/-- The score of a kind before bonus and multiplier. -/
def baseScore : SynergyType → Float32
  | .keyword => 0.80
  | .tribal => 0.85
  | .ability => 0.75
  | .theme => 0.70
  | .archetype => 0.65

/-- Read a kind. -/
def read : Json.Reader SynergyType := Json.readCase (all.map fun t => (t.name, t))

end SynergyType

/-- The four passes over a source card, in order. -/
inductive SynergyPass where
  /-- Over its keyword abilities. -/
  | keyword
  /-- Over its creature types. -/
  | tribal
  /-- Over its rules text. -/
  | ability
  /-- Over its card types. -/
  | type
  deriving DecidableEq, Repr, Inhabited

namespace SynergyPass

/-- All passes. -/
def all : List SynergyPass := [.keyword, .tribal, .ability, .type]

/-- The name of a pass. -/
def name : SynergyPass → String
  | .keyword => "keyword"
  | .tribal => "tribal"
  | .ability => "ability"
  | .type => "type"

/-- The kind of what a pass finds. -/
def synergyType : SynergyPass → SynergyType
  | .keyword => .keyword
  | .tribal => .tribal
  | .ability => .ability
  | .type => .theme

/-- Read a pass. -/
def read : Json.Reader SynergyPass := Json.readCase (all.map fun p => (p.name, p))

end SynergyPass

/-- What on a card makes a rule fire. -/
inductive TriggerKind where
  /-- A keyword ability. -/
  | keyword
  /-- The rules text. -/
  | abilityPattern
  /-- A card type. -/
  | type
  deriving DecidableEq, Repr, Inhabited

namespace TriggerKind

/-- All triggers. -/
def all : List TriggerKind := [.keyword, .abilityPattern, .type]

/-- The name of a trigger. -/
def name : TriggerKind → String
  | .keyword => "keyword"
  | .abilityPattern => "ability_pattern"
  | .type => "type"

/-- Read a trigger. -/
def read : Json.Reader TriggerKind := Json.readCase (all.map fun t => (t.name, t))

end TriggerKind

/-- A suggested card. -/
structure Suggestion where
  /-- Name of the card. -/
  name : String
  /-- Kind of affinity. -/
  synergyType : SynergyType
  /-- Why the card is suggested. -/
  reason : String
  /-- Score. -/
  score : Float32
  /-- Mana cost of the card. -/
  manaCost : String
  /-- Type line of the card. -/
  typeLine : String
  deriving Inhabited

namespace Suggestion

/-- The fields of a suggestion in a JSON text. -/
def fields : List (Json.Field Suggestion) := [
  .of "name" .refused Json.readString fun v s => { s with name := v },
  .of "synergy_type" .refused SynergyType.read fun v s => { s with synergyType := v },
  .of "reason" .refused Json.readString fun v s => { s with reason := v },
  .of "score" .refused Json.readFloat32 fun v s => { s with score := v },
  .of "mana_cost" .refused Json.readString fun v s => { s with manaCost := v },
  .of "type_line" .refused Json.readString fun v s => { s with typeLine := v }]

/-- Read a suggestion. -/
def read : Json.Reader Suggestion :=
  Json.readRecord "SynergyResult" fields ⟨"", .keyword, "", 0, "", ""⟩

end Suggestion

namespace Score

/-- The number within the range from zero to one that is nearest to a number; a number that is
not in order stays. -/
def clamp (x : Float32) : Float32 := if x < 0 then 0 else if 1 < x then 1 else x

/-- The bonus for the colors of a candidate: the weight times the share of the colors of the
source that the candidate has. A colorless source gives none. -/
def colorBonus (source candidate : ColorIdentity) (weight : Float32) : Float32 :=
  if source.isEmpty then 0
  else
    weight * (source.intersection candidate).size.toUInt64.toFloat32
      / source.size.toUInt64.toFloat32

/-- The score of a candidate. -/
def ofCandidate (type : SynergyType) (source candidate : ColorIdentity)
    (multiplier weight : Float32) : Float32 :=
  clamp ((type.baseScore + colorBonus source candidate weight) * multiplier)

/-- An integer that orders all binary32 numbers: negative ones by falling magnitude, then
positive ones, with the numbers that are not in order at both ends. -/
def orderKey (x : Float32) : Int :=
  let bits := x.toBits.toNat
  if bits < 0x80000000 then bits else (0x80000000 : Int) - bits - 1

end Score

end Deckwright
