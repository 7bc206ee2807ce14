import Deckwright.Card.Query
import Deckwright.Combo.Matcher

/-!
# Settings

Settings are plain data. They are built from defaults, or read from a JSON text in which every
field may be left out, and they are checked before they are used.
-/

namespace Deckwright

/-- Least number of suggestions in an answer. -/
def minSuggestions : Nat := 1

/-- Greatest number of suggestions in an answer. -/
def maxSuggestions : Nat := 100

/-- Settings of the scorer. -/
structure ScorerConfig where
  /-- Number of cards asked for in one search. -/
  pageSize : Nat := defaultPageSize
  /-- Greatest number of searches at a time, which has no influence on answers. -/
  maxConcurrentSearches : Nat := 2
  /-- Multiplier of cards that only share a creature type with the source card. -/
  fellowTribalMultiplier : Float32 := 0.9
  /-- Weight of the bonus for shared colors. -/
  colorBonusWeight : Float32 := 0.1
  deriving Inhabited

namespace ScorerConfig

/-- The number is between zero and one. -/
def isFraction (x : Float32) : Bool := 0 ≤ x && x ≤ 1

/-- The first cause for which the settings cannot be used, if there is one. -/
def defect? (c : ScorerConfig) : Option SettingsCause :=
  if c.pageSize = 0 then some .emptyPage
  else if c.maxConcurrentSearches = 0 then some .noSearches
  else if !isFraction c.fellowTribalMultiplier then some .multiplierRange
  else if !isFraction c.colorBonusWeight then some .weightRange
  else none

/-- The settings, unless they cannot be used. -/
def validate (c : ScorerConfig) : Except Failure ScorerConfig :=
  match c.defect? with
  | some cause => .error (.settings cause)
  | none => .ok c

/-- The fields of the settings in a JSON text. -/
def fields : List (Json.Field ScorerConfig) := [
  .of "page_size" .default Json.readCount fun v c => { c with pageSize := v },
  .of "max_concurrent_searches" .default Json.readCount fun v c =>
    { c with maxConcurrentSearches := v },
  .of "fellow_tribal_multiplier" .default Json.readFloat32 fun v c =>
    { c with fellowTribalMultiplier := v },
  .of "color_bonus_weight" .default Json.readFloat32 fun v c => { c with colorBonusWeight := v }]

/-- Read the settings. -/
def read : Json.Reader ScorerConfig := Json.readRecord "ScorerConfig" fields {}

end ScorerConfig

/-- All settings. -/
structure Settings where
  /-- Settings of the scorer. -/
  scorer : ScorerConfig := {}
  /-- Settings of the combo matcher. -/
  combos : ComboMatcherConfig := {}
  deriving Inhabited

namespace Settings

/-- The fields of the settings in a JSON text. -/
def fields : List (Json.Field Settings) := [
  .of "scorer" .default ScorerConfig.read fun v s => { s with scorer := v },
  .of "combos" .default ComboMatcherConfig.read fun v s => { s with combos := v }]

/-- Read the settings. -/
def read : Json.Reader Settings := Json.readRecord "GlaiveConfig" fields {}

/-- Read settings from a JSON text and check them. -/
def ofJson (text : String) : Except Failure Settings :=
  match Json.readWhole read text with
  | .error problem => .error (.settings (.settingsText problem))
  | .ok settings => do
    let _ ← settings.scorer.validate
    return settings

/-- Read settings from a file and check them. -/
def ofFile (file : StoredFile) : Except Failure Settings := do ofJson (← file.readText)

end Settings

end Deckwright
