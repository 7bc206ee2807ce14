import Deckwright.Combo.Matcher
import Deckwright.Synergy.Scorer

/-!
# Relationships between cards

A finder joins a scorer and a combo matcher: it suggests cards, finds the combos in a list of
cards, and describes a card by the themes, rules and combos it takes part in.
-/

namespace Deckwright

open Text (NameTable)

/-- The complete and the nearly complete combos in a list of cards. -/
structure ComboDetection where
  /-- Combos with every card in the list. -/
  complete : List Combo
  /-- Combos with some cards missing, best first. -/
  potential : List ComboMatch
  /-- The missing cards of each nearly complete combo. -/
  missingCards : NameTable (List String)
  deriving DecidableEq, Inhabited

namespace ComboDetection

/-- No combo was found. -/
def isEmpty (d : ComboDetection) : Bool := d.complete.isEmpty && d.potential.isEmpty

/-- The JSON value of the combos found. -/
def toJson (d : ComboDetection) : Json.Value := .map [
  ("complete", .list (d.complete.map Combo.toJson)),
  ("potential", .list (d.potential.map ComboMatch.toJson)),
  ("missing_cards", .map (d.missingCards.entries.map fun entry => (entry.1, .texts entry.2)))]

end ComboDetection

/-- The combos in a list of cards, with at most the given number of cards missing. -/
def ComboMatcher.detect (matcher : ComboMatcher) (names : List String) (maxMissing : Nat) :
    ComboDetection :=
  let config := matcher.config
  let complete := matcher.index.findCombos names 0 config.defaultLimit
  let completeIds := complete.map Combo.id
  let pieces := matcher.index.findMissingPieces names maxMissing config.defaultMinPresent
  let potential := (pieces.results.filter fun m => !completeIds.contains m.combo.id).take
    config.defaultLimit
  { complete, potential
    missingCards := .ofList (potential.map fun m => (m.combo.id, m.missing)) }

/-- The combos in a list of cards, with at most as many cards missing as the settings say. -/
def ComboMatcher.detectInDeck (matcher : ComboMatcher) (names : List String) : ComboDetection :=
  matcher.detect names matcher.config.defaultMaxMissing

/-- A card and what it takes part in. -/
structure CardProfile where
  /-- The card. -/
  card : Card
  /-- Themes that it supports. -/
  themes : List ThemeMatch
  /-- Rules that fire for it. -/
  rules : List FiredRule
  /-- Number of combos that list it. -/
  comboCount : Nat
  deriving DecidableEq, Inhabited

/-- The JSON value of a profile. -/
def CardProfile.toJson (p : CardProfile) : Json.Value := .map [
  ("card", p.card.toJson),
  ("themes", .list (p.themes.map ThemeMatch.toJson)),
  ("rules", .list (p.rules.map FiredRule.toJson)),
  ("combo_count", .number p.comboCount)]

/-- The profile of a card. -/
def profileOf (rules : CompiledRules) (index : ComboIndex) (card : Card) : CardProfile where
  card := card
  themes := rules.themesFor card
  rules := rules.matchingRules card
  comboCount := (index.lookup card.name).length

/-- A finder: a scorer and a matcher. -/
structure RelationshipFinder (m : Type → Type) where
  /-- The scorer. -/
  scorer : SynergyScorer m
  /-- The matcher. -/
  matcher : ComboMatcher

namespace RelationshipFinder

variable {m : Type → Type} [Monad m] [MonadExceptOf Failure m]

/-- The profile of the card of a name. -/
def cardProfile (finder : RelationshipFinder m) (name : String) : m CardProfile := do
  return profileOf finder.scorer.rules finder.matcher.index (← finder.scorer.resolve name)

end RelationshipFinder

end Deckwright
