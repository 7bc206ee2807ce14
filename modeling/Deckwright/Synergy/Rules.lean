import Deckwright.Card.Basic
import Deckwright.Failure
import Deckwright.Pattern.TextPattern
import Deckwright.Synergy.Kind

/-!
# Rule tables

The tables say which searches a card calls for: by keyword, by card type, and by what its rules
text says. They also list the creature types too common to mean anything, and the themes of
decks with the patterns that show them. Tables are read as data and then compiled: keys are put
into normal form and patterns are made ready to be looked for. When two keys of a table have one
normal form, the entry of the later key counts.
-/

namespace Deckwright

open Text (NameTable)

/-- A search that a rule calls for. -/
structure SearchRule where
  /-- Pattern to look for in rules texts. -/
  pattern : String
  /-- Why the cards found are suggested. -/
  reason : String
  deriving DecidableEq, Repr, Inhabited

/-- A pattern in the rules text of a card, and the searches it calls for. -/
structure AbilityRule where
  /-- The pattern. -/
  trigger : String
  /-- The searches. -/
  searches : List SearchRule
  deriving DecidableEq, Repr, Inhabited

/-- A theme of decks, and the patterns of cards that support it. -/
structure ThemeIndicator where
  /-- Name of the theme. -/
  theme : String
  /-- The patterns. -/
  indicators : List String
  deriving DecidableEq, Repr, Inhabited

/-- The rule tables as data. -/
structure SynergyRules where
  /-- Searches by keyword. -/
  keywords : NameTable (List SearchRule) := .empty
  /-- Searches by rules text, in order. -/
  abilities : List AbilityRule := []
  /-- Searches by card type. -/
  types : NameTable (List SearchRule) := .empty
  /-- Creature types that call for no search. -/
  tribalDenylist : List String := []
  /-- Themes, in order. -/
  themes : List ThemeIndicator := []
  deriving DecidableEq, Inhabited

/-- A rule that fires for a card. -/
structure FiredRule where
  /-- What made it fire. -/
  trigger : TriggerKind
  /-- Pattern of its search. -/
  pattern : String
  /-- Why the cards found are suggested. -/
  reason : String
  /-- Kind of affinity. -/
  synergyType : SynergyType
  deriving DecidableEq, Repr, Inhabited

/-- A theme that a card supports. -/
structure ThemeMatch where
  /-- Name of the theme. -/
  theme : String
  /-- The pattern that shows it. -/
  indicator : String
  /-- Kind of affinity. -/
  synergyType : SynergyType
  deriving DecidableEq, Repr, Inhabited

/-! ## Reading and writing -/

namespace SearchRule

/-- Read a search. -/
def read : Json.Reader SearchRule := Json.readRecord "SearchRule" [
  .of "pattern" .refused Json.readString fun v r => { r with pattern := v },
  .of "reason" .refused Json.readString fun v r => { r with reason := v }] ⟨"", ""⟩

/-- The JSON value of a search. -/
def toJson (r : SearchRule) : Json.Value := .map [
  ("pattern", .text r.pattern),
  ("reason", .text r.reason)]

end SearchRule

namespace AbilityRule

/-- Read a rule on rules texts. -/
def read : Json.Reader AbilityRule := Json.readRecord "AbilityRule" [
  .of "trigger" .refused Json.readString fun v r => { r with trigger := v },
  .of "searches" .refused (Json.readList SearchRule.read) fun v r => { r with searches := v }]
  ⟨"", []⟩

/-- The JSON value of a rule on rules texts. -/
def toJson (r : AbilityRule) : Json.Value := .map [
  ("trigger", .text r.trigger),
  ("searches", .list (r.searches.map SearchRule.toJson))]

end AbilityRule

namespace ThemeIndicator

/-- Read a theme. -/
def read : Json.Reader ThemeIndicator := Json.readRecord "ThemeIndicator" [
  .of "theme" .refused Json.readString fun v t => { t with theme := v },
  .of "indicators" .refused (Json.readList Json.readString) fun v t =>
    { t with indicators := v }] ⟨"", []⟩

/-- The JSON value of a theme. -/
def toJson (t : ThemeIndicator) : Json.Value := .map [
  ("theme", .text t.theme),
  ("indicators", .texts t.indicators)]

end ThemeIndicator

namespace FiredRule

/-- The JSON value of a rule that fires. -/
def toJson (r : FiredRule) : Json.Value := .map [
  ("trigger", .text r.trigger.name),
  ("pattern", .text r.pattern),
  ("reason", .text r.reason),
  ("synergy_type", .text r.synergyType.name)]

end FiredRule

namespace ThemeMatch

/-- The JSON value of a theme that a card supports. -/
def toJson (t : ThemeMatch) : Json.Value := .map [
  ("theme", .text t.theme),
  ("indicator", .text t.indicator),
  ("synergy_type", .text t.synergyType.name)]

end ThemeMatch

namespace SynergyRules

/-- The tables with no entries. -/
def empty : SynergyRules := {}

/-- Read a table of searches. -/
def readTable : Json.Reader (NameTable (List SearchRule)) :=
  (Json.readMap (Json.readList SearchRule.read)).map .ofList

/-- The JSON value of a table of searches. -/
def tableToJson (t : NameTable (List SearchRule)) : Json.Value :=
  .map (t.entries.map fun entry => (entry.1, .list (entry.2.map SearchRule.toJson)))

/-- The fields of the tables in a JSON text. -/
def fields : List (Json.Field SynergyRules) := [
  .of "keywords" .default readTable fun v r => { r with keywords := v },
  .of "abilities" .default (Json.readList AbilityRule.read) fun v r => { r with abilities := v },
  .of "types" .default readTable fun v r => { r with types := v },
  .of "tribal_denylist" .default (Json.readList Json.readString) fun v r =>
    { r with tribalDenylist := v },
  .of "themes" .default (Json.readList ThemeIndicator.read) fun v r => { r with themes := v }]

/-- Read the tables. -/
def read : Json.Reader SynergyRules := Json.readRecord "SynergyRules" fields empty

/-- The JSON value of the tables. -/
def toJson (r : SynergyRules) : Json.Value := .map [
  ("keywords", tableToJson r.keywords),
  ("abilities", .list (r.abilities.map AbilityRule.toJson)),
  ("types", tableToJson r.types),
  ("tribal_denylist", .texts r.tribalDenylist),
  ("themes", .list (r.themes.map ThemeIndicator.toJson))]

/-- Read the tables from a JSON text. -/
def ofJson (text : String) : Except Failure SynergyRules :=
  (Json.readWhole read text).mapError fun problem => .settings (.rulesText problem)

/-- Read the tables from a file. -/
def ofFile (file : StoredFile) : Except Failure SynergyRules := do ofJson (← file.readText)

end SynergyRules

/-! ## Compiled tables -/

/-- A theme with its patterns compiled. -/
structure CompiledTheme where
  /-- Name of the theme. -/
  theme : String
  /-- The patterns. -/
  indicators : List TextPattern

namespace ThemeIndicator

/-- Compile the patterns of a theme. -/
def compile (t : ThemeIndicator) : CompiledTheme := ⟨t.theme, t.indicators.map .compile⟩

end ThemeIndicator

/-- The text in which themes are looked for: rules text, keywords and type line, each on lines
of its own. -/
def Card.themeText (card : Card) : String :=
  card.oracleText ++ "\n" ++ " ".intercalate card.keywords ++ "\n" ++ card.typeLine

/-- The theme if a pattern of it occurs in the text, with the first such pattern. -/
def CompiledTheme.match? (t : CompiledTheme) (text : String) : Option ThemeMatch :=
  (t.indicators.find? fun pattern => pattern.isMatch text).map fun pattern =>
    ⟨t.theme, pattern.text, .archetype⟩

/-- The themes that a card supports, in the order of the table. -/
def detectThemes (themes : List CompiledTheme) (card : Card) : List ThemeMatch :=
  themes.filterMap fun theme => theme.match? card.themeText

/-- The themes that a card supports, with the patterns compiled for this card. -/
def SynergyRules.themesFor (r : SynergyRules) (card : Card) : List ThemeMatch :=
  detectThemes (r.themes.map ThemeIndicator.compile) card

/-- Rule tables ready for use. -/
structure CompiledRules where
  /-- Searches by keyword in normal form. -/
  keywords : NameTable (List SearchRule)
  /-- Searches by compiled pattern, in order. -/
  abilities : List (TextPattern × List SearchRule)
  /-- Searches by card type in normal form. -/
  types : NameTable (List SearchRule)
  /-- Creature types in normal form that call for no search. -/
  tribalDenylist : List String
  /-- Themes, in order. -/
  themes : List CompiledTheme

/-- A table with its keys in normal form; of two entries with one normal form, the later
counts. -/
def normalizeKeys {α : Type} (t : NameTable α) : NameTable α :=
  .ofList (t.entries.map fun entry => (normalizeName entry.1, entry.2))

/-- Compile rule tables. -/
def SynergyRules.compile (r : SynergyRules) : CompiledRules where
  keywords := normalizeKeys r.keywords
  abilities := r.abilities.map fun rule => (.compile rule.trigger, rule.searches)
  types := normalizeKeys r.types
  tribalDenylist := r.tribalDenylist.map normalizeName
  themes := r.themes.map ThemeIndicator.compile

namespace CompiledRules

/-- The searches that a keyword calls for. -/
def keywordRules (r : CompiledRules) (keyword : String) : List SearchRule :=
  (r.keywords.find? (normalizeName keyword)).getD []

/-- The searches that a card type calls for. -/
def typeRules (r : CompiledRules) (type : String) : List SearchRule :=
  (r.types.find? (normalizeName type)).getD []

/-- The searches that a rules text calls for, in the order of the table. -/
def abilityRules (r : CompiledRules) (oracleText : String) : List SearchRule :=
  (r.abilities.filter fun rule => rule.1.isMatch oracleText).flatMap (·.2)

/-- The creature type calls for no search. -/
def isDeniedSubtype (r : CompiledRules) (subtype : String) : Bool :=
  r.tribalDenylist.contains (normalizeName subtype)

/-- The rules on keywords, rules text and card types that fire for a card, in the order of the
passes. -/
def matchingRules (r : CompiledRules) (card : Card) : List FiredRule :=
  let fire (trigger : TriggerKind) (type : SynergyType) (rule : SearchRule) : FiredRule :=
    ⟨trigger, rule.pattern, rule.reason, type⟩
  (card.keywords.flatMap r.keywordRules).map (fire .keyword .keyword)
    ++ (r.abilityRules card.oracleText).map (fire .abilityPattern .ability)
    ++ (card.types.flatMap r.typeRules).map (fire .type .theme)

/-- The themes that a card supports. -/
def themesFor (r : CompiledRules) (card : Card) : List ThemeMatch := detectThemes r.themes card

end CompiledRules

end Deckwright
