import Deckwright.Card.Query
import Deckwright.Combo.Matcher
import Deckwright.Proofs.Card.RoundTrip
import Deckwright.Synergy.Rules

/-!
# Data that is read back

Queries, rule tables and the settings of a matcher are records of texts, numbers, lists, tables and
of one another, and each is read back because its fields are. A table is written by its entries in
ascending order of the keys, which make the same table when they are read. Together with cards,
these are the data that are kept as texts (`written_data_read_back`).
-/

namespace Deckwright

open Json

/-! ## Queries -/

/-- An attribute of cards is read back from its name. -/
theorem SearchField.read_readsBack (field : SearchField) :
    read.ReadsBack (.text field.name) field := by
  refine readCase_readsBack ?_
  cases field <;> decide

namespace CardQuery

/-- A color identity that may be absent is read back. -/
theorem readIdentity_readsBack (identity? : Option ColorIdentity) :
    Reader.ReadsBack (readOptional ColorIdentity.read) (.optional ColorIdentity.toJson identity?)
      identity? :=
  readOptional_readsBack (fun identity _ => identity.read_readsBack) fun _ _ => nofun

/-- A format that may be absent is read back. -/
theorem readFormat_readsBack (format? : Option String) :
    Reader.ReadsBack (readOptional readString) (.optional .text format?) format? :=
  readOptional_readsBack (fun format _ => readString_readsBack format) fun _ _ => nofun

/-- The fields of a query as they are written. -/
def written (q : CardQuery) : List (WrittenField CardQuery) := [
  .of "pattern" .refused (readString_readsBack q.pattern) fun v q => { q with pattern := v },
  .of "field" .refused q.field.read_readsBack fun v q => { q with field := v },
  .of "color_identity" .empty (readIdentity_readsBack q.colorIdentity) fun v q =>
    { q with colorIdentity := v },
  .of "format" .empty (readFormat_readsBack q.format) fun v q => { q with format := v },
  .of "page_size" .refused (readCount_readsBack q.pageSize) fun v q => { q with pageSize := v }]

/-- A query is read back. -/
theorem read_readsBack (q : CardQuery) : read.ReadsBack q.toJson q := by
  have names : q.written.map WrittenField.name =
      ["pattern", "field", "color_identity", "format", "page_size"] := rfl
  exact readRecord_readsBack_of_names "CardQuery" names (by decide) (oracleText "")

/-- The one number of a query fits if its page does. -/
theorem wordSized_toJson (q : CardQuery) (fits : q.pageSize < wordBound) :
    q.toJson.WordSized := by
  have identity : (Value.optional ColorIdentity.toJson q.colorIdentity).WordSized :=
    Value.wordSized_optional fun _ _ => .text _
  have format : (Value.optional .text q.format).WordSized :=
    Value.wordSized_optional fun _ _ => .text _
  exact .entry (.text _) <| .entry (.text _) <| .entry identity <| .entry format <|
    .entry (.number fits) .noEntry

end CardQuery

/-! ## Rule tables -/

namespace SearchRule

/-- The fields of a search as they are written. -/
def written (r : SearchRule) : List (WrittenField SearchRule) := [
  .of "pattern" .refused (readString_readsBack r.pattern) fun v r => { r with pattern := v },
  .of "reason" .refused (readString_readsBack r.reason) fun v r => { r with reason := v }]

/-- A search is read back. -/
theorem read_readsBack (r : SearchRule) : read.ReadsBack r.toJson r := by
  have names : r.written.map WrittenField.name = ["pattern", "reason"] := rfl
  exact readRecord_readsBack_of_names "SearchRule" names (by decide) ⟨"", ""⟩

/-- A search has no number. -/
theorem wordSized_toJson (r : SearchRule) : r.toJson.WordSized :=
  .entry (.text _) <| .entry (.text _) .noEntry

/-- A list of searches is read back. -/
theorem readList_readsBack (rules : List SearchRule) :
    Reader.ReadsBack (readList read) (.list (rules.map toJson)) rules :=
  Json.readList_readsBack fun r _ => r.read_readsBack

/-- A list of searches has no number. -/
theorem wordSized_list (rules : List SearchRule) : (Value.list (rules.map toJson)).WordSized :=
  Value.wordSized_list_map fun r _ => r.wordSized_toJson

end SearchRule

namespace AbilityRule

/-- The fields of a rule on rules texts as they are written. -/
def written (r : AbilityRule) : List (WrittenField AbilityRule) := [
  .of "trigger" .refused (readString_readsBack r.trigger) fun v r => { r with trigger := v },
  .of "searches" .refused (SearchRule.readList_readsBack r.searches) fun v r =>
    { r with searches := v }]

/-- A rule on rules texts is read back. -/
theorem read_readsBack (r : AbilityRule) : read.ReadsBack r.toJson r := by
  have names : r.written.map WrittenField.name = ["trigger", "searches"] := rfl
  exact readRecord_readsBack_of_names "AbilityRule" names (by decide) ⟨"", []⟩

/-- A rule on rules texts has no number. -/
theorem wordSized_toJson (r : AbilityRule) : r.toJson.WordSized :=
  .entry (.text _) <| .entry (SearchRule.wordSized_list _) .noEntry

/-- A list of rules on rules texts is read back. -/
theorem readList_readsBack (rules : List AbilityRule) :
    Reader.ReadsBack (readList read) (.list (rules.map toJson)) rules :=
  Json.readList_readsBack fun r _ => r.read_readsBack

end AbilityRule

namespace ThemeIndicator

/-- The fields of a theme as they are written. -/
def written (t : ThemeIndicator) : List (WrittenField ThemeIndicator) := [
  .of "theme" .refused (readString_readsBack t.theme) fun v t => { t with theme := v },
  .of "indicators" .refused (readTexts_readsBack t.indicators) fun v t =>
    { t with indicators := v }]

/-- A theme is read back. -/
theorem read_readsBack (t : ThemeIndicator) : read.ReadsBack t.toJson t := by
  have names : t.written.map WrittenField.name = ["theme", "indicators"] := rfl
  exact readRecord_readsBack_of_names "ThemeIndicator" names (by decide) ⟨"", []⟩

/-- A theme has no number. -/
theorem wordSized_toJson (t : ThemeIndicator) : t.toJson.WordSized :=
  .entry (.text _) <| .entry (Value.wordSized_texts _) .noEntry

/-- A list of themes is read back. -/
theorem readList_readsBack (themes : List ThemeIndicator) :
    Reader.ReadsBack (readList read) (.list (themes.map toJson)) themes :=
  Json.readList_readsBack fun t _ => t.read_readsBack

end ThemeIndicator

namespace SynergyRules

/-- A table of searches is read back: its entries, in the order of the text, make it again. -/
theorem readTable_readsBack (t : Text.NameTable (List SearchRule)) :
    readTable.ReadsBack (tableToJson t) t := by
  have entries := readMap_readsBack (fun rules => .list (rules.map SearchRule.toJson))
    fun (entry : String × List SearchRule) (_ : entry ∈ t.entries) =>
      SearchRule.readList_readsBack entry.2
  have table := entries.map Text.NameTable.ofList
  rwa [t.ofList_entries] at table

/-- A table of searches has no number. -/
theorem wordSized_tableToJson (t : Text.NameTable (List SearchRule)) :
    (tableToJson t).WordSized := by
  refine .map fun entry mem => ?_
  obtain ⟨listed, -, rfl⟩ := List.mem_map.1 mem
  exact SearchRule.wordSized_list listed.2

/-- The fields of the tables as they are written. -/
def written (r : SynergyRules) : List (WrittenField SynergyRules) := [
  .of "keywords" .default (readTable_readsBack r.keywords) fun v r => { r with keywords := v },
  .of "abilities" .default (AbilityRule.readList_readsBack r.abilities) fun v r =>
    { r with abilities := v },
  .of "types" .default (readTable_readsBack r.types) fun v r => { r with types := v },
  .of "tribal_denylist" .default (readTexts_readsBack r.tribalDenylist) fun v r =>
    { r with tribalDenylist := v },
  .of "themes" .default (ThemeIndicator.readList_readsBack r.themes) fun v r =>
    { r with themes := v }]

/-- The tables are read back. -/
theorem read_readsBack (r : SynergyRules) : read.ReadsBack r.toJson r := by
  have names : r.written.map WrittenField.name =
      ["keywords", "abilities", "types", "tribal_denylist", "themes"] := rfl
  exact readRecord_readsBack_of_names "SynergyRules" names (by decide) empty

/-- The tables have no number. -/
theorem wordSized_toJson (r : SynergyRules) : r.toJson.WordSized := by
  have abilities : (Value.list (r.abilities.map AbilityRule.toJson)).WordSized :=
    Value.wordSized_list_map fun rule _ => rule.wordSized_toJson
  have themes : (Value.list (r.themes.map ThemeIndicator.toJson)).WordSized :=
    Value.wordSized_list_map fun theme _ => theme.wordSized_toJson
  exact .entry (wordSized_tableToJson _) <| .entry abilities <|
    .entry (wordSized_tableToJson _) <| .entry (Value.wordSized_texts _) <| .entry themes .noEntry

end SynergyRules

/-! ## Settings of a matcher -/

namespace ComboMatcherConfig

/-- The fields of the settings as they are written. -/
def written (c : ComboMatcherConfig) : List (WrittenField ComboMatcherConfig) := [
  .of "default_limit" .default (readCount_readsBack c.defaultLimit) fun v c =>
    { c with defaultLimit := v },
  .of "default_max_missing" .default (readCount_readsBack c.defaultMaxMissing) fun v c =>
    { c with defaultMaxMissing := v },
  .of "default_min_present" .default (readCount_readsBack c.defaultMinPresent) fun v c =>
    { c with defaultMinPresent := v }]

/-- The settings are read back. -/
theorem read_readsBack (c : ComboMatcherConfig) : read.ReadsBack c.toJson c := by
  have names : c.written.map WrittenField.name =
      ["default_limit", "default_max_missing", "default_min_present"] := rfl
  exact readRecord_readsBack_of_names "ComboMatcherConfig" names (by decide) {}

/-- Each setting is a number of 64 bits. -/
structure IsWordSized (c : ComboMatcherConfig) : Prop where
  /-- The greatest number of combos is. -/
  limit : c.defaultLimit < wordBound
  /-- The greatest number of missing cards is. -/
  maxMissing : c.defaultMaxMissing < wordBound
  /-- The least number of present cards is. -/
  minPresent : c.defaultMinPresent < wordBound

/-- The numbers of the settings fit. -/
theorem IsWordSized.toJson {c : ComboMatcherConfig} (sized : c.IsWordSized) :
    c.toJson.WordSized :=
  .entry (.number sized.limit) <| .entry (.number sized.maxMissing) <|
    .entry (.number sized.minPresent) .noEntry

end ComboMatcherConfig

/-! ## All of them -/

/-- The texts of cards, queries, rule tables with all that is in them, and settings of a matcher are
read back as what was written, if all numbers are of 64 bits. -/
theorem written_data_read_back (card : Card) (query : CardQuery) (rules : SynergyRules)
    (search : SearchRule) (ability : AbilityRule) (theme : ThemeIndicator)
    (config : ComboMatcherConfig) (page : query.pageSize < wordBound) (sized : config.IsWordSized) :
    readWhole Card.read card.toJson.render = .ok card ∧
    readWhole CardQuery.read query.toJson.render = .ok query ∧
    readWhole SynergyRules.read rules.toJson.render = .ok rules ∧
    readWhole SearchRule.read search.toJson.render = .ok search ∧
    readWhole AbilityRule.read ability.toJson.render = .ok ability ∧
    readWhole ThemeIndicator.read theme.toJson.render = .ok theme ∧
    readWhole ComboMatcherConfig.read config.toJson.render = .ok config :=
  ⟨card.readWhole_render,
    query.read_readsBack.readWhole_render (query.wordSized_toJson page),
    rules.read_readsBack.readWhole_render rules.wordSized_toJson,
    search.read_readsBack.readWhole_render search.wordSized_toJson,
    ability.read_readsBack.readWhole_render ability.wordSized_toJson,
    theme.read_readsBack.readWhole_render theme.wordSized_toJson,
    config.read_readsBack.readWhole_render sized.toJson⟩

/-- With the greatest numbers, no colors, and texts in which characters are escaped. -/
theorem written_data_read_back_of_greatest_numbers :
    let card : Card := { name := "A \"Saga\"\n", legalFormats := .ofList ["modern", "legacy"] }
    let query : CardQuery := ⟨"\\bElf\\b", .typeLine, some .colorless, none, wordBound - 1⟩
    let search : SearchRule := ⟨"\\+1/\\+1", "Grows\tté"⟩
    let ability : AbilityRule := ⟨"", [search, search]⟩
    let theme : ThemeIndicator := ⟨"Tokens", []⟩
    let rules : SynergyRules := {
      keywords := .ofList [("\"", [search]), ("", [])]
      abilities := [ability]
      tribalDenylist := ["human", "human"]
      themes := [theme] }
    let config : ComboMatcherConfig := ⟨wordBound - 1, wordBound - 1, 0⟩
    query.pageSize < wordBound ∧ config.IsWordSized ∧
    readWhole Card.read card.toJson.render = .ok card ∧
    readWhole CardQuery.read query.toJson.render = .ok query ∧
    readWhole SynergyRules.read rules.toJson.render = .ok rules ∧
    readWhole SearchRule.read search.toJson.render = .ok search ∧
    readWhole AbilityRule.read ability.toJson.render = .ok ability ∧
    readWhole ThemeIndicator.read theme.toJson.render = .ok theme ∧
    readWhole ComboMatcherConfig.read config.toJson.render = .ok config := by
  intro card query search ability theme rules config
  have page : query.pageSize < wordBound := by decide
  have sized : config.IsWordSized := ⟨by decide, by decide, by decide⟩
  exact ⟨page, sized,
    written_data_read_back card query rules search ability theme config page sized⟩

end Deckwright
