import Deckwright.Synergy.Rules

/-!
# Built-in rule tables

The tables that are used unless others are given.
-/

namespace Deckwright.SynergyRules

/-- Searches by keyword. -/
def builtInKeywords : List (String × List SearchRule) := [
  ("flying", [
    ⟨"creatures? with flying", "Cares about creatures with flying"⟩,
    ⟨"flying creatures you control", "Anthem for flyers"⟩]),
  ("deathtouch", [
    ⟨"\\bfights?\\b", "Deathtouch makes every fight lethal"⟩,
    ⟨"deals \\d+ damage to each creature", "Deathtouch turns pingers into sweepers"⟩]),
  ("lifelink", [
    ⟨"whenever you gain life", "Payoff for lifelink triggers"⟩,
    ⟨"double strike", "Double strike doubles the life gained"⟩]),
  ("trample", [
    ⟨"\\+1/\\+1 counter", "Bigger tramplers push more damage through"⟩,
    ⟨"gets \\+\\d+/\\+\\d+", "Pump effects make trample damage lethal"⟩]),
  ("first strike", [
    ⟨"equipped creature gets", "Equipment hits first with first strike"⟩]),
  ("double strike", [
    ⟨"equipped creature gets", "Equipment bonuses count twice with double strike"⟩,
    ⟨"gets \\+\\d+/\\+\\d+", "Pump effects count twice with double strike"⟩]),
  ("haste", [
    ⟨"whenever .* attacks", "Hasty attackers trigger attack payoffs at once"⟩]),
  ("vigilance", [
    ⟨"untapped creatures you control", "Vigilant attackers stay untapped"⟩]),
  ("flash", [
    ⟨"as though (it|they) had flash", "More instant-speed threats"⟩]),
  ("menace", [
    ⟨"can't block", "Stacks evasion with menace"⟩]),
  ("hexproof", [
    ⟨"enchant creature", "Auras are safe on hexproof creatures"⟩,
    ⟨"equipped creature", "Equipment is safe on hexproof creatures"⟩]),
  ("indestructible", [
    ⟨"destroy all", "Wraths leave indestructible creatures standing"⟩]),
  ("prowess", [
    ⟨"noncreature spell", "Noncreature spells trigger prowess"⟩]),
  ("proliferate", [
    ⟨"\\+1/\\+1 counter", "Proliferate grows +1/+1 counters"⟩,
    ⟨"loyalty", "Proliferate adds loyalty"⟩,
    ⟨"poison counter", "Proliferate adds poison counters"⟩]),
  ("flashback", [
    ⟨"\\bdiscard\\b", "Discarding sets up flashback"⟩,
    ⟨"\\bmill\\b", "Self-mill sets up flashback"⟩]),
  ("convoke", [
    ⟨"create .* creature tokens?", "Tokens pay for convoke"⟩]),
  ("landfall", [
    ⟨"search your library for .*lands?", "Land search doubles landfall"⟩,
    ⟨"play an additional land", "Extra land drops trigger landfall"⟩]),
  ("infect", [
    ⟨"proliferate", "Proliferate adds poison counters"⟩,
    ⟨"gets \\+\\d+/\\+\\d+", "Pump effects add more poison"⟩]),
  ("ward", [
    ⟨"enchant creature", "Auras on warded creatures are harder to answer"⟩])]

/-- Searches by rules text. -/
def builtInAbilities : List AbilityRule := [
  ⟨"when .* enters", [
    ⟨"exile .*creature you control, then return", "Blink effects reuse enter triggers"⟩,
    ⟨"triggers? an additional time", "Doubles enter triggers"⟩]⟩,
  ⟨"whenever .* dies", [
    ⟨"sacrifice (a|another) creature:", "Free sacrifice outlets trigger death payoffs"⟩,
    ⟨"create .* creature tokens?", "Tokens feed death triggers"⟩]⟩,
  ⟨"draw .* cards?", [
    ⟨"whenever you draw", "Rewards drawing extra cards"⟩,
    ⟨"no maximum hand size", "Keeps the extra cards"⟩]⟩,
  ⟨"create .* tokens?", [
    ⟨"tokens you control get", "Anthem for tokens"⟩,
    ⟨"\\bpopulate\\b", "Copies the tokens you make"⟩,
    ⟨"would create .* tokens?", "Doubles token creation"⟩]⟩,
  ⟨"\\bsacrifice\\b", [
    ⟨"whenever .* dies", "Death triggers reward sacrificing"⟩,
    ⟨"create .* tokens?", "Fodder for sacrifice"⟩]⟩,
  ⟨"\\+1/\\+1 counters?", [
    ⟨"\\bproliferate\\b", "Proliferate grows every counter"⟩,
    ⟨"would be put on", "Doubles counters"⟩]⟩,
  ⟨"\\bgraveyard\\b", [
    ⟨"\\bmill\\b", "Self-mill fills the graveyard"⟩,
    ⟨"return .* from your graveyard", "Recursion from the graveyard"⟩]⟩,
  ⟨"gains? .*\\blife\\b", [
    ⟨"whenever you gain life", "Life gain payoff"⟩]⟩,
  ⟨"\\bdiscard", [
    ⟨"\\bmadness\\b", "Madness rewards discarding"⟩,
    ⟨"whenever you discard", "Discard payoff"⟩]⟩,
  ⟨"instant or sorcery", [
    ⟨"copy target instant or sorcery", "Copies your spells"⟩,
    ⟨"instant and sorcery spells you cast cost", "Cheaper spells"⟩]⟩,
  ⟨"whenever .* attacks", [
    ⟨"additional combat phase", "Extra combats repeat attack triggers"⟩]⟩]

/-- Searches by card type. -/
def builtInTypes : List (String × List SearchRule) := [
  ("artifact", [
    ⟨"artifacts? you control", "Rewards controlling artifacts"⟩,
    ⟨"whenever an artifact", "Artifact triggers"⟩]),
  ("enchantment", [
    ⟨"enchantments? you control", "Rewards controlling enchantments"⟩,
    ⟨"whenever an enchantment", "Enchantment triggers"⟩]),
  ("instant", [
    ⟨"instant or sorcery", "Spellslinger payoff"⟩,
    ⟨"noncreature spell", "Noncreature spell payoff"⟩]),
  ("sorcery", [
    ⟨"instant or sorcery", "Spellslinger payoff"⟩,
    ⟨"noncreature spell", "Noncreature spell payoff"⟩]),
  ("planeswalker", [
    ⟨"loyalty", "Adds loyalty"⟩,
    ⟨"planeswalkers? you control", "Planeswalker support"⟩]),
  ("land", [
    ⟨"\\blandfall\\b", "Landfall payoff"⟩,
    ⟨"lands? you control", "Rewards controlling lands"⟩])]

/-- Creature types that call for no search. -/
def builtInDenylist : List String :=
  ["Human", "Warrior", "Wizard", "Soldier", "Cleric", "Shaman", "Rogue"]

/-- Themes of decks. -/
def builtInThemes : List ThemeIndicator := [
  ⟨"tokens", ["\\btokens?\\b"]⟩,
  ⟨"counters", ["\\+1/\\+1 counters?", "\\bproliferate\\b"]⟩,
  ⟨"graveyard", ["from your graveyard", "\\bmill(s|ed)?\\b"]⟩,
  ⟨"lifegain", ["\\bgains? life\\b", "\\blifelink\\b"]⟩,
  ⟨"sacrifice", ["\\bsacrifice (a|another)\\b"]⟩,
  ⟨"spellslinger", ["instant or sorcery", "\\bnoncreature spells?\\b"]⟩,
  ⟨"artifacts", ["artifacts you control", "\\bartifact spells?\\b", "whenever an artifact"]⟩,
  ⟨"enchantments", ["enchantments you control", "whenever an enchantment"]⟩,
  ⟨"landfall", ["\\blandfall\\b", "\\blands? enters\\b"]⟩,
  ⟨"card draw", ["\\bdraw (a|two|three) cards?\\b", "\\bdraw cards\\b"]⟩,
  ⟨"tribal", ["\\bcreature types?\\b"]⟩]

/-- The built-in tables. -/
def builtIn : SynergyRules where
  keywords := .ofList builtInKeywords
  abilities := builtInAbilities
  types := .ofList builtInTypes
  tribalDenylist := builtInDenylist
  themes := builtInThemes

end Deckwright.SynergyRules
