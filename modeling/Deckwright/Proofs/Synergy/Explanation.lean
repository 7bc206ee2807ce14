import Deckwright.Proofs.Synergy.Plan

/-!
# The rules behind a plan

What a card calls for is told twice: as the rules that fire for it, and as the searches of its
plan. A search made for a rule still shows the rule, its pass standing for what made it fire, so
the plan without the searches of creature types tells the rules that fire, in the same order and
as often. A plan has one block of searches for each pass, in the order of the passes, and the block
of the creature types has two searches for each type that is not denied.
-/

namespace Deckwright

/-- What makes the rules of a pass fire. The pass over creature types has no rules. -/
def SynergyPass.trigger? : SynergyPass → Option TriggerKind
  | .keyword => some .keyword
  | .tribal => none
  | .ability => some .abilityPattern
  | .type => some .type

namespace PlannedSearch

/-- The rule that a search shows, if its pass has rules. -/
def firedRule? (search : PlannedSearch) : Option FiredRule :=
  search.pass.trigger?.map fun trigger =>
    ⟨trigger, search.query.pattern, search.reason, search.synergyType⟩

/-- The search for cards that mention a creature type, and the one for cards that have it on their
type lines. -/
def ofCreatureType (card : Card) (config : ScorerConfig) (format : Option String)
    (subtype : String) : List PlannedSearch := [
  { pass := .tribal
    reason := subtype ++ " tribal synergy"
    multiplier := 1
    query := {
      pattern := Pattern.subtypeReference subtype
      field := .oracleText
      colorIdentity := some card.colorIdentity
      format
      pageSize := config.pageSize } },
  { pass := .tribal
    reason := "Fellow " ++ subtype
    multiplier := config.fellowTribalMultiplier
    query := {
      pattern := Pattern.subtypeExact subtype
      field := .typeLine
      colorIdentity := some card.colorIdentity
      format
      pageSize := config.pageSize } }]

/-- The searches of one pass, in the order of the plan. -/
def block (plan : List PlannedSearch) (pass : SynergyPass) : List PlannedSearch :=
  plan.filter fun search => search.pass = pass

/-- The block of a plan made of two parts is made of their blocks. -/
theorem block_append (left right : List PlannedSearch) (pass : SynergyPass) :
    block (left ++ right) pass = block left pass ++ block right pass :=
  List.filter_append left right

/-- Searches of one pass are one block. -/
theorem block_of_forall {plan : List PlannedSearch} {pass : SynergyPass}
    (all : ∀ search ∈ plan, search.pass = pass) (other : SynergyPass) :
    block plan other = if pass = other then plan else [] := by
  split
  · rename_i same
    exact List.filter_eq_self.2 fun search mem => decide_eq_true ((all search mem).trans same)
  · rename_i apart
    refine List.filter_eq_nil_iff.2 ?_
    intro search mem
    rw [all search mem, decide_eq_true_eq]
    exact apart

end PlannedSearch

namespace PlanScope

variable (scope : PlanScope)

/-- The searches of rules are of the pass that they were made for. -/
theorem pass_of_mem_map_ofRule {pass : SynergyPass} {fired : List SearchRule}
    {search : PlannedSearch} (mem : search ∈ fired.map (scope.ofRule pass)) :
    search.pass = pass := by
  obtain ⟨rule, _, rfl⟩ := List.mem_map.1 mem
  rfl

/-- The searches of a creature type are of the pass over creature types. -/
theorem pass_of_mem_ofSubtype {multiplier : Float32} {subtype : String} {search : PlannedSearch}
    (mem : search ∈ scope.ofSubtype multiplier subtype) : search.pass = .tribal := by
  simp only [ofSubtype, List.mem_cons, List.not_mem_nil, or_false] at mem
  rcases mem with rfl | rfl
  · rfl
  · rfl

/-- The searches of the rules of a pass show these rules. -/
theorem filterMap_firedRule?_map_ofRule {pass : SynergyPass} {trigger : TriggerKind}
    (fires : pass.trigger? = some trigger) (fired : List SearchRule) :
    (fired.map (scope.ofRule pass)).filterMap PlannedSearch.firedRule? =
      fired.map fun rule => ⟨trigger, rule.pattern, rule.reason, pass.synergyType⟩ := by
  have shows : PlannedSearch.firedRule? ∘ scope.ofRule pass =
      some ∘ fun rule => ⟨trigger, rule.pattern, rule.reason, pass.synergyType⟩ := by
    funext rule
    change pass.trigger?.map _ = _
    rw [fires]
    rfl
  rw [List.filterMap_map, shows, List.filterMap_eq_map]

end PlanScope

namespace CompiledRules

variable (rules : CompiledRules) (config : ScorerConfig) (card : Card) (format : Option String)

/-- The searches of a plan for creature types. -/
def tribalSearches : List PlannedSearch :=
  if card.hasType "Creature" || card.hasType "Tribal" || card.hasType "Kindred" then
    (card.subtypes.filter fun subtype => !rules.isDeniedSubtype subtype).flatMap
      (PlannedSearch.ofCreatureType card config format)
  else []

/-- A plan has the searches of four passes, one after the other. -/
theorem plan_eq_append :
    rules.plan config card format =
      let scope : PlanScope := ⟨card.colorIdentity, format, config.pageSize⟩
      (card.keywords.flatMap rules.keywordRules).map (scope.ofRule .keyword)
        ++ rules.tribalSearches config card format
        ++ (rules.abilityRules card.oracleText).map (scope.ofRule .ability)
        ++ (card.types.flatMap rules.typeRules).map (scope.ofRule .type) :=
  rfl

/-- The searches for creature types are of their own pass. -/
theorem pass_of_mem_tribalSearches {search : PlannedSearch}
    (mem : search ∈ rules.tribalSearches config card format) : search.pass = .tribal := by
  rw [tribalSearches] at mem
  split at mem
  · obtain ⟨subtype, _, made⟩ := List.mem_flatMap.1 mem
    exact PlanScope.pass_of_mem_ofSubtype ⟨card.colorIdentity, format, config.pageSize⟩ made
  · simp at mem

/-- The searches for creature types show no rules. -/
theorem filterMap_firedRule?_tribalSearches :
    (rules.tribalSearches config card format).filterMap PlannedSearch.firedRule? = [] := by
  refine List.filterMap_eq_nil_iff.2 ?_
  intro search mem
  rw [PlannedSearch.firedRule?, rules.pass_of_mem_tribalSearches config card format mem]
  rfl

/-- The searches of a plan show the rules that fire. -/
theorem filterMap_firedRule?_plan :
    (rules.plan config card format).filterMap PlannedSearch.firedRule? =
      rules.matchingRules card := by
  rw [plan_eq_append]
  simp only [List.filterMap_append, filterMap_firedRule?_tribalSearches, List.append_nil]
  have keyword : SynergyPass.keyword.trigger? = some .keyword := rfl
  have ability : SynergyPass.ability.trigger? = some .abilityPattern := rfl
  have type : SynergyPass.type.trigger? = some .type := rfl
  rw [PlanScope.filterMap_firedRule?_map_ofRule _ keyword,
    PlanScope.filterMap_firedRule?_map_ofRule _ ability,
    PlanScope.filterMap_firedRule?_map_ofRule _ type]
  rfl

/-- The blocks of a plan are its four parts. -/
theorem block_plan (pass : SynergyPass) :
    PlannedSearch.block (rules.plan config card format) pass =
      let scope : PlanScope := ⟨card.colorIdentity, format, config.pageSize⟩
      match pass with
      | .keyword => (card.keywords.flatMap rules.keywordRules).map (scope.ofRule .keyword)
      | .tribal => rules.tribalSearches config card format
      | .ability => (rules.abilityRules card.oracleText).map (scope.ofRule .ability)
      | .type => (card.types.flatMap rules.typeRules).map (scope.ofRule .type) := by
  let scope : PlanScope := ⟨card.colorIdentity, format, config.pageSize⟩
  have ofRules (made : SynergyPass) (fired : List SearchRule) :
      PlannedSearch.block (fired.map (scope.ofRule made)) pass =
        if made = pass then fired.map (scope.ofRule made) else [] :=
    PlannedSearch.block_of_forall (fun _ mem => scope.pass_of_mem_map_ofRule mem) pass
  have tribal : PlannedSearch.block (rules.tribalSearches config card format) pass =
      if .tribal = pass then rules.tribalSearches config card format else [] :=
    PlannedSearch.block_of_forall
      (fun _ mem => rules.pass_of_mem_tribalSearches config card format mem) pass
  rw [plan_eq_append]
  simp only [PlannedSearch.block_append]
  rw [ofRules, tribal, ofRules, ofRules]
  cases pass <;> simp [scope]

/-- The searches of a plan that are not for creature types show the rules that fire for the card,
in their order and with their number. A plan has its searches in blocks, one for each pass. The
block of the creature types is empty unless the card is of a type with creature types, and then
has for each type that is not denied the search for cards that mention it and the one for cards of
the type. Every search is within the colors of the card, the format and the page. -/
theorem plan_shows_matchingRules :
    let plan := rules.plan config card format
    plan.filterMap PlannedSearch.firedRule? = rules.matchingRules card ∧
    plan = PlannedSearch.block plan .keyword ++ PlannedSearch.block plan .tribal
      ++ PlannedSearch.block plan .ability ++ PlannedSearch.block plan .type ∧
    PlannedSearch.block plan .tribal =
      (if card.hasType "Creature" || card.hasType "Tribal" || card.hasType "Kindred" then
        (card.subtypes.filter fun subtype => !rules.isDeniedSubtype subtype).flatMap
          (PlannedSearch.ofCreatureType card config format)
      else []) ∧
    ∀ search ∈ plan, search.query.colorIdentity = some card.colorIdentity ∧
      search.query.format = format ∧ search.query.pageSize = config.pageSize := by
  intro plan
  refine ⟨rules.filterMap_firedRule?_plan config card format, ?_,
    rules.block_plan config card format .tribal, ?_⟩
  · simp only [plan, block_plan]
    exact rules.plan_eq_append config card format
  · intro search mem
    have limited := rules.limit_of_mem_plan config card mem
    exact ⟨(congrArg CardQuery.colorIdentity limited).symm,
      rules.format_of_mem_plan config card mem, rules.pageSize_of_mem_plan config card mem⟩

/-- A Goblin that is a Wizard is planned for as a Goblin, if Wizards are denied. -/
example :
    let rules : SynergyRules := {
      keywords := .ofList [("haste", [⟨"attacks each combat", "Attacks early"⟩])]
      types := .ofList [("creature", [⟨"creatures you control", "Leads the team"⟩])]
      tribalDenylist := ["wizard"] }
    let card : Card :=
      { types := ["Creature"], subtypes := ["Goblin", "Wizard"], keywords := ["Haste"] }
    (rules.compile.plan {} card none).map (fun search => (search.pass, search.reason)) =
      [(.keyword, "Attacks early"), (.tribal, "Goblin tribal synergy"), (.tribal, "Fellow Goblin"),
        (.type, "Leads the team")] := by
  decide

end CompiledRules

end Deckwright
