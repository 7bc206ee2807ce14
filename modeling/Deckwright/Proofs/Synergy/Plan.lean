import Deckwright.Synergy.Plan

/-!
# What the searches of a plan ask for

Every search of a plan is made by `PlanScope.ofRule` or `PlanScope.ofSubtype`, and both put the
limits of the scope on its query. So the colors, the format and the page are the same throughout,
and the format has no other influence: a plan for a format is the plan without one, with the
format written into each query.
-/

namespace Deckwright

namespace PlanScope

/-- The search of a rule is within the limits. -/
theorem limit_ofRule (scope : PlanScope) (pass : SynergyPass) (rule : SearchRule) :
    scope.limit (scope.ofRule pass rule).query = (scope.ofRule pass rule).query :=
  rfl

/-- The searches of a creature type are within the limits. -/
theorem limit_of_mem_ofSubtype {scope : PlanScope} {multiplier : Float32} {subtype : String}
    {search : PlannedSearch} (mem : search ∈ scope.ofSubtype multiplier subtype) :
    scope.limit search.query = search.query := by
  simp only [ofSubtype, List.mem_cons, List.not_mem_nil, or_false] at mem
  rcases mem with rfl | rfl
  · rfl
  · rfl

end PlanScope

/-- Ask for cards legal in a format, or in any. -/
def PlannedSearch.inFormat (format : Option String) (search : PlannedSearch) : PlannedSearch :=
  { search with query := { search.query with format } }

namespace CompiledRules

variable (rules : CompiledRules) (config : ScorerConfig) (card : Card)

/-- Every search of a plan is within the limits of the plan. -/
theorem limit_of_mem_plan {format : Option String} {search : PlannedSearch}
    (mem : search ∈ rules.plan config card format) :
    (PlanScope.mk card.colorIdentity format config.pageSize).limit search.query =
      search.query := by
  simp only [plan, List.mem_append] at mem
  rcases mem with ((keyword | tribal) | ability) | type
  · obtain ⟨rule, _, rfl⟩ := List.mem_map.1 keyword
    exact PlanScope.limit_ofRule _ _ rule
  · split at tribal
    · obtain ⟨subtype, _, made⟩ := List.mem_flatMap.1 tribal
      exact PlanScope.limit_of_mem_ofSubtype made
    · simp at tribal
  · obtain ⟨rule, _, rfl⟩ := List.mem_map.1 ability
    exact PlanScope.limit_ofRule _ _ rule
  · obtain ⟨rule, _, rfl⟩ := List.mem_map.1 type
    exact PlanScope.limit_ofRule _ _ rule

/-- Every search of a plan is for the format asked for. -/
theorem format_of_mem_plan {format : Option String} {search : PlannedSearch}
    (mem : search ∈ rules.plan config card format) : search.query.format = format :=
  congrArg CardQuery.format (rules.limit_of_mem_plan config card mem).symm

/-- Every search of a plan has the page of the settings. -/
theorem pageSize_of_mem_plan {format : Option String} {search : PlannedSearch}
    (mem : search ∈ rules.plan config card format) : search.query.pageSize = config.pageSize :=
  congrArg CardQuery.pageSize (rules.limit_of_mem_plan config card mem).symm

/-- A plan for a format is the plan without one, with the format in each query. -/
theorem plan_eq_map_inFormat (format : Option String) :
    rules.plan config card format =
      (rules.plan config card none).map (PlannedSearch.inFormat format) := by
  simp only [plan, List.map_append, List.map_map]
  congr 3
  split
  · rw [List.map_flatMap]
    rfl
  · rfl

end CompiledRules

end Deckwright
