import Deckwright.Finder
import Deckwright.Proofs.Card.Additions
import Deckwright.Proofs.Combo.Scan

/-!
# The combos of a card

The combos that list a card are found in four ways: each combo is asked, or the positions listed
under the name are read off as combos or as identifiers, or the name alone is given as a query for
combos of which any number of cards may be missing. The positions listed under a name are those
of the combos that list the card, in ascending order, so all ways lead to the same combos in the
order of the index. For a name that is blank or unknown they all lead to none.
-/

namespace Deckwright

namespace Combo

/-- A combo has a card among a single name if it lists the card. -/
theorem cardsAmong_singleton_ne_nil_iff (combo : Combo) (name : String) :
    combo.cardsAmong [name] ≠ [] ↔ combo.containsCard name = true := by
  rw [cardsAmong_ne_nil_iff, containsCard, List.contains_iff_mem]
  simp

/-- A combo has no more cards beyond some names than it has cards. -/
theorem length_cardsBeyond_le (combo : Combo) (names : List String) :
    (combo.cardsBeyond names).length ≤ combo.size :=
  List.length_filter_le _ _

end Combo

/-- A name for which the source has a card is the name of that card. -/
theorem SynergyScorer.resolve_of_found {scorer : SynergyScorer (Except Failure)} {name : String}
    {card : Card} (found : scorer.source.resolve name = .ok (some card)) :
    scorer.resolve name = .ok card := by
  rw [resolve, found]
  rfl

namespace ComboIndex

/-- The combos of an index that list a card, found by asking each of them. -/
def combosWith (index : ComboIndex) (name : String) : List Combo :=
  index.combos.toList.filter fun combo => combo.containsCard name

/-- There are no more combos with a card than there are combos. -/
theorem length_combosWith_le (index : ComboIndex) (name : String) :
    (index.combosWith name).length ≤ index.size :=
  List.length_filter_le _ _

variable {index : ComboIndex}

/-- The combos at the first of some positions of the index are the first of the combos there. -/
theorem combosAt_take {positions : List Nat}
    (inside : ∀ position ∈ positions, position < index.combos.size) (limit : Nat) :
    index.combosAt (positions.take limit) = (index.combosAt positions).take limit := by
  induction positions generalizing limit with
  | nil => rw [List.take_nil, combosAt, List.filterMap_nil, List.take_nil]
  | cons position rest ih =>
    cases limit with
    | zero => rfl
    | succ limit =>
      obtain ⟨combo, here⟩ : ∃ combo : Combo, index.combos[position]? = some combo :=
        ⟨_, Array.getElem?_eq_getElem (inside position List.mem_cons_self)⟩
      have later := ih (fun other mem => inside other (List.mem_cons_of_mem position mem)) limit
      rw [List.take_succ_cons, combosAt, combosAt, List.filterMap_cons_some here,
        List.filterMap_cons_some here, List.take_succ_cons]
      exact congrArg (combo :: ·) later

/-- The combos at the positions listed under a name are those that list the card. -/
theorem WellFormed.combosAt_positionsOf (wellFormed : index.WellFormed) (name : String) :
    index.combosAt (index.positionsOf name) = index.combosWith name := by
  refine combosAt_eq_filter (wellFormed.pairwise_posted (normalizeName name)) ?_
  intro position
  rw [positionsOf, wellFormed.mem_postings_iff]
  simp only [Combo.containsCard, List.contains_iff_mem]

/-- The first combos that list a card are found under its name. -/
theorem WellFormed.findCombosForCard_eq (wellFormed : index.WellFormed) (name : String)
    (limit : Nat) : index.findCombosForCard name limit = (index.combosWith name).take limit := by
  have inside : ∀ position ∈ index.positionsOf name, position < index.combos.size :=
    fun _ posted => wellFormed.lt_size posted
  rw [findCombosForCard, combosAt_take inside, wellFormed.combosAt_positionsOf]

/-- The identifiers found under a name are those of the combos that list the card. -/
theorem WellFormed.lookup_eq (wellFormed : index.WellFormed) (name : String) :
    index.lookup name = (index.combosWith name).map Combo.id := by
  rw [lookup, wellFormed.combosAt_positionsOf]

/-- A single name finds the first combos that list the card, if any number of cards may be
missing. -/
theorem WellFormed.findCombos_singleton_eq (wellFormed : index.WellFormed) (name : String)
    {maxMissing : Nat} (loose : ∀ combo ∈ index.combos.toList, combo.size ≤ maxMissing)
    (limit : Nat) :
    index.findCombos [name] maxMissing limit = (index.combosWith name).take limit := by
  rw [wellFormed.findCombos_eq, combosWith]
  refine congrArg (List.take limit) (List.filter_congr ?_)
  intro combo mem
  have few : (combo.cardsBeyond [name]).length ≤ maxMissing :=
    Nat.le_trans (combo.length_cardsBeyond_le [name]) (loose combo mem)
  rw [Bool.eq_iff_iff, decide_eq_true_eq, combo.cardsAmong_singleton_ne_nil_iff]
  exact and_iff_left few

/-- The profile of a card counts the combos that list it. -/
theorem WellFormed.comboCount_profileOf (wellFormed : index.WellFormed) (rules : CompiledRules)
    (card : Card) :
    (profileOf rules index card).comboCount = (index.combosWith card.name).length := by
  rw [profileOf, wellFormed.lookup_eq, List.length_map]

/-- In an index of any combos, those that list a card are found in the same order by asking each
of them, under the name of the card, and by a query for that name alone, if neither the limit nor
the number of missing cards is in the way; the identifiers found under the name are theirs. The
profile of a card that a finder resolves counts the combos that list the card. -/
theorem card_queries_agree (combos : List Combo) (name : String) (limit maxMissing : Nat)
    (room : (ofList combos).size ≤ limit)
    (loose : ∀ combo ∈ (ofList combos).combos.toList, combo.size ≤ maxMissing) :
    let index := ofList combos
    index.findCombosForCard name limit = index.combosWith name ∧
    index.lookup name = (index.combosWith name).map Combo.id ∧
    index.findCombos [name] maxMissing limit = index.combosWith name ∧
    ∀ (scorer : SynergyScorer (Except Failure)) (config : ComboMatcherConfig) (asked : String)
      (card : Card), scorer.resolve asked = .ok card →
        ∃ profile : CardProfile,
          (RelationshipFinder.mk scorer ⟨index, config⟩).cardProfile asked = .ok profile ∧
            profile.card = card ∧ profile.comboCount = (index.combosWith card.name).length := by
  intro index
  have wellFormed : index.WellFormed := (represents_ofList combos).toWellFormed
  have whole : (index.combosWith name).take limit = index.combosWith name :=
    List.take_of_length_le (Nat.le_trans (index.length_combosWith_le name) room)
  refine ⟨?_, wellFormed.lookup_eq name, ?_, ?_⟩
  · rw [wellFormed.findCombosForCard_eq, whole]
  · rw [wellFormed.findCombos_singleton_eq name loose, whole]
  · intro scorer config asked card resolved
    refine ⟨profileOf scorer.rules index card, ?_, rfl,
      wellFormed.comboCount_profileOf scorer.rules card⟩
    rw [RelationshipFinder.cardProfile, resolved]
    rfl

/-- Of three combos two list a card, one of them under another spelling. -/
theorem card_queries_agree_of_two_of_three :
    let twin : Combo := { id := "C1", cards := ["Twin", "Exarch"] }
    let kiki : Combo := { id := "C2", cards := ["Kiki", "EXARCH"] }
    let breach : Combo := { id := "C3", cards := ["Breach"] }
    let index := ofList [twin, breach, kiki]
    let card : Card := { name := "Exarch" }
    let scorer : SynergyScorer (Except Failure) :=
      ⟨(CardPool.ofList [card]).source, ({} : SynergyRules).compile, {}⟩
    index.findCombosForCard " exarch" 3 = [twin, kiki] ∧
      index.lookup " exarch" = ["C1", "C2"] ∧
      index.findCombos [" exarch"] 2 3 = [twin, kiki] ∧
      ∃ profile : CardProfile,
        (RelationshipFinder.mk scorer ⟨index, {}⟩).cardProfile "exarch" = .ok profile ∧
          profile.card = card ∧ profile.comboCount = 2 := by
  intro twin kiki breach index card scorer
  have held : index.combos.toList = [twin, breach, kiki] :=
    (represents_ofList [twin, breach, kiki]).combos_eq.trans (by decide +kernel)
  have room : index.size ≤ 3 := by
    rw [size, ← Array.length_toList, held]
    decide
  have loose : ∀ combo ∈ index.combos.toList, combo.size ≤ 2 := by
    rw [held]
    decide
  have listing : index.combosWith " exarch" = [twin, kiki] := by
    rw [combosWith, held]
    decide +kernel
  have counted : (index.combosWith card.name).length = 2 := by
    rw [combosWith, held]
    decide +kernel
  have known : (CardPool.ofList [card]).get? "exarch" = some card := by
    rw [CardPool.get?_ofList]
    decide +kernel
  have resolved : scorer.resolve "exarch" = .ok card :=
    SynergyScorer.resolve_of_found (congrArg Except.ok known)
  obtain ⟨forCard, identifiers, query, profiles⟩ :=
    card_queries_agree [twin, breach, kiki] " exarch" 3 2 room loose
  obtain ⟨profile, answered, same, count⟩ := profiles scorer {} "exarch" card resolved
  refine ⟨forCard.trans listing, ?_, query.trans listing, profile, answered, same,
    count.trans counted⟩
  rw [identifiers, listing]
  rfl

end ComboIndex

end Deckwright
