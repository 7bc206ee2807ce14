import Deckwright.Proofs.Card.Pool
import Deckwright.Proofs.FirstPerKey
import Mathlib.Data.Finset.Card
import Mathlib.Data.Finset.Dedup

/-!
# What additions leave in a pool

An addition shows in two ways. The row of names grows at its end if the name is new, and stays as
it is if not; and the name leads to the new card, while all other names lead where they did. So
after any additions the names stand in the order in which they first came, and each leads to the
card that came last under it.
-/

namespace Deckwright

namespace CardPool

/-- The names of the cards of a pool, in normal form and in the order of the cards. -/
def names (pool : CardPool) : List String := pool.cards.toList.map Card.normalizedName

variable {pool : CardPool}

/-- The table has a place for the names in the row, and for no others. -/
theorem WellFormed.mem_names_iff (wellFormed : pool.WellFormed) {key : String} :
    key ∈ pool.names ↔ ∃ position : Nat, pool.positions[key]? = some position := by
  rw [names, List.mem_map]
  constructor
  · rintro ⟨card, mem, named⟩
    obtain ⟨position, held⟩ := mem_cards_iff.1 mem
    exact ⟨position, (wellFormed key position).2 ⟨card, held, named⟩⟩
  · rintro ⟨position, known⟩
    obtain ⟨card, held, named⟩ := (wellFormed key position).1 known
    exact ⟨card, mem_cards_iff.2 ⟨position, held⟩, named⟩

/-! ## One addition -/

/-- A name that is new comes last, and one that is not stays where it is. -/
theorem WellFormed.names_insert (wellFormed : pool.WellFormed) (card : Card) :
    (pool.insert card).names =
      if card.normalizedName ∈ pool.names then pool.names
      else pool.names ++ [card.normalizedName] := by
  cases known : pool.positions[card.normalizedName]? with
  | some place =>
    have listed : card.normalizedName ∈ pool.names := wellFormed.mem_names_iff.2 ⟨place, known⟩
    obtain ⟨replaced, held, named⟩ := (wellFormed _ place).1 known
    -- The card that is replaced has the same name.
    have same : (pool.cards.toList.map Card.normalizedName)[place]? = some card.normalizedName := by
      rw [List.getElem?_map, Array.getElem?_toList, held, Option.map_some, named]
    obtain ⟨inside, there⟩ := List.getElem?_eq_some_iff.1 same
    rw [if_pos listed, CardPool.insert_of_known known, names, Array.toList_setIfInBounds,
      List.map_set, ← there, List.set_getElem_self]
    rfl
  | none =>
    have unlisted : card.normalizedName ∉ pool.names := by
      rw [wellFormed.mem_names_iff, known]
      simp
    rw [if_neg unlisted, CardPool.insert_of_new known, names, Array.toList_push, List.map_append]
    rfl

/-- A name leads to the new card if it is the name of that card, and else where it did. -/
theorem WellFormed.get?_insert (wellFormed : pool.WellFormed) (card : Card) (name : String) :
    (pool.insert card).get? name =
      if card.normalizedName = normalizeName name then some card else pool.get? name := by
  cases known : pool.positions[card.normalizedName]? with
  | some place =>
    obtain ⟨replaced, held, named⟩ := (wellFormed _ place).1 known
    have inside : place < pool.cards.size := (Array.getElem?_eq_some_iff.1 held).1
    rw [CardPool.insert_of_known known, get?, get?]
    split
    · rename_i same
      simp [← same, known, inside]
    · rename_i other
      refine Option.bind_congr ?_
      intro position found
      obtain ⟨found', there, named'⟩ := (wellFormed _ position).1 found
      have apart : place ≠ position := by
        rintro rfl
        rw [held, Option.some.injEq] at there
        exact other (named.symm.trans (there ▸ named'))
      exact Array.getElem?_setIfInBounds_ne apart
  | none =>
    rw [CardPool.insert_of_new known, get?, get?]
    split
    · rename_i same
      simp [same]
    · rename_i other
      rw [Std.HashMap.getElem?_insert, if_neg (by simpa using other)]
      refine Option.bind_congr ?_
      intro position found
      obtain ⟨found', there, _⟩ := (wellFormed _ position).1 found
      have inside : position < pool.cards.size := (Array.getElem?_eq_some_iff.1 there).1
      rw [Array.getElem?_push, if_neg inside.ne]

/-! ## Any number of additions -/

/-- A last addition is made to the pool of those before. -/
theorem ofList_concat (cards : List Card) (card : Card) :
    ofList (cards ++ [card]) = (ofList cards).insert card := by
  rw [ofList, List.foldl_concat, ofList]

/-- The names of a pool stand in the order in which they were first added. -/
theorem names_ofList (cards : List Card) :
    (ofList cards).names = (firstPerKey Card.normalizedName cards).map Card.normalizedName := by
  induction cards using List.reverseRecOn with
  | nil => rfl
  | append_singleton cards card ih =>
    rw [ofList_concat, (wellFormed_ofList cards).names_insert, ih, firstPerKey_concat]
    simp only [mem_map_firstPerKey]
    split
    · rfl
    · rw [List.map_append, List.map_singleton]

/-- A name leads to the card that was added last under it. -/
theorem get?_ofList (cards : List Card) (name : String) :
    (ofList cards).get? name =
      cards.reverse.find? fun card => card.normalizedName = normalizeName name := by
  induction cards using List.reverseRecOn with
  | nil => simp [ofList, empty, get?]
  | append_singleton cards card ih =>
    rw [ofList_concat, (wellFormed_ofList cards).get?_insert, List.reverse_concat, List.find?_cons,
      ih]
    by_cases same : card.normalizedName = normalizeName name
    · simp [same]
    · simp [same]

/-- A card is the one that a name leads to if no card of the name was added after it. -/
theorem get?_ofList_eq_some_iff {cards : List Card} {name : String} {card : Card} :
    (ofList cards).get? name = some card ↔
      ∃ earlier later, cards = earlier ++ card :: later ∧
        card.normalizedName = normalizeName name ∧
        ∀ other ∈ later, other.normalizedName ≠ normalizeName name := by
  rw [get?_ofList, List.find?_eq_some_iff_append, decide_eq_true_eq]
  constructor
  · rintro ⟨named, later, earlier, split, absent⟩
    refine ⟨earlier.reverse, later.reverse, ?_, named, ?_⟩
    · rw [← List.reverse_reverse cards, split]
      simp
    · intro other mem
      simpa using absent other (List.mem_reverse.1 mem)
  · rintro ⟨earlier, later, rfl, named, absent⟩
    refine ⟨named, later.reverse, earlier.reverse, by simp, ?_⟩
    intro other mem
    simpa using absent other (List.mem_reverse.1 mem)

/-- A name leads nowhere if no card of the name was added. -/
theorem get?_ofList_eq_none_iff {cards : List Card} {name : String} :
    (ofList cards).get? name = none ↔
      ∀ card ∈ cards, card.normalizedName ≠ normalizeName name := by
  rw [get?_ofList, List.find?_eq_none]
  simp

/-- A pool has as many cards as different names were added. -/
theorem size_ofList (cards : List Card) :
    (ofList cards).size = (cards.map Card.normalizedName).toFinset.card := by
  have sameNames : (ofList cards).names.toFinset = (cards.map Card.normalizedName).toFinset := by
    ext key
    rw [List.mem_toFinset, List.mem_toFinset, names_ofList, mem_map_firstPerKey]
  calc (ofList cards).size
      = (ofList cards).names.length := by rw [size_eq_length, names, List.length_map]
    _ = (ofList cards).names.toFinset.card :=
      (List.toFinset_card_of_nodup (wellFormed_ofList cards).nodup_names).symm
    _ = (cards.map Card.normalizedName).toFinset.card := by rw [sameNames]

/-- No two cards that a search finds have one name. -/
theorem WellFormed.nodup_names_search (wellFormed : pool.WellFormed) (q : CardQuery) :
    ((pool.search q).map Card.normalizedName).Nodup := by
  have part : (pool.search q).Sublist pool.cards.toList :=
    (List.take_sublist _ _).trans List.filter_sublist
  exact wellFormed.nodup_names.sublist (part.map Card.normalizedName)

/-- After any additions to a pool, a name leads to a place exactly if the card there has it. So
there is one card for each name added. It is the one added last under its name, and the names stand
in the order in which they were first added; the pool as a source of cards resolves a name to that
card, and no search finds two cards of one name. -/
theorem ofList_keeps_last_per_name (cards : List Card) :
    let pool := ofList cards
    let source : CardSource (Except Failure) := pool.source
    (∀ (key : String) (position : Nat), pool.positions[key]? = some position ↔
      ∃ card : Card, pool.cards[position]? = some card ∧ card.normalizedName = key) ∧
    pool.size = (cards.map Card.normalizedName).toFinset.card ∧
    (∀ (name : String) (card : Card), pool.get? name = some card ↔
      ∃ earlier later, cards = earlier ++ card :: later ∧
        card.normalizedName = normalizeName name ∧
        ∀ other ∈ later, other.normalizedName ≠ normalizeName name) ∧
    (∀ name : String, pool.get? name = none ↔
      ∀ card ∈ cards, card.normalizedName ≠ normalizeName name) ∧
    (∀ name : String, source.resolve name = .ok (pool.get? name)) ∧
    pool.cards.toList.map Card.normalizedName =
      (firstPerKey Card.normalizedName cards).map Card.normalizedName ∧
    ∀ q : CardQuery, ∃ found : List Card, source.search q = .ok found ∧
      (found.map Card.normalizedName).Nodup := by
  intro pool source
  have wellFormed : pool.WellFormed := wellFormed_ofList cards
  refine ⟨wellFormed, size_ofList cards, fun _ _ => get?_ofList_eq_some_iff,
    fun _ => get?_ofList_eq_none_iff, fun _ => rfl, names_ofList cards, ?_⟩
  intro q
  exact ⟨pool.search q, rfl, wellFormed.nodup_names_search q⟩

end CardPool

end Deckwright
