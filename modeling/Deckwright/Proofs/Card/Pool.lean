import Deckwright.Card.Pool
import Mathlib.Data.List.Nodup
import Mathlib.Data.List.Perm.Subperm

/-!
# What a pool holds

A pool has its cards in a row and a table that leads from each name, in normal form, to the place
of its card. `WellFormed` says that the table and the row agree. It holds of the empty pool and is
kept when a card is added, at the end of the row or in place of another, hence holds of every
pool. So no two cards of a pool have one name, and a card is known by its name.
-/

namespace Deckwright

namespace CardPool

/-- A name leads to a place if the card there has it. -/
def WellFormed (pool : CardPool) : Prop :=
  ∀ (key : String) (position : Nat), pool.positions[key]? = some position ↔
    ∃ card : Card, pool.cards[position]? = some card ∧ card.normalizedName = key

/-- A card is in a pool if it stands somewhere in the row. -/
theorem mem_cards_iff {pool : CardPool} {card : Card} :
    card ∈ pool.cards.toList ↔ ∃ position : Nat, pool.cards[position]? = some card := by
  rw [List.mem_iff_getElem?]
  simp only [Array.getElem?_toList]

/-- A card takes the place of the one with its name. -/
theorem insert_of_known {pool : CardPool} {card : Card} {position : Nat}
    (known : pool.positions[card.normalizedName]? = some position) :
    pool.insert card = { pool with cards := pool.cards.setIfInBounds position card } := by
  simp only [insert, known]

/-- A card with a new name comes last. -/
theorem insert_of_new {pool : CardPool} {card : Card}
    (new : pool.positions[card.normalizedName]? = none) :
    pool.insert card = ⟨pool.cards.push card,
      pool.positions.insert card.normalizedName pool.cards.size⟩ := by
  simp only [insert, new]

/-- The table of the empty pool agrees with it. -/
theorem wellFormed_empty : empty.WellFormed := by
  intro key position
  simp [empty]

/-- A card can take the place of the one with its name. -/
theorem WellFormed.insert_of_known {pool : CardPool} (wellFormed : pool.WellFormed) {card : Card}
    {place : Nat} (known : pool.positions[card.normalizedName]? = some place) :
    (pool.insert card).WellFormed := by
  obtain ⟨replaced, held, named⟩ := (wellFormed _ place).1 known
  have inside : place < pool.cards.size := (Array.getElem?_eq_some_iff.1 held).1
  intro key position
  rw [CardPool.insert_of_known known, wellFormed, Array.getElem?_setIfInBounds]
  by_cases here : place = position
  · subst here
    rw [held, if_pos rfl, if_pos inside]
    simp [named]
  · simp [here]

/-- A card with a new name can be added at the end. -/
theorem WellFormed.insert_of_new {pool : CardPool} (wellFormed : pool.WellFormed) {card : Card}
    (new : pool.positions[card.normalizedName]? = none) : (pool.insert card).WellFormed := by
  intro key position
  rw [CardPool.insert_of_new new, Std.HashMap.getElem?_insert, Array.getElem?_push]
  by_cases same : card.normalizedName = key
  · subst same
    have vacant : ∀ other : Card, pool.cards[position]? = some other →
        other.normalizedName ≠ card.normalizedName := by
      intro other held named
      have taken := (wellFormed _ position).2 ⟨other, held, named⟩
      rw [new] at taken
      simp at taken
    by_cases last : position = pool.cards.size
    · simp [last]
    · simpa [last, Ne.symm last] using vacant
  · have other : (card.normalizedName == key) = false := by simpa using same
    rw [other, if_neg Bool.false_ne_true, wellFormed]
    by_cases last : position = pool.cards.size
    · simp [last, same]
    · simp [last]

/-- Adding a card keeps the table and the row in agreement. -/
theorem WellFormed.insert {pool : CardPool} (wellFormed : pool.WellFormed) (card : Card) :
    (pool.insert card).WellFormed := by
  cases known : pool.positions[card.normalizedName]? with
  | some place => exact wellFormed.insert_of_known known
  | none => exact wellFormed.insert_of_new known

/-- Adding cards one after the other keeps the table and the row in agreement. -/
theorem WellFormed.foldl_insert (cards : List Card) {pool : CardPool}
    (wellFormed : pool.WellFormed) : (cards.foldl CardPool.insert pool).WellFormed := by
  induction cards generalizing pool with
  | nil => exact wellFormed
  | cons card rest ih => exact ih (wellFormed.insert card)

/-- The table and the row of a pool agree, whatever cards were added. -/
theorem wellFormed_ofList (cards : List Card) : (ofList cards).WellFormed :=
  wellFormed_empty.foldl_insert cards

variable {pool : CardPool}

/-- No two cards of a pool have one name. -/
theorem WellFormed.nodup_names (wellFormed : pool.WellFormed) :
    (pool.cards.toList.map Card.normalizedName).Nodup := by
  rw [List.Nodup, List.pairwise_map, List.pairwise_iff_getElem]
  intro i j hi hj before same
  -- One name at two places would lead to both.
  have first := (wellFormed _ i).2 ⟨_, Array.getElem?_toList ▸ List.getElem?_eq_getElem hi, rfl⟩
  have second := (wellFormed _ j).2 ⟨_, Array.getElem?_toList ▸ List.getElem?_eq_getElem hj, rfl⟩
  rw [same, second, Option.some.injEq] at first
  omega

/-- No card is in a pool twice. -/
theorem WellFormed.nodup_cards (wellFormed : pool.WellFormed) : pool.cards.toList.Nodup :=
  wellFormed.nodup_names.of_map Card.normalizedName

/-- A card of a pool is known by its name. -/
theorem WellFormed.eq_of_same_name (wellFormed : pool.WellFormed) {a b : Card}
    (memA : a ∈ pool.cards.toList) (memB : b ∈ pool.cards.toList)
    (same : a.normalizedName = b.normalizedName) : a = b :=
  List.inj_on_of_nodup_map wellFormed.nodup_names memA memB same

/-- Cards with new and different names come last, in the order in which they are added. -/
theorem toList_cards_foldl_insert {cards : List Card} (wellFormed : pool.WellFormed)
    (different : ((pool.cards.toList ++ cards).map Card.normalizedName).Nodup) :
    (cards.foldl CardPool.insert pool).cards.toList = pool.cards.toList ++ cards := by
  induction cards generalizing pool with
  | nil => rw [List.foldl_nil, List.append_nil]
  | cons card rest ih =>
    have new : pool.positions[card.normalizedName]? = none := by
      refine Option.eq_none_iff_forall_not_mem.2 ?_
      intro position taken
      obtain ⟨other, held, named⟩ := (wellFormed _ position).1 taken
      rw [List.map_append, List.nodup_append] at different
      exact different.2.2 _ (List.mem_map_of_mem (mem_cards_iff.2 ⟨position, held⟩))
        card.normalizedName (by simp) named
    have step : (pool.insert card).cards.toList = pool.cards.toList ++ [card] := by
      rw [insert_of_new new, Array.toList_push]
    rw [List.foldl_cons, ih (wellFormed.insert card) (by simpa [step] using different), step,
      List.append_assoc]
    rfl

/-- A pool of cards with different names has these cards in their order. -/
theorem toList_cards_ofList {cards : List Card}
    (different : (cards.map Card.normalizedName).Nodup) : (ofList cards).cards.toList = cards :=
  toList_cards_foldl_insert wellFormed_empty different

/-- The size of a pool is the number of its cards. -/
theorem size_eq_length (pool : CardPool) : pool.size = pool.cards.toList.length :=
  Array.length_toList.symm

/-! ## Searches -/

/-- A search finds cards of the pool that satisfy its query. -/
theorem mem_search {q : CardQuery} {card : Card} (found : card ∈ pool.search q) :
    card ∈ pool.cards.toList ∧ q.accepts (.compile q.pattern) card = true :=
  List.mem_filter.1 (List.mem_of_mem_take found)

/-- A search finds cards in the order of the pool. -/
theorem search_sublist (pool : CardPool) (q : CardQuery) :
    (pool.search q).Sublist pool.cards.toList :=
  (List.take_sublist _ _).trans List.filter_sublist

/-- A search whose page has room for the whole pool finds all cards that satisfy its query. -/
theorem search_eq_filter {q : CardQuery} (room : pool.size ≤ q.pageSize) :
    pool.search q = pool.cards.toList.filter (q.accepts (.compile q.pattern)) := by
  refine List.take_of_length_le ?_
  exact Nat.le_trans (List.length_filter_le _ _) room

/-- If the page has room, a search for a format finds what the search for any format finds and is
legal in the format. -/
theorem search_inFormat {q : CardQuery} (anyFormat : q.format = none)
    (room : pool.size ≤ q.pageSize) (format : String) :
    pool.search { q with format := some format } =
      (pool.search q).filter fun card => card.isLegalIn format := by
  have sameRoom : pool.size ≤ { q with format := some format : CardQuery }.pageSize := room
  rw [search_eq_filter room, search_eq_filter sameRoom, List.filter_filter]
  refine List.filter_congr ?_
  intro card _
  simp only [CardQuery.accepts, anyFormat, Option.all_some, Option.all_none, Bool.and_true]
  ac_rfl

/-! ## Parts of a pool -/

/-- A part of a pool is not larger than the pool. -/
theorem size_le_of_part {part : CardPool}
    (within : part.cards.toList.Sublist pool.cards.toList) : part.size ≤ pool.size := by
  rw [size_eq_length, size_eq_length]
  exact within.length_le

/-- A part of a pool has the cards of the pool that are in it. -/
theorem WellFormed.filter_mem_part {part : CardPool} (wellFormed : pool.WellFormed)
    (within : part.cards.toList.Sublist pool.cards.toList) :
    pool.cards.toList.filter (· ∈ part.cards.toList) = part.cards.toList := by
  have whole : part.cards.toList.filter (· ∈ part.cards.toList) = part.cards.toList :=
    List.filter_eq_self.2 fun card mem => decide_eq_true mem
  have kept := within.filter (· ∈ part.cards.toList)
  rw [whole] at kept
  have fewer := List.subperm_of_subset (wellFormed.nodup_cards.filter (· ∈ part.cards.toList))
    fun card mem => of_decide_eq_true (List.mem_filter.1 mem).2
  exact (kept.eq_of_length_le fewer.length_le).symm

/-- If the page has room, a search finds in a part of a pool what it finds in the pool and is in
the part. -/
theorem WellFormed.search_part {part : CardPool} (wellFormed : pool.WellFormed)
    (within : part.cards.toList.Sublist pool.cards.toList) {q : CardQuery}
    (room : pool.size ≤ q.pageSize) :
    part.search q = (pool.search q).filter (· ∈ part.cards.toList) := by
  have partRoom : part.size ≤ q.pageSize := Nat.le_trans (size_le_of_part within) room
  rw [search_eq_filter room, search_eq_filter partRoom, List.filter_comm,
    wellFormed.filter_mem_part within]

end CardPool

end Deckwright
