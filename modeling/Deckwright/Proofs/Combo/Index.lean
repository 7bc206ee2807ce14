import Deckwright.Combo.Index
import Deckwright.Proofs.Combo.CardNames
import Mathlib.Data.List.Dedup
import Mathlib.Algebra.Ring.Nat

/-!
# What an index holds

An index is filled one combo at a time. An entry is a combo with its cards listed once, and with
at least one card left; what lacks cards is passed over before its identifier is looked at, and
of the entries with one identifier only the first is kept. `WellFormed` ties the three tables of
an index together, and `Represents` says of which entries they are the tables. Both hold of the
empty index and are kept by `ComboIndex.insert`, hence hold of every index. Cards are listed by the
normal forms of their names, and a normal form leads to the same combos as the spelling that it was
made from.
-/

namespace Deckwright

namespace Combo

/-- The entries of a list of combos, in order: each combo with its cards listed once, if it has
any. -/
def entriesOf (combos : List Combo) : List Combo :=
  (combos.map distinctCards).filter fun combo => combo.cards ≠ []

/-- The first combo of each identifier, in order. -/
def firstPerId (combos : List Combo) : List Combo := firstPerKey Combo.id combos

/-- The combo has cards, none of them blank and no two of them with one normal form. -/
structure Indexable (combo : Combo) : Prop where
  /-- There is a card. -/
  cards_ne_nil : combo.cards ≠ []
  /-- No card is blank. -/
  not_blank : ∀ key ∈ combo.normalizedCards, key ≠ ""
  /-- No card is listed twice. -/
  nodup : combo.normalizedCards.Nodup

/-- A combo with each card listed once can be indexed if a card is left. -/
theorem indexable_distinctCards {combo : Combo} (listed : combo.distinctCards.cards ≠ []) :
    combo.distinctCards.Indexable := by
  refine ⟨listed, ?_, nodup_map_distinctNames [] combo.cards⟩
  intro key mem
  obtain ⟨name, kept, rfl⟩ := List.mem_map.1 mem
  exact (fresh_of_mem_distinctNames kept).1

/-- One more combo gives one more entry, or none if it has no cards. -/
theorem entriesOf_concat (combos : List Combo) (combo : Combo) :
    entriesOf (combos ++ [combo]) =
      entriesOf combos ++ if combo.distinctCards.cards = [] then [] else [combo.distinctCards] := by
  rw [entriesOf, List.map_append, List.filter_append, ← entriesOf]
  by_cases bare : combo.distinctCards.cards = [] <;> simp [bare]

end Combo

namespace ComboIndex

/-- A combo is held if it stands at some position. -/
theorem mem_combos_iff {index : ComboIndex} {combo : Combo} :
    combo ∈ index.combos.toList ↔ ∃ position : Nat, index.combos[position]? = some combo := by
  rw [Array.mem_toList_iff, Array.mem_iff_getElem?]

/-- The tables of an index agree with its combos, all of which can be indexed. -/
structure WellFormed (index : ComboIndex) : Prop where
  /-- Each combo has cards, and lists each once. -/
  indexable : ∀ combo ∈ index.combos.toList, combo.Indexable
  /-- An identifier leads to the position of the combo that has it. -/
  byId_iff : ∀ (id : String) (position : Nat), index.byId[id]? = some position ↔
    ∃ combo : Combo, index.combos[position]? = some combo ∧ combo.id = id
  /-- A position is listed under the normal forms of the cards of its combo. -/
  mem_postings_iff : ∀ (key : String) (position : Nat), position ∈ index.postings[key]?.getD [] ↔
    ∃ combo : Combo, index.combos[position]? = some combo ∧ key ∈ combo.normalizedCards
  /-- Under each name in the table there are positions, and they ascend. -/
  postings_ascend : ∀ (key : String) (positions : List Nat),
    index.postings[key]? = some positions → positions ≠ [] ∧ positions.Pairwise (· < ·)

/-- The index holds the first combo of each identifier among some entries, and counts the others.
-/
structure Represents (index : ComboIndex) (entries : List Combo) : Prop extends
    index.WellFormed where
  /-- The first combos of each identifier are held in order. -/
  combos_eq : index.combos.toList = Combo.firstPerId entries
  /-- Each entry is held or counted. -/
  skipped_add_size : index.duplicatesSkipped + index.combos.size = entries.length

/-- The combos after one more are those before, and that one at the end. -/
theorem getElem?_push_eq_some_iff {combos : Array Combo} {combo other : Combo} {position : Nat} :
    (combos.push combo)[position]? = some other ↔
      combos[position]? = some other ∨ position = combos.size ∧ combo = other := by
  rw [Array.getElem?_push]
  by_cases last : position = combos.size <;> simp [last]

/-- A position noted under different names comes last under each of them, and under no other. -/
theorem getElem?_foldl_post (position : Nat) {keys : List String} (nodup : keys.Nodup)
    (postings : Std.HashMap String (List Nat)) (key : String) :
    (keys.foldl (post position) postings)[key]? =
      if key ∈ keys then some (postings[key]?.getD [] ++ [position]) else postings[key]? := by
  induction keys generalizing postings with
  | nil => simp
  | cons first rest ih =>
    obtain ⟨fresh, nodup⟩ := List.nodup_cons.1 nodup
    rw [List.foldl_cons, ih nodup, post, Std.HashMap.getElem?_insert]
    -- The first name is not noted again, since the others differ from it.
    by_cases here : first = key
    · subst here
      simp [fresh]
    · have elsewhere : ¬key = first := fun same => here same.symm
      simp [here, elsewhere]

/-- What lacks cards is passed over. -/
theorem insert_of_no_cards (index : ComboIndex) {combo : Combo}
    (bare : combo.distinctCards.cards = []) : index.insert combo = index := by
  simp [insert, bare]

/-- A combo whose identifier is taken is counted only. -/
theorem insert_of_taken (index : ComboIndex) {combo : Combo}
    (listed : combo.distinctCards.cards ≠ []) (taken : combo.id ∈ index.byId) :
    index.insert combo = { index with duplicatesSkipped := index.duplicatesSkipped + 1 } := by
  have taken : combo.distinctCards.id ∈ index.byId := taken
  simp [insert, listed, taken]

/-- A combo with a new identifier comes last in each table. -/
theorem insert_of_fresh (index : ComboIndex) {combo : Combo}
    (listed : combo.distinctCards.cards ≠ []) (fresh : combo.id ∉ index.byId) :
    index.insert combo =
      { index with
        combos := index.combos.push combo.distinctCards
        byId := index.byId.insert combo.id index.combos.size
        postings := combo.distinctCards.normalizedCards.foldl (post index.combos.size)
          index.postings } := by
  have fresh : combo.distinctCards.id ∉ index.byId := fresh
  simp [insert, listed, fresh]
  rfl

variable {index : ComboIndex}

/-- An identifier is taken if a combo of the index has it. -/
theorem WellFormed.mem_byId (wellFormed : index.WellFormed) (id : String) :
    id ∈ index.byId ↔ id ∈ index.ids := by
  rw [Std.HashMap.mem_iff_isSome_getElem?, Option.isSome_iff_exists, ids, List.mem_map]
  constructor
  · rintro ⟨position, found⟩
    obtain ⟨combo, held, same⟩ := (wellFormed.byId_iff id position).1 found
    exact ⟨combo, mem_combos_iff.2 ⟨position, held⟩, same⟩
  · rintro ⟨combo, mem, same⟩
    obtain ⟨position, held⟩ := mem_combos_iff.1 mem
    exact ⟨position, (wellFormed.byId_iff id position).2 ⟨combo, held, same⟩⟩

/-- The positions noted for a card are positions of the index. -/
theorem WellFormed.lt_size (wellFormed : index.WellFormed) {key : String} {position : Nat}
    (posted : position ∈ index.postings[key]?.getD []) : position < index.combos.size := by
  obtain ⟨combo, held, _⟩ := (wellFormed.mem_postings_iff key position).1 posted
  exact (Array.getElem?_eq_some_iff.1 held).1

/-- The positions noted for a card ascend, also where there are none. -/
theorem WellFormed.pairwise_posted (wellFormed : index.WellFormed) (key : String) :
    (index.postings[key]?.getD []).Pairwise (· < ·) := by
  cases found : index.postings[key]? with
  | none => exact .nil
  | some positions => exact (wellFormed.postings_ascend key positions found).2

/-- The tables of the empty index agree with it. -/
theorem wellFormed_empty : empty.WellFormed := by
  constructor <;> simp [empty]

/-- A combo with a new identifier can be added at the end of all tables. -/
theorem WellFormed.insert_of_fresh (wellFormed : index.WellFormed) {combo : Combo}
    (listed : combo.distinctCards.cards ≠ []) (fresh : combo.id ∉ index.byId) :
    (index.insert combo).WellFormed := by
  have indexable := Combo.indexable_distinctCards listed
  rw [ComboIndex.insert_of_fresh index listed fresh]
  constructor
  · intro other mem
    rw [Array.toList_push, List.mem_append, List.mem_singleton] at mem
    rcases mem with mem | rfl
    · exact wellFormed.indexable other mem
    · exact indexable
  · intro id position
    have kept : combo.distinctCards.id = combo.id := rfl
    simp only [getElem?_push_eq_some_iff, or_and_right, exists_or]
    rw [Std.HashMap.getElem?_insert, ← wellFormed.byId_iff]
    by_cases here : combo.id = id
    · have vacant : index.byId[id]? = none := Std.HashMap.getElem?_eq_none (here ▸ fresh)
      simp [here, kept, vacant, eq_comm]
    · simp [here, kept]
  · intro key position
    simp only [getElem?_push_eq_some_iff, or_and_right, exists_or]
    rw [getElem?_foldl_post _ indexable.nodup, ← wellFormed.mem_postings_iff]
    by_cases card : key ∈ combo.distinctCards.normalizedCards <;> simp [card]
  · intro key positions
    rw [getElem?_foldl_post _ indexable.nodup]
    by_cases card : key ∈ combo.distinctCards.normalizedCards
    · rw [if_pos card]
      rintro ⟨⟩
      -- The new position is the size of the index, and so after all that are noted.
      refine ⟨List.append_ne_nil_of_right_ne_nil _ (List.cons_ne_nil _ _), ?_⟩
      rw [List.pairwise_append]
      refine ⟨wellFormed.pairwise_posted key, List.pairwise_singleton _ _, ?_⟩
      intro position posted last mem
      rw [List.mem_singleton.1 mem]
      exact wellFormed.lt_size posted
    · rw [if_neg card]
      exact wellFormed.postings_ascend key positions

/-- The empty index represents no entries. -/
theorem represents_empty : empty.Represents [] :=
  ⟨wellFormed_empty, rfl, rfl⟩

/-- Adding a combo to an index keeps what it represents, with the entry of the combo at the end.
-/
theorem Represents.insert {combos : List Combo} (represents : index.Represents
    (Combo.entriesOf combos)) (combo : Combo) :
    (index.insert combo).Represents (Combo.entriesOf (combos ++ [combo])) := by
  have kept : combo.distinctCards.id = combo.id := rfl
  rw [Combo.entriesOf_concat]
  by_cases bare : combo.distinctCards.cards = []
  · rw [insert_of_no_cards index bare, if_pos bare, List.append_nil]
    exact represents
  · have taken_iff : combo.id ∈ index.byId ↔
        combo.id ∈ (Combo.entriesOf combos).map Combo.id := by
      rw [represents.mem_byId, ids, represents.combos_eq, Combo.firstPerId, mem_map_firstPerKey]
    have counted := represents.skipped_add_size
    rw [if_neg bare]
    by_cases taken : combo.id ∈ index.byId
    · rw [insert_of_taken index bare taken]
      refine ⟨⟨represents.indexable, represents.byId_iff, represents.mem_postings_iff,
        represents.postings_ascend⟩, ?_, ?_⟩
      · rw [Combo.firstPerId, firstPerKey_concat, kept, if_pos (taken_iff.1 taken)]
        exact represents.combos_eq
      · rw [List.length_append, List.length_singleton]
        change index.duplicatesSkipped + 1 + index.combos.size = _
        omega
    · refine ⟨represents.insert_of_fresh bare taken, ?_, ?_⟩ <;>
        rw [ComboIndex.insert_of_fresh index bare taken]
      · rw [Combo.firstPerId, firstPerKey_concat, kept,
          if_neg (fun known => taken (taken_iff.2 known)), Array.toList_push, represents.combos_eq,
          Combo.firstPerId]
      · rw [List.length_append, List.length_singleton, Array.size_push]
        change index.duplicatesSkipped + (index.combos.size + 1) = _
        omega

/-- Adding combos one after the other keeps what an index represents. -/
theorem Represents.foldl_insert (combos : List Combo) {earlier : List Combo} {index : ComboIndex}
    (represents : index.Represents (Combo.entriesOf earlier)) :
    (combos.foldl ComboIndex.insert index).Represents (Combo.entriesOf (earlier ++ combos)) := by
  induction combos generalizing earlier index with
  | nil => rwa [List.append_nil, List.foldl_nil]
  | cons combo rest ih =>
    have later := ih (represents.insert combo)
    rwa [List.append_assoc] at later

/-- The index of a list of combos represents its entries. -/
theorem represents_ofList (combos : List Combo) :
    (ofList combos).Represents (Combo.entriesOf combos) := by
  have start : empty.Represents (Combo.entriesOf []) := represents_empty
  exact start.foldl_insert combos

/-! ## Identifiers -/

/-- No two combos of an index have one identifier. -/
theorem WellFormed.nodup_ids (wellFormed : index.WellFormed) : index.ids.Nodup := by
  rw [ids, List.Nodup, List.pairwise_map, List.pairwise_iff_getElem]
  intro i j hi hj before same
  -- One identifier at two positions would lead to both.
  have atFirst := (wellFormed.byId_iff _ i).2 ⟨_, Array.getElem?_toList ▸
    List.getElem?_eq_getElem hi, rfl⟩
  have atSecond := (wellFormed.byId_iff _ j).2 ⟨_, Array.getElem?_toList ▸
    List.getElem?_eq_getElem hj, rfl⟩
  rw [same, atSecond, Option.some.injEq] at atFirst
  omega

/-- An identifier is found if a combo has it, and then it is that combo that is found. -/
theorem WellFormed.get?_eq_some_iff (wellFormed : index.WellFormed) (id : String)
    (combo : Combo) :
    index.get? id = some combo ↔ combo ∈ index.combos.toList ∧ combo.id = id := by
  rw [get?, Option.bind_eq_some_iff]
  constructor
  · rintro ⟨position, found, held⟩
    obtain ⟨owner, same, named⟩ := (wellFormed.byId_iff id position).1 found
    obtain rfl := Option.some.inj (same.symm.trans held)
    exact ⟨mem_combos_iff.2 ⟨position, held⟩, named⟩
  · rintro ⟨mem, named⟩
    obtain ⟨position, held⟩ := mem_combos_iff.1 mem
    exact ⟨position, (wellFormed.byId_iff id position).2 ⟨combo, held, named⟩, held⟩

/-- What is found under an identifier is the first entry that has it. -/
theorem Represents.get?_eq_find? {entries : List Combo} (represents : index.Represents entries)
    (id : String) : index.get? id = entries.find? fun combo => combo.id = id := by
  rw [← find?_firstPerKey, ← Combo.firstPerId, ← represents.combos_eq]
  cases found : index.combos.toList.find? fun combo => combo.id = id with
  | none =>
    cases got : index.get? id with
    | none => rfl
    | some combo =>
      obtain ⟨mem, named⟩ := (represents.get?_eq_some_iff id combo).1 got
      exact absurd named (by simpa using List.find?_eq_none.1 found combo mem)
  | some combo =>
    have named : combo.id = id := by simpa using List.find?_some found
    exact (represents.get?_eq_some_iff id combo).2 ⟨List.mem_of_find?_eq_some found, named⟩

/-! ## What the summary counts -/

/-- The pairs of a card name and a position in the table of names. -/
def postedPairs (index : ComboIndex) : List (String × Nat) :=
  index.postings.toList.flatMap fun entry => entry.2.map fun position => (entry.1, position)

/-- The pairs of a card name and the position of a combo that lists it. -/
def listedPairs (index : ComboIndex) : List (String × Nat) :=
  index.combos.toList.zipIdx.flatMap fun entry =>
    entry.1.normalizedCards.map fun key => (key, entry.2)

/-- A pair is posted if its position is noted for its name. -/
theorem mem_postedPairs {key : String} {position : Nat} :
    (key, position) ∈ index.postedPairs ↔ position ∈ index.postings[key]?.getD [] := by
  rw [postedPairs, List.mem_flatMap]
  constructor
  · rintro ⟨⟨name, positions⟩, found, mem⟩
    rw [Std.HashMap.mem_toList_iff_getElem?_eq_some] at found
    obtain ⟨posted, mem, same⟩ := List.mem_map.1 mem
    obtain ⟨rfl, rfl⟩ := Prod.mk.inj same
    rwa [found]
  · intro posted
    cases found : index.postings[key]? with
    | none => simp [found] at posted
    | some positions =>
      rw [found] at posted
      exact ⟨(key, positions), Std.HashMap.mem_toList_iff_getElem?_eq_some.2 found,
        List.mem_map_of_mem posted⟩

/-- A pair is listed if its name is a card of the combo at its position. -/
theorem mem_listedPairs {key : String} {position : Nat} :
    (key, position) ∈ index.listedPairs ↔
      ∃ combo : Combo, index.combos[position]? = some combo ∧ key ∈ combo.normalizedCards := by
  rw [listedPairs, List.mem_flatMap]
  constructor
  · rintro ⟨⟨combo, place⟩, held, mem⟩
    obtain ⟨card, listed, same⟩ := List.mem_map.1 mem
    obtain ⟨rfl, rfl⟩ := Prod.mk.inj same
    rw [List.mk_mem_zipIdx_iff_getElem?, Array.getElem?_toList] at held
    exact ⟨combo, held, listed⟩
  · rintro ⟨combo, held, mem⟩
    rw [← Array.getElem?_toList, ← List.mk_mem_zipIdx_iff_getElem?] at held
    exact ⟨(combo, position), held, List.mem_map_of_mem mem⟩

/-- Lists without repeats, whose items carry different labels, have no item in common. -/
theorem nodup_flatMap_of_labels {α β γ : Type} {l : List α} {f : α → List β} (label : α → γ)
    (labelOf : β → γ) (labels : (l.map label).Nodup)
    (labelled : ∀ a ∈ l, ∀ b ∈ f a, labelOf b = label a) (nodup : ∀ a ∈ l, (f a).Nodup) :
    (l.flatMap f).Nodup := by
  rw [List.nodup_flatMap]
  refine ⟨nodup, ?_⟩
  have apart : l.Pairwise fun a b => label a ≠ label b := List.pairwise_map.1 labels
  refine apart.imp_of_mem ?_
  intro a b memA memB different c inA inB
  exact different ((labelled a memA c inA).symm.trans (labelled b memB c inB))

/-- No pair is posted twice. -/
theorem WellFormed.nodup_postedPairs (wellFormed : index.WellFormed) :
    index.postedPairs.Nodup := by
  refine nodup_flatMap_of_labels Prod.fst Prod.fst ?_ ?_ ?_
  · rw [Std.HashMap.map_fst_toList_eq_keys]
    exact Std.HashMap.nodup_keys
  · intro entry _ pair mem
    obtain ⟨position, _, rfl⟩ := List.mem_map.1 mem
    rfl
  · rintro ⟨key, positions⟩ found
    rw [Std.HashMap.mem_toList_iff_getElem?_eq_some] at found
    have ascend := (wellFormed.postings_ascend key positions found).2
    refine List.Nodup.map (fun a b same => (Prod.mk.inj same).2) ?_
    exact ascend.imp Nat.ne_of_lt

/-- No pair is listed twice. -/
theorem WellFormed.nodup_listedPairs (wellFormed : index.WellFormed) :
    index.listedPairs.Nodup := by
  refine nodup_flatMap_of_labels Prod.snd Prod.snd ?_ ?_ ?_
  · rw [List.zipIdx_map_snd]
    exact List.nodup_range'
  · intro entry _ pair mem
    obtain ⟨key, _, rfl⟩ := List.mem_map.1 mem
    rfl
  · rintro ⟨combo, position⟩ held
    rw [List.mk_mem_zipIdx_iff_getElem?] at held
    have indexable := wellFormed.indexable combo (List.mem_of_getElem? held)
    exact List.Nodup.map (fun a b same => (Prod.mk.inj same).1) indexable.nodup

/-- The summary counts as many postings as the combos have cards. -/
theorem WellFormed.totalPostings_eq (wellFormed : index.WellFormed) :
    index.stats.totalPostings = (index.combos.toList.map Combo.size).sum := by
  have paired : index.postedPairs.Perm index.listedPairs := by
    rw [List.perm_ext_iff_of_nodup wellFormed.nodup_postedPairs wellFormed.nodup_listedPairs]
    rintro ⟨key, position⟩
    rw [mem_postedPairs, mem_listedPairs]
    exact wellFormed.mem_postings_iff key position
  have same := paired.length_eq
  rw [postedPairs, listedPairs, List.length_flatMap, List.length_flatMap] at same
  simp only [List.length_map] at same
  calc
    index.stats.totalPostings =
        (index.combos.toList.zipIdx.map fun entry => entry.1.normalizedCards.length).sum := same
    _ = ((index.combos.toList.zipIdx.map Prod.fst).map Combo.size).sum := by
      rw [List.map_map]
      simp only [Function.comp_def, Combo.size, Combo.normalizedCards, List.length_map]
    _ = (index.combos.toList.map Combo.size).sum := by rw [List.zipIdx_map_fst]

/-- The summary counts each name of a card once. -/
theorem WellFormed.distinctCards_eq (wellFormed : index.WellFormed) :
    index.postings.size = (index.combos.toList.flatMap Combo.normalizedCards).dedup.length := by
  rw [← Std.HashMap.length_keys]
  refine List.Perm.length_eq ?_
  rw [List.perm_ext_iff_of_nodup Std.HashMap.nodup_keys (List.nodup_dedup _)]
  intro key
  rw [Std.HashMap.mem_keys, List.mem_dedup, List.mem_flatMap, Std.HashMap.mem_iff_isSome_getElem?]
  constructor
  · intro named
    obtain ⟨positions, found⟩ := Option.isSome_iff_exists.1 named
    obtain ⟨position, posted⟩ :=
      List.exists_mem_of_ne_nil _ (wellFormed.postings_ascend key positions found).1
    obtain ⟨combo, held, card⟩ :=
      (wellFormed.mem_postings_iff key position).1 (by rwa [found])
    exact ⟨combo, mem_combos_iff.2 ⟨position, held⟩, card⟩
  · rintro ⟨combo, mem, card⟩
    obtain ⟨position, held⟩ := mem_combos_iff.1 mem
    have posted := (wellFormed.mem_postings_iff key position).2 ⟨combo, held, card⟩
    cases found : index.postings[key]? with
    | none => simp [found] at posted
    | some positions => rfl

/-- An index of any list of combos holds the first entry of each identifier, finds it under that
identifier alone, lists each position under the names of the cards of its combo and nowhere else,
once and in ascending order, and its summary counts what is held. -/
theorem ofList_keeps_first_entries (combos : List Combo) :
    let index := ofList combos
    let entries := Combo.entriesOf combos
    index.combos.toList = Combo.firstPerId entries ∧
    (∀ (id : String) (position : Nat), index.byId[id]? = some position ↔
      ∃ combo : Combo, index.combos[position]? = some combo ∧ combo.id = id) ∧
    (∀ (id : String) (combo : Combo),
      index.get? id = some combo ↔ combo ∈ index.combos.toList ∧ combo.id = id) ∧
    (∀ id : String, index.get? id = entries.find? fun combo => combo.id = id) ∧
    (∀ (key : String) (position : Nat), position ∈ index.postings[key]?.getD [] ↔
      ∃ combo : Combo, index.combos[position]? = some combo ∧ key ∈ combo.normalizedCards) ∧
    (∀ (key : String) (positions : List Nat), index.postings[key]? = some positions →
      positions ≠ [] ∧ positions.Pairwise (· < ·)) ∧
    index.stats.comboCount = index.combos.size ∧
    index.stats.distinctCards = index.postings.size ∧
    index.postings.size = (index.combos.toList.flatMap Combo.normalizedCards).dedup.length ∧
    index.stats.totalPostings = (index.combos.toList.map Combo.size).sum ∧
    index.stats.duplicatesSkipped + index.stats.comboCount = entries.length := by
  intro index entries
  have represents : index.Represents entries := represents_ofList combos
  refine ⟨represents.combos_eq, represents.byId_iff, represents.get?_eq_some_iff,
    represents.get?_eq_find?, represents.mem_postings_iff, represents.postings_ascend, rfl, rfl,
    represents.distinctCards_eq, represents.totalPostings_eq, represents.skipped_add_size⟩

/-! ## Look-ups by normal forms -/

/-- An index knows a card under its normal form as under its name. -/
theorem positionsOf_normalizeName (index : ComboIndex) (name : String) :
    index.positionsOf (normalizeName name) = index.positionsOf name := by
  rw [positionsOf, normalizeName_normalizeName, positionsOf]

/-- The position of a combo is listed under the names of its cards. -/
theorem WellFormed.mem_positionsOf {index : ComboIndex} (wellFormed : index.WellFormed)
    {position : Nat} {combo : Combo} (held : index.combos[position]? = some combo)
    {name : String} (listed : name ∈ combo.cards) : position ∈ index.positionsOf name :=
  (wellFormed.mem_postings_iff (normalizeName name) position).2
    ⟨combo, held, List.mem_map_of_mem listed⟩

/-- A normal form is its own normal form, and begins and ends with no blank. So the normal forms of
the cards of a combo lead to the same positions in any index as the spellings that the combo has;
and in an index that holds the combo, its position is one of them. -/
theorem normal_forms_reach_postings (name : String) (combo : Combo) :
    normalizeName (normalizeName name) = normalizeName name ∧
    (∀ c, (normalizeName name).toList.head? = some c → Unicode.isBlank c = false) ∧
    (∀ c, (normalizeName name).toList.getLast? = some c → Unicode.isBlank c = false) ∧
    (∀ index : ComboIndex,
      index.positionsOf (normalizeName name) = index.positionsOf name ∧
      combo.normalizedCards.map index.positionsOf = combo.cards.map index.positionsOf) ∧
    ∀ (combos : List Combo) (position : Nat),
      (ofList combos).combos[position]? = some combo →
      ∀ key ∈ combo.normalizedCards, position ∈ (ofList combos).positionsOf key := by
  have trimmed := isTrimmed_normalizeName name
  refine ⟨normalizeName_normalizeName name, trimmed.first, trimmed.last, ?_, ?_⟩
  · intro index
    refine ⟨index.positionsOf_normalizeName name, ?_⟩
    rw [Combo.normalizedCards, List.map_map]
    exact List.map_congr_left fun card _ => index.positionsOf_normalizeName card
  · intro combos position held key mem
    obtain ⟨card, listed, rfl⟩ := List.mem_map.1 mem
    rw [positionsOf_normalizeName]
    exact (represents_ofList combos).mem_positionsOf held listed

end ComboIndex

end Deckwright
