import Deckwright.Combo.Corpus
import Std.Data.HashMap

/-!
# The combo index

For each card name, in normal form, the index knows the combos that list the card, by their
positions in ascending order. A query looks only at the combos of its names. The combos of an
index have cards and different identifiers; of two combos with one identifier the first counts.
-/

namespace Deckwright

/-- An index of combos by card names. -/
structure ComboIndex where
  /-- The combos in order. -/
  combos : Array Combo
  /-- Positions of the combos by identifier. -/
  byId : Std.HashMap String Nat
  /-- Ascending positions of combos by the normalized names of their cards. -/
  postings : Std.HashMap String (List Nat)
  /-- Number of combos left out because of their identifiers. -/
  duplicatesSkipped : Nat
  deriving Inhabited

/-- A summary of an index. -/
structure IndexStats where
  /-- Number of combos. -/
  comboCount : Nat
  /-- Number of different card names. -/
  distinctCards : Nat
  /-- Number of pairs of a card name and a combo that lists it. -/
  totalPostings : Nat
  /-- Number of combos left out because of their identifiers. -/
  duplicatesSkipped : Nat
  deriving DecidableEq, Repr

namespace ComboIndex

/-- The index of no combos. -/
def empty : ComboIndex := ⟨#[], ∅, ∅, 0⟩

/-- Note that the combo at a position lists a card. -/
def post (position : Nat) (postings : Std.HashMap String (List Nat)) (name : String) :
    Std.HashMap String (List Nat) :=
  postings.insert name ((postings[name]?.getD []) ++ [position])

/-- Add a combo. One without cards, or with an identifier that is taken, is left out. -/
def insert (index : ComboIndex) (combo : Combo) : ComboIndex :=
  let combo := combo.distinctCards
  if combo.cards.isEmpty then index
  else if index.byId.contains combo.id then
    { index with duplicatesSkipped := index.duplicatesSkipped + 1 }
  else
    let position := index.combos.size
    { index with
      combos := index.combos.push combo
      byId := index.byId.insert combo.id position
      postings := combo.normalizedCards.foldl (post position) index.postings }

/-- The index of a list of combos. -/
def ofList (combos : List Combo) : ComboIndex := combos.foldl insert empty

/-- The index of a corpus. -/
def ofCorpus (corpus : ComboCorpus) : ComboIndex := ofList corpus.combos

/-- Number of combos. -/
def size (index : ComboIndex) : Nat := index.combos.size

/-- The identifiers of the combos in order. -/
def ids (index : ComboIndex) : List String := index.combos.toList.map Combo.id

/-- The summary of an index. -/
def stats (index : ComboIndex) : IndexStats where
  comboCount := index.combos.size
  distinctCards := index.postings.size
  totalPostings := (index.postings.toList.map fun entry => entry.2.length).foldr (· + ·) 0
  duplicatesSkipped := index.duplicatesSkipped

/-- Positions of the combos that list a card. -/
def positionsOf (index : ComboIndex) (name : String) : List Nat :=
  index.postings[normalizeName name]?.getD []

/-- The combos at some positions. -/
def combosAt (index : ComboIndex) (positions : List Nat) : List Combo :=
  positions.filterMap fun i => index.combos[i]?

/-- The identifiers of the combos that list a card. -/
def lookup (index : ComboIndex) (name : String) : List String :=
  (index.combosAt (index.positionsOf name)).map Combo.id

/-- The combo with an identifier. -/
def get? (index : ComboIndex) (id : String) : Option Combo :=
  index.byId[id]?.bind fun i => index.combos[i]?

end ComboIndex

/-- Names to compare combos with: their different normal forms that are not blank. -/
structure CardNames where
  /-- The normal forms. -/
  keys : List String
  deriving DecidableEq, Repr

namespace CardNames

/-- The names of a list. -/
def ofList (names : List String) : CardNames :=
  ⟨((names.map normalizeName).filter fun key => !key.isEmpty).eraseDups⟩

/-- The name is among them. -/
def contains (names : CardNames) (name : String) : Bool := names.keys.contains (normalizeName name)

/-- A combo compared with the names. -/
def compare (names : CardNames) (combo : Combo) : ComboMatch where
  combo := combo
  missing := combo.cards.filter fun name => !names.contains name
  present := combo.cards.countP names.contains

end CardNames

/-- A list without the items that equal the one before them. -/
def dropRepeats : List Nat → List Nat
  | [] => []
  | [a] => [a]
  | a :: b :: rest => if a = b then dropRepeats (b :: rest) else a :: dropRepeats (b :: rest)

/-- Dropping repeats drops no item altogether. -/
@[simp] theorem mem_dropRepeats {a : Nat} {items : List Nat} :
    a ∈ dropRepeats items ↔ a ∈ items := by
  fun_induction dropRepeats items with
  | case1 => rfl
  | case2 => rfl
  | case3 b rest ih => simp [ih]
  | case4 b c rest different ih => simp [ih]

/-- Without repeats, items in ascending order ascend strictly. -/
theorem pairwise_dropRepeats {items : List Nat} (ascending : items.Pairwise (· ≤ ·)) :
    (dropRepeats items).Pairwise (· < ·) := by
  fun_induction dropRepeats items with
  | case1 => exact .nil
  | case2 a => exact List.pairwise_singleton _ a
  | case3 b rest ih => exact ih (List.pairwise_cons.1 ascending).2
  | case4 a b rest different ih =>
    obtain ⟨above, tail⟩ := List.pairwise_cons.1 ascending
    refine List.pairwise_cons.2 ⟨?_, ih tail⟩
    intro c mem
    have first := above b List.mem_cons_self
    rcases List.mem_cons.1 (mem_dropRepeats.1 mem) with rfl | mem
    · omega
    · have := (List.pairwise_cons.1 tail).1 c mem
      omega

namespace ComboIndex

/-- Ascending positions of the combos that list any of the names. -/
def candidates (index : ComboIndex) (names : CardNames) : List Nat :=
  dropRepeats ((names.keys.flatMap fun key => index.postings[key]?.getD []).mergeSort (· ≤ ·))

/-- The candidates are the positions under which one of the names is listed. -/
theorem mem_candidates (index : ComboIndex) (names : CardNames) (position : Nat) :
    position ∈ index.candidates names ↔
      ∃ key ∈ names.keys, position ∈ index.postings[key]?.getD [] := by
  rw [candidates, mem_dropRepeats, List.mem_mergeSort, List.mem_flatMap]

/-- The candidates ascend, so no combo is a candidate twice. -/
theorem pairwise_candidates (index : ComboIndex) (names : CardNames) :
    (index.candidates names).Pairwise (· < ·) := by
  refine pairwise_dropRepeats ?_
  refine (List.pairwise_mergeSort ?_ ?_ _).imp ?_
  · intro a b c first second
    simp only [decide_eq_true_eq] at first second ⊢
    exact Nat.le_trans first second
  · intro a b
    simpa using Nat.le_total a b
  · intro a b ordered
    simpa using ordered

end ComboIndex

end Deckwright
