import Deckwright.Combo.Index

/-!
# Matching combos with lists of cards

A matcher answers questions about its current index: which combos are complete, or nearly so,
in a list of cards. Its index can be replaced as a whole. A question that finds both complete
and incomplete combos is up to its caller, who also says how many are wanted.
-/

namespace Deckwright

/-- What a matcher assumes where a caller says nothing. -/
structure ComboMatcherConfig where
  /-- Greatest number of combos in an answer. -/
  defaultLimit : Nat := 50
  /-- Greatest number of missing cards of an incomplete combo. -/
  defaultMaxMissing : Nat := 1
  /-- Least number of present cards of an incomplete combo. -/
  defaultMinPresent : Nat := 1
  deriving DecidableEq, Repr, Inhabited

namespace ComboMatcherConfig

/-- The fields of the settings in a JSON text. -/
def fields : List (Json.Field ComboMatcherConfig) := [
  .of "default_limit" .default Json.readCount fun v c => { c with defaultLimit := v },
  .of "default_max_missing" .default Json.readCount fun v c => { c with defaultMaxMissing := v },
  .of "default_min_present" .default Json.readCount fun v c => { c with defaultMinPresent := v }]

/-- Read the settings. -/
def read : Json.Reader ComboMatcherConfig := Json.readRecord "ComboMatcherConfig" fields {}

/-- The JSON value of the settings. -/
def toJson (c : ComboMatcherConfig) : Json.Value := .map [
  ("default_limit", .number c.defaultLimit),
  ("default_max_missing", .number c.defaultMaxMissing),
  ("default_min_present", .number c.defaultMinPresent)]

end ComboMatcherConfig

/-- Incomplete combos of a list of cards. -/
structure MissingPieces where
  /-- The combos, best first. -/
  results : List ComboMatch
  /-- Number of combos that share a card with the list. -/
  examined : Nat
  deriving DecidableEq, Repr, Inhabited

namespace MissingPieces

/-- The JSON value of the incomplete combos. -/
def toJson (p : MissingPieces) : Json.Value := .map [
  ("matches", .list (p.results.map ComboMatch.toJson)),
  ("candidates_examined", .number p.examined)]

end MissingPieces

namespace ComboMatch

/-- The first is to be listed before the second or at the same place: fewer cards are missing,
or as many and more are present. -/
def ranksBefore (a b : ComboMatch) : Bool :=
  a.missing.length < b.missing.length
    || (a.missing.length == b.missing.length && b.present ≤ a.present)

/-- Fewer missing cards rank before more of them, and of equally many, more present cards before
fewer. -/
theorem ranksBefore_iff (a b : ComboMatch) :
    a.ranksBefore b = true ↔
      a.missing.length < b.missing.length ∨
        (a.missing.length = b.missing.length ∧ b.present ≤ a.present) := by
  simp [ranksBefore]

/-- Of two comparisons one ranks before the other. -/
theorem ranksBefore_total (a b : ComboMatch) :
    (a.ranksBefore b || b.ranksBefore a) = true := by
  rw [Bool.or_eq_true, ranksBefore_iff, ranksBefore_iff]
  omega

/-- The ranks are an order. -/
theorem ranksBefore_trans (a b c : ComboMatch) (first : a.ranksBefore b = true)
    (second : b.ranksBefore c = true) : a.ranksBefore c = true := by
  rw [ranksBefore_iff] at first second ⊢
  omega

end ComboMatch

namespace ComboIndex

/-- The combos that list any of the names, compared with them, in the order of the index. -/
def comparisons (index : ComboIndex) (names : CardNames) : List ComboMatch :=
  (index.combosAt (index.candidates names)).map names.compare

/-- The first combos, up to a limit, that share a card with a list and lack at most the given
number of cards. -/
def findCombos (index : ComboIndex) (names : List String) (maxMissing limit : Nat) :
    List Combo :=
  (((index.comparisons (.ofList names)).filter fun m => m.missing.length ≤ maxMissing).take
    limit).map ComboMatch.combo

/-- The combos that share a card with a list and lack between one and the given number of cards,
with at least the given number present. Fewer missing cards rank first, then more present ones,
then the order of the index. -/
def findMissingPieces (index : ComboIndex) (names : List String) (maxMissing minPresent : Nat) :
    MissingPieces :=
  let all := index.comparisons (.ofList names)
  let wanted := all.filter fun m =>
    !m.isComplete && m.missing.length ≤ maxMissing && minPresent ≤ m.present
  ⟨wanted.mergeSort ComboMatch.ranksBefore, all.length⟩

/-- The first combos, up to a limit, that list a card. -/
def findCombosForCard (index : ComboIndex) (name : String) (limit : Nat) : List Combo :=
  index.combosAt ((index.positionsOf name).take limit)

end ComboIndex

/-- A matcher: an index, which can be replaced, and settings. -/
structure ComboMatcher where
  /-- The current index. -/
  index : ComboIndex := .empty
  /-- The settings. -/
  config : ComboMatcherConfig := {}
  deriving Inhabited

namespace ComboMatcher

/-- The matcher with another index. -/
def swapIndex (matcher : ComboMatcher) (index : ComboIndex) : ComboMatcher :=
  { matcher with index }

/-- The matcher with the index of another corpus. -/
def reload (matcher : ComboMatcher) (corpus : ComboCorpus) : ComboMatcher :=
  matcher.swapIndex (.ofCorpus corpus)

end ComboMatcher

end Deckwright
