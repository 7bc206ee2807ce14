import Deckwright.Text.Basic

/-!
# Type lines

A type line has the types of a card on its left and the subtypes on its right. The sides are
separated by the first long dash, or where there is none by the first hyphen between spaces.
Supertypes do not count as types.
-/

namespace Deckwright.TypeLine

open Unicode

/-- Words on the left side that are no types, in lower case. -/
def supertypes : List String := ["legendary", "basic", "snow", "world", "ongoing"]

/-- The word is a supertype, in any case. -/
def isSupertype (word : String) : Bool := supertypes.contains (lowercase word)

/-- What stands before and after the first place where a separator stands; `before` holds,
reversed, what was passed already. -/
def cutFrom (separator before : List Char) : List Char → Option (List Char × List Char)
  | [] => if separator.isEmpty then some (before.reverse, []) else none
  | c :: rest =>
    if separator.isPrefixOf (c :: rest) then
      some (before.reverse, (c :: rest).drop separator.length)
    else cutFrom separator (c :: before) rest

/-- Cutting takes out the separator and nothing else. -/
theorem eq_append_of_cutFrom {separator before text left right : List Char}
    (found : cutFrom separator before text = some (left, right)) :
    before.reverse ++ text = left ++ separator ++ right := by
  induction text generalizing before with
  | nil =>
    simp only [cutFrom] at found
    split at found
    · rename_i blank
      simp only [Option.some.injEq, Prod.mk.injEq] at found
      simp [← found.1, ← found.2, List.isEmpty_iff.1 blank]
    · simp at found
  | cons c rest ih =>
    simp only [cutFrom] at found
    split at found
    · rename_i here
      obtain ⟨after, equal⟩ := List.isPrefixOf_iff_prefix.1 here
      simp only [Option.some.injEq, Prod.mk.injEq] at found
      rw [← found.1, ← found.2, ← equal, List.drop_left, List.append_assoc]
    · rw [← ih found, List.reverse_cons, List.append_assoc]
      rfl

/-- Nothing is cut exactly when the separator stands nowhere. -/
theorem cutFrom_eq_none_iff (separator before text : List Char) :
    cutFrom separator before text = none ↔ Text.occursIn separator text = false := by
  induction text generalizing before with
  | nil => cases separator <;> simp [cutFrom, Text.occursIn]
  | cons c rest ih =>
    simp only [cutFrom, Text.occursIn]
    split
    · rename_i here
      simp [here]
    · rename_i elsewhere
      rw [ih, Bool.eq_false_iff.2 elsewhere, Bool.false_or]

/-- What stands before and after the first place where a separator stands. -/
def cut (separator text : List Char) : Option (List Char × List Char) := cutFrom separator [] text

/-- The two sides of a type line; the right one may be missing. -/
def sides (line : List Char) : List Char × List Char :=
  match cut ['—'] line with
  | some parts => parts
  | none =>
    match cut [' ', '-', ' '] line with
    | some parts => parts
    | none => (line, [])

/-- The words of a text. -/
def wordsOf (text : List Char) : List String := (words text).map String.ofList

/-- The types and the subtypes on a type line. -/
def split (line : String) : List String × List String :=
  let (left, right) := sides line.toList
  ((wordsOf left).filter fun word => !isSupertype word, wordsOf right)

end Deckwright.TypeLine
