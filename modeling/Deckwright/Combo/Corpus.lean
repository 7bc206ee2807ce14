import Deckwright.Combo.Basic
import Deckwright.Failure
import Deckwright.Text.Basic

/-!
# Combo corpora

A corpus is a list of combos to search. It is read from one JSON list or from lines with one
combo each; combos without an identifier or without cards are left out.
-/

namespace Deckwright

/-- A list of combos fit for searching. -/
structure ComboCorpus where
  /-- The combos in order. -/
  combos : List Combo
  deriving DecidableEq, Repr, Inhabited

namespace ComboCorpus

/-- The combo has an identifier that is not blank, and cards. -/
def isUsable (combo : Combo) : Bool :=
  !(Unicode.trimBlanks combo.id.toList).isEmpty && !combo.cards.isEmpty

/-- The corpus of a list of combos: their cards are listed once, and unusable ones are left
out. -/
def ofList (combos : List Combo) : ComboCorpus :=
  ⟨(combos.map Combo.distinctCards).filter isUsable⟩

/-- Number of combos. -/
def size (corpus : ComboCorpus) : Nat := corpus.combos.length

/-- Read a corpus from a JSON list. -/
def ofJson (text : String) : Except Failure ComboCorpus :=
  match Json.readWhole (Json.readList Combo.read) text with
  | .ok combos => .ok (ofList combos)
  | .error problem => .error (.parse (.comboList problem))

/-- The lines of some bytes, without the marks that end them: a line feed, or a carriage return
and a line feed. What follows the last mark is a line unless it is empty. -/
def linesFrom (line : List UInt8) : List UInt8 → List (List UInt8)
  | [] => if line.isEmpty then [] else [line.reverse]
  | b :: rest =>
    if b = 10 then
      (match line with
        | 13 :: line => line.reverse
        | line => line.reverse) :: linesFrom [] rest
    else linesFrom (b :: line) rest

/-- Read the combo of each line that is not blank. `number` is the number of the first line. -/
def readLines (number : Nat) : List (List UInt8) → Except Failure (List Combo)
  | [] => .ok []
  | line :: rest => do
    let text ← StoredFile.textOf ⟨line.toArray⟩
    let trimmed := Unicode.trimBlanks text.toList
    if trimmed.isEmpty then readLines (number + 1) rest
    else
      match Json.readWhole Combo.read (String.ofList trimmed) with
      | .error problem => .error (.parse (.comboLine number problem))
      | .ok combo => return combo :: (← readLines (number + 1) rest)

/-- Read a corpus from lines. -/
def ofLines (content : ByteArray) : Except Failure ComboCorpus := do
  return ofList (← readLines 1 (linesFrom [] content.toList))

/-- Read a corpus from a file: from lines if its name ends in the extension for them, in any
case, and else from a JSON list. -/
def ofFile (name : String) (file : StoredFile) : Except Failure ComboCorpus :=
  match StoredFile.extension? name with
  | some extension =>
    if Text.equalIgnoringCase (String.ofList extension) "jsonl" then do ofLines (← file.read)
    else do ofJson (← file.readText)
  | none => do ofJson (← file.readText)

end ComboCorpus

end Deckwright
