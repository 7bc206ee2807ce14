import Deckwright.Unicode.Blank
import Deckwright.Unicode.Case
import Deckwright.Unicode.Property

/-!
# Texts

How texts are compared, searched and shown. Names are the same when their normal forms are: blanks
at both ends do not count, nor does case. A few comparisons disregard the case of ASCII letters and
of no others. A text occurs in another when the other can be cut into something before it, the text
itself and something after it (`occursIn_iff`). A text is shown between quotation marks, on one
line, and so that every character can be seen.
-/

namespace Deckwright

open Unicode

/-! ## Comparing texts -/

/-- The text in lower case. -/
def lowercase (text : String) : String := String.ofList (lower text.toList)

/-- The normal form of a name: of a card, or of a keyword or type that rule tables list. -/
def normalizeName (name : String) : String := String.ofList (lower (trimBlanks name.toList))

namespace Text

/-- Two texts are equal but for the case of ASCII letters. -/
def equalIgnoringCase (a b : String) : Bool :=
  a.toList.map Char.toLower == b.toList.map Char.toLower

/-! ## Searching texts -/

/-- The first text stands somewhere in the second. -/
def occursIn (part : List Char) : List Char → Bool
  | [] => part.isEmpty
  | c :: rest => part.isPrefixOf (c :: rest) || occursIn part rest

/-- A text occurs in another when the other is that text with something before it and something
after it. -/
theorem occursIn_iff (part text : List Char) :
    occursIn part text = true ↔ ∃ before after, text = before ++ part ++ after := by
  induction text with
  | nil =>
    simp only [occursIn, List.isEmpty_iff]
    constructor
    · rintro rfl
      exact ⟨[], [], rfl⟩
    · rintro ⟨before, after, h⟩
      simp_all
  | cons c rest ih =>
    simp only [occursIn, Bool.or_eq_true, ih, List.isPrefixOf_iff_prefix]
    constructor
    · rintro (⟨after, h⟩ | ⟨before, after, h⟩)
      · exact ⟨[], after, h.symm⟩
      · exact ⟨c :: before, after, by rw [h]; rfl⟩
    · rintro ⟨before, after, h⟩
      cases before with
      | nil => exact Or.inl ⟨after, h.symm⟩
      | cons d before =>
        simp only [List.cons_append, List.cons.injEq] at h
        exact Or.inr ⟨before, after, h.2⟩

/-! ## Showing texts

Quotation marks, backslashes and the common control characters have short escapes, and a character
without a glyph of its own is shown by its number.
-/

/-- The escape of a character by its number. -/
def numberEscape (c : Char) : List Char :=
  ['\\', 'u', '\x7b'] ++ Nat.toDigits 16 c.toNat ++ ['\x7d']

/-- How a character is shown inside quotation marks. -/
def showChar (c : Char) : List Char :=
  if c = '\x00' then ['\\', '0']
  else if c = '\t' then ['\\', 't']
  else if c = '\r' then ['\\', 'r']
  else if c = '\n' then ['\\', 'n']
  else if c = '"' then ['\\', '"']
  else if c = '\\' then ['\\', '\\']
  else if c.toNat < 0x7F && 0x20 ≤ c.toNat then [c]
  else if graphemeExtenders.contains c.toNat || unprintable.contains c.toNat then numberEscape c
  else [c]

/-- The text between quotation marks. -/
def quote (text : String) : String :=
  String.ofList ('"' :: text.toList.flatMap showChar ++ ['"'])

end Text

end Deckwright
