/-!
# Writing JSON

Values are written without blanks between tokens. A character of a text is escaped only where it
has to be: quotation marks, backslashes and control characters.
-/

namespace Deckwright.Json

/-- A JSON value to be written. Numbers are natural ones. -/
inductive Value where
  /-- The null value. -/
  | null
  /-- A truth value. -/
  | boolean (b : Bool)
  /-- A natural number. -/
  | number (n : Nat)
  /-- A text. -/
  | text (s : String)
  /-- A list. -/
  | list (items : List Value)
  /-- A map, by its entries in order. -/
  | map (entries : List (String × Value))
  deriving Inhabited

namespace Value

/-- A list of texts. -/
def texts (items : List String) : Value := .list (items.map .text)

/-- A value that may be null. -/
def optional {α : Type} (write : α → Value) : Option α → Value
  | none => .null
  | some a => write a

end Value

/-- A digit of a number in base 16. -/
def hexDigit (n : Nat) : Char := Char.ofNat (if n < 10 then n + '0'.toNat else n - 10 + 'a'.toNat)

/-- A character as it is written inside a quoted text. -/
def writeChar (c : Char) : List Char :=
  if c = '"' then ['\\', '"']
  else if c = '\\' then ['\\', '\\']
  else if 0x20 ≤ c.toNat then [c]
  else if c = '\x08' then ['\\', 'b']
  else if c = '\x0C' then ['\\', 'f']
  else if c = '\n' then ['\\', 'n']
  else if c = '\r' then ['\\', 'r']
  else if c = '\t' then ['\\', 't']
  else ['\\', 'u', '0', '0', hexDigit (c.toNat / 16), hexDigit (c.toNat % 16)]

/-- A text between quotation marks. -/
def writeText (s : String) : List Char := '"' :: s.toList.flatMap writeChar ++ ['"']

mutual

/-- The text of a value. -/
def Value.write : Value → List Char
  | .null => ['n', 'u', 'l', 'l']
  | .boolean true => ['t', 'r', 'u', 'e']
  | .boolean false => ['f', 'a', 'l', 's', 'e']
  | .number n => Nat.toDigits 10 n
  | .text s => writeText s
  | .list [] => ['[', ']']
  | .list (item :: items) => '[' :: item.write ++ Value.writeItems items
  | .map [] => ['\x7b', '\x7d']
  | .map (entry :: entries) =>
    '\x7b' :: writeText entry.1 ++ ':' :: entry.2.write ++ Value.writeEntries entries

/-- The rest of a list after its first item. -/
def Value.writeItems : List Value → List Char
  | [] => [']']
  | item :: items => ',' :: item.write ++ Value.writeItems items

/-- The rest of a map after its first entry. -/
def Value.writeEntries : List (String × Value) → List Char
  | [] => ['\x7d']
  | entry :: entries =>
    ',' :: writeText entry.1 ++ ':' :: entry.2.write ++ Value.writeEntries entries

end

/-- The text of a value. -/
def Value.render (v : Value) : String := String.ofList v.write

end Deckwright.Json
