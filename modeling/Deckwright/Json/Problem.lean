import Deckwright.Json.Decimal

/-!
# What can be wrong with a JSON text

A text is read from left to right, and the first problem met is reported, be it one of syntax or
a value of the wrong kind. Every problem has one wording. It says what is wrong and not where: the
line and the column that were reached in the text are left to whoever shows the message.
-/

namespace Deckwright.Json

/-- A number in a JSON text. -/
inductive Number where
  /-- A natural number of 64 bits. -/
  | natural (n : Nat)
  /-- A negative integer of 64 bits, by its magnitude. -/
  | negative (magnitude : Nat)
  /-- Any other number. -/
  | real (x : Float)

/-- What was found where something else is wanted. -/
inductive Found where
  /-- A number. -/
  | number (n : Number)
  /-- A truth value. -/
  | boolean (b : Bool)
  /-- A text. -/
  | text (s : String)
  /-- The null value. -/
  | null
  /-- A list. -/
  | list
  /-- A map. -/
  | map

/-- A number as it is named in a message. -/
def Number.describe : Number → String
  | .natural n => "integer `" ++ toString n ++ "`"
  | .negative n => "integer `-" ++ toString n ++ "`"
  | .real x => "floating point `" ++ showFloat x ++ "`"

/-- What was found, as it is named in a message. -/
def Found.describe : Found → String
  | .number n => n.describe
  | .boolean true => "boolean `true`"
  | .boolean false => "boolean `false`"
  | .text s => "string \"" ++ s ++ "\""
  | .null => "null"
  | .list => "sequence"
  | .map => "map"

/-- A cause for which a JSON text is refused. -/
inductive Problem where
  /-- The text ends where a value is due. -/
  | endInValue
  /-- The text ends inside a map. -/
  | endInMap
  /-- The text ends inside a list. -/
  | endInList
  /-- The text ends inside a quoted text. -/
  | endInText
  /-- No colon after a key. -/
  | colonExpected
  /-- Neither a comma nor the end of the list after an item. -/
  | listEndExpected
  /-- Neither a comma nor the end of the map after an entry. -/
  | mapEndExpected
  /-- A word that is neither true, false nor null. -/
  | wordExpected
  /-- Something that begins no value. -/
  | valueExpected
  /-- An escape of an unknown kind. -/
  | badEscape
  /-- Digits that make no number. -/
  | badNumber
  /-- A number beyond every binary64 number. -/
  | numberOutOfRange
  /-- Half of a surrogate pair. -/
  | loneSurrogate
  /-- The first half of a surrogate pair with no second half after it. -/
  | secondHalfExpected
  /-- A control character inside a quoted text. -/
  | controlInText
  /-- A key that is no quoted text. -/
  | keyNotText
  /-- A comma before a closing mark. -/
  | trailingComma
  /-- More text after the value. -/
  | trailingText
  /-- A field of a record is missing. -/
  | missingField (name : String)
  /-- A field of a record is given twice. -/
  | duplicateField (name : String)
  /-- A name that is none of those allowed. -/
  | unknownName (name : String) (allowed : List String)
  /-- A value of the wrong kind. -/
  | wrongKind (found : Found) (wanted : String)
  /-- A number outside the range wanted. -/
  | wrongNumber (found : Number) (wanted : String)
  /-- A record given as a list with too few items. -/
  | wrongLength (length : Nat) (wanted : String)
  /-- A value that the domain refuses. -/
  | refused (reason : String)

/-- Names in backquotes, separated by commas. -/
def quotedNames : List String → String
  | [] => ""
  | [name] => "`" ++ name ++ "`"
  | name :: rest => "`" ++ name ++ "`, " ++ quotedNames rest

/-- The names allowed where another was given. -/
def allowedNames : List String → String
  | [] => "there are no variants"
  | [name] => "expected `" ++ name ++ "`"
  | [first, second] => "expected `" ++ first ++ "` or `" ++ second ++ "`"
  | names => "expected one of " ++ quotedNames names

/-- The wording of a problem, without the line and the column where it was met. -/
def Problem.message : Problem → String
  | .endInValue => "EOF while parsing a value"
  | .endInMap => "EOF while parsing an object"
  | .endInList => "EOF while parsing a list"
  | .endInText => "EOF while parsing a string"
  | .colonExpected => "expected `:`"
  | .listEndExpected => "expected `,` or `]`"
  | .mapEndExpected => "expected `,` or `\x7d`"
  | .wordExpected => "expected ident"
  | .valueExpected => "expected value"
  | .badEscape => "invalid escape"
  | .badNumber => "invalid number"
  | .numberOutOfRange => "number out of range"
  | .loneSurrogate => "lone leading surrogate in hex escape"
  | .secondHalfExpected => "unexpected end of hex escape"
  | .controlInText => "control character (\\u0000-\\u001F) found while parsing a string"
  | .keyNotText => "key must be a string"
  | .trailingComma => "trailing comma"
  | .trailingText => "trailing characters"
  | .missingField name => "missing field `" ++ name ++ "`"
  | .duplicateField name => "duplicate field `" ++ name ++ "`"
  | .unknownName name allowed => "unknown variant `" ++ name ++ "`, " ++ allowedNames allowed
  | .wrongKind found wanted => "invalid type: " ++ found.describe ++ ", expected " ++ wanted
  | .wrongNumber found wanted => "invalid value: " ++ found.describe ++ ", expected " ++ wanted
  | .wrongLength length wanted =>
    "invalid length " ++ toString length ++ ", expected " ++ wanted
  | .refused reason => reason

end Deckwright.Json
