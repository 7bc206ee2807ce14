import Deckwright.Json.Problem

/-!
# Tokens of a JSON text

A JSON text is a row of tokens with blanks between them. A value that nobody asks for is passed
over and has to satisfy less than one that is read: half a surrogate pair or a number beyond
all bounds does no harm there. So a token carries two results, that of reading it and that of
passing over it. After a token that cannot even be passed over there are no more tokens.
-/

namespace Deckwright.Json

/-- The three words of JSON. -/
inductive Word where
  /-- The null value. -/
  | null
  /-- The true value. -/
  | true
  /-- The false value. -/
  | false
  deriving DecidableEq, Repr

/-- A token of a JSON text. -/
inductive Token where
  /-- A word. -/
  | word (reading : Except Problem Word)
  /-- A number, and the problem of passing over it. -/
  | number (reading : Except Problem Number) (passing : Option Problem)
  /-- A quoted text, and the problem of passing over it. -/
  | text (reading : Except Problem String) (passing : Option Problem)
  /-- Start of a list. -/
  | openList
  /-- End of a list. -/
  | closeList
  /-- Start of a map. -/
  | openMap
  /-- End of a map. -/
  | closeMap
  /-- A comma. -/
  | comma
  /-- A colon. -/
  | colon
  /-- A character that begins no token. -/
  | stray

/-- The four characters that may stand between tokens. -/
def isSpace (c : Char) : Bool := c = ' ' || c = '\n' || c = '\t' || c = '\r'

/-! ## Numbers -/

/-- The number of 64 bits that a binary64 number starts from is exclusive of this bound. -/
def wordBound : Nat := Nat.pow 2 64

/-- Greatest exponent that is reckoned with. -/
def exponentBound : Nat := Nat.pow 2 31 - 1

/-- Multiply by a power of ten, or divide by one, in binary64 arithmetic. Beyond the largest
power there is a quotient in steps, but no product. -/
def scaleByTen (x : Float) (exponent : Int) : Except Problem Float :=
  if 0 ≤ exponent then
    if 308 < exponent then
      if x == 0 then .ok x else .error .numberOutOfRange
    else
      let product := x * Float.ofScientific 1 false exponent.toNat
      if product.isInf then .error .numberOutOfRange else .ok product
  else
    let rec divide (steps : Nat) (x : Float) (power : Nat) : Float :=
      match steps with
      | 0 => x / Float.ofScientific 1 false power
      | steps + 1 =>
        if power ≤ 308 then x / Float.ofScientific 1 false power
        else if x == 0 then x
        else divide steps (x / 1e308) (power - 308)
    .ok (divide 4 x (-exponent).toNat)

/-- The digits of a number that fit into a word, the number of digits left over, and the rest
of the text. -/
def takeDigits (value : Nat) (left : Nat) : List Char → Nat × Nat × List Char
  | [] => (value, left, [])
  | c :: rest =>
    if c.isDigit then
      let more := value * 10 + (c.toNat - '0'.toNat)
      if left = 0 && more < wordBound then takeDigits more 0 rest
      else takeDigits value (left + 1) rest
    else (value, left, c :: rest)

/-- A number as far as it was read. -/
structure PartialNumber where
  /-- There is no minus sign. -/
  positive : Bool
  /-- The leading digits that fit into a word. -/
  significand : Nat
  /-- Power of ten that goes with them. -/
  exponent : Int

/-- The binary64 number. -/
def PartialNumber.toFloat (n : PartialNumber) : Except Problem Float := do
  let x ← scaleByTen n.significand.toUInt64.toFloat n.exponent
  return if n.positive then x else -x

/-- A number whose text breaks off: at the end of the text, reading misses a value. -/
def brokenNumber (rest : List Char) : Token × List Char :=
  (.number (.error (if rest.isEmpty then .endInValue else .badNumber)) (some .badNumber), [])

/-- Read an exponent after its letter. -/
def readExponent (n : PartialNumber) (text : List Char) : Token × List Char :=
  let (up, digits) := match text with
    | '+' :: rest => (true, rest)
    | '-' :: rest => (false, rest)
    | rest => (true, rest)
  let shown := digits.takeWhile Char.isDigit
  let rest := digits.drop shown.length
  if shown.isEmpty then brokenNumber rest
  else
    let power := shown.foldl (fun n c => n * 10 + (c.toNat - '0'.toNat)) 0
    let value : Except Problem Float :=
      if exponentBound < power then
        if up && n.significand != 0 then .error .numberOutOfRange
        else .ok (if n.positive then 0.0 else -0.0)
      else
        let exponent := if up then n.exponent + power else n.exponent - power
        { n with exponent := exponent }.toFloat
    (.number (value.map .real) none, rest)

/-- Read what may follow the digits of a number that is not an integer of 64 bits. -/
def readScale (n : PartialNumber) (text : List Char) : Token × List Char :=
  match text with
  | 'e' :: rest => readExponent n rest
  | 'E' :: rest => readExponent n rest
  | rest => (.number (n.toFloat.map .real) none, rest)

/-- Continue a fraction: digits count as long as the significand fits into a word. -/
def takeFraction (value places : Nat) : List Char → Nat × Nat
  | [] => (value, places)
  | c :: rest =>
    let more := value * 10 + (c.toNat - '0'.toNat)
    if more < wordBound then takeFraction more (places + 1) rest else (value, places)

/-- Read a fraction after its point. -/
def readFraction (n : PartialNumber) (text : List Char) : Token × List Char :=
  let shown := text.takeWhile Char.isDigit
  let rest := text.drop shown.length
  if shown.isEmpty then brokenNumber rest
  else
    let (value, places) := takeFraction n.significand 0 shown
    readScale { n with significand := value, exponent := n.exponent - places } rest

/-- An integer, which is one of 64 bits unless it is minus zero or too small. -/
def integerToken (positive : Bool) (value : Nat) : Token :=
  let number : Number :=
    if positive then .natural value
    else if value = 0 then .real (-0.0)
    else if value ≤ Nat.pow 2 63 then .negative value
    else .real (-value.toUInt64.toFloat)
  .number (.ok number) none

/-- Read a number after its sign. -/
def readNumber (positive : Bool) (text : List Char) : Token × List Char :=
  match text with
  | [] => brokenNumber []
  | c :: rest =>
    if !c.isDigit then brokenNumber (c :: rest)
    else if c = '0' && rest.head?.any Char.isDigit then brokenNumber rest
    else
      let (value, left, rest) := takeDigits 0 0 (c :: rest)
      match rest with
      | '.' :: rest => readFraction ⟨positive, value, left⟩ rest
      | 'e' :: rest => readExponent ⟨positive, value, left⟩ rest
      | 'E' :: rest => readExponent ⟨positive, value, left⟩ rest
      | rest =>
        if left = 0 then (integerToken positive value, rest)
        else (.number ((PartialNumber.toFloat ⟨positive, value, left⟩).map .real) none, rest)

/-! ## Quoted texts -/

/-- Value of a hexadecimal digit. -/
def hexValue? (c : Char) : Option Nat :=
  if '0' ≤ c ∧ c ≤ '9' then some (c.toNat - '0'.toNat)
  else if 'a' ≤ c ∧ c ≤ 'f' then some (c.toNat - 'a'.toNat + 10)
  else if 'A' ≤ c ∧ c ≤ 'F' then some (c.toNat - 'A'.toNat + 10)
  else none

/-- Read the four digits of an escape. Whether the text ends too early is a matter of bytes:
four are looked at before any of them. -/
def readHex (text : List Char) : Except Problem Nat :=
  let four := text.take 4
  match four.mapM hexValue? with
  | some [a, b, c, d] => .ok (((a * 16 + b) * 16 + c) * 16 + d)
  | _ =>
    if (four.map Char.utf8Size).foldr (· + ·) 0 < 4 then .error .endInText else .error .badEscape

/-- The number is the first half of a surrogate pair. -/
def isFirstHalf (n : Nat) : Bool := 0xD800 ≤ n && n < 0xDC00

/-- The number is the second half of a surrogate pair. -/
def isSecondHalf (n : Nat) : Bool := 0xDC00 ≤ n && n < 0xE000

/-- The character of a surrogate pair. -/
def joinHalves (first second : Nat) : Char :=
  Char.ofNat ((first - 0xD800) * 0x400 + (second - 0xDC00) + 0x10000)

/-- The character of a one-letter escape. -/
def shortEscape? (c : Char) : Option Char :=
  match c with
  | '"' => some '"'
  | '\\' => some '\\'
  | '/' => some '/'
  | 'b' => some '\x08'
  | 'f' => some '\x0C'
  | 'n' => some '\n'
  | 'r' => some '\r'
  | 't' => some '\t'
  | _ => none

/-- How far the reading of a quoted text has come: what was read, last character first, or the
first problem. -/
abbrev TextSoFar := Except Problem (List Char)

/-- Add a character to what was read. -/
def TextSoFar.push (t : TextSoFar) (c : Char) : TextSoFar := t.map (c :: ·)

/-- Note a problem, unless there was one before. -/
def TextSoFar.fail (t : TextSoFar) (p : Problem) : TextSoFar := t.bind fun _ => .error p

/-- A quoted text that cannot be passed over. -/
def brokenText (t : TextSoFar) (p : Problem) : Token × List Char :=
  (.text ((t.fail p).map fun _ => "") (some p), [])

/-- Read a quoted text after its opening mark. The first half of a surrogate pair waits in
`half?` for the second, which has to follow at once. -/
def readText (t : TextSoFar) (half? : Option Nat) (text : List Char) : Token × List Char :=
  match text with
  | [] => brokenText t .endInText
  | '\\' :: rest =>
    match rest with
    | [] => brokenText t .endInText
    | 'u' :: rest =>
      match readHex rest with
      | .error p => brokenText t p
      | .ok n =>
        let (t, half?) := match half? with
          | some first =>
            if isSecondHalf n then (t.push (joinHalves first n), none)
            else (t.fail .loneSurrogate, none)
          | none =>
            if isSecondHalf n then (t.fail .loneSurrogate, none)
            else if isFirstHalf n then (t, some n)
            else (t.push (Char.ofNat n), none)
        readText t half? (rest.drop 4)
    | c :: rest =>
      let t := if half?.isSome then t.fail .secondHalfExpected else t
      match shortEscape? c with
      | none => brokenText t .badEscape
      | some d => readText (t.push d) none rest
  | c :: rest =>
    let t := if half?.isSome then t.fail .secondHalfExpected else t
    if c = '"' then (.text (t.map fun cs => String.ofList cs.reverse) none, rest)
    else if c.toNat < 0x20 then brokenText t .controlInText
    else readText (t.push c) none rest
  termination_by text.length

/-! ## Texts -/

/-- Read the rest of a word. -/
def readWord (word : Word) : (expected : List Char) → List Char → Token × List Char
  | [], rest => (.word (.ok word), rest)
  | _ :: _, [] => (.word (.error .endInValue), [])
  | e :: expected, c :: rest =>
    if c = e then readWord word expected rest else (.word (.error .wordExpected), [])

/-- Read one token. -/
def readToken (c : Char) (rest : List Char) : Token × List Char :=
  match c with
  | '[' => (.openList, rest)
  | ']' => (.closeList, rest)
  | '{' => (.openMap, rest)
  | '}' => (.closeMap, rest)
  | ',' => (.comma, rest)
  | ':' => (.colon, rest)
  | '"' => readText (.ok []) none rest
  | 'n' => readWord .null ['u', 'l', 'l'] rest
  | 't' => readWord .true ['r', 'u', 'e'] rest
  | 'f' => readWord .false ['a', 'l', 's', 'e'] rest
  | '-' => readNumber false rest
  | c => if c.isDigit then readNumber true (c :: rest) else (.stray, [])

/-- The tokens of a text; `fuel` bounds their number. -/
def tokensWithin : (fuel : Nat) → List Char → List Token
  | 0, _ => []
  | fuel + 1, text =>
    match text.dropWhile isSpace with
    | [] => []
    | c :: rest =>
      let (token, rest) := readToken c rest
      token :: tokensWithin fuel rest

/-- The tokens of a text. -/
def tokens (text : List Char) : List Token := tokensWithin (text.length + 1) text

end Deckwright.Json
