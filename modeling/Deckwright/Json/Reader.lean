import Deckwright.Json.Token

/-!
# Readers of JSON values

A reader takes the tokens not yet read and returns a value with the tokens after it, or the
first problem. Readers of records know the names of their fields; a field with another name is
passed over. Readers of choices know the names of their cases.
-/

namespace Deckwright.Json

/-- A reader of values from tokens. -/
abbrev Reader (α : Type) := List Token → Except Problem (α × List Token)

namespace Reader

variable {α β : Type}

/-- Apply a function to the value read. -/
def map (f : α → β) (read : Reader α) : Reader β := fun ts =>
  match read ts with
  | .ok (a, rest) => .ok (f a, rest)
  | .error p => .error p

/-- Apply a function that may refuse the value read. -/
def check (f : α → Except String β) (read : Reader α) : Reader β := fun ts =>
  match read ts with
  | .ok (a, rest) =>
    match f a with
    | .ok b => .ok (b, rest)
    | .error reason => .error (.refused reason)
  | .error p => .error p

end Reader

/-- What a token begins, for a message that something else is wanted. -/
def Token.found : Token → Except Problem Found
  | .word reading => reading.map fun
    | .null => .null
    | .true => .boolean true
    | .false => .boolean false
  | .number reading _ => reading.map .number
  | .text reading _ => reading.map .text
  | .openList => .ok .list
  | .openMap => .ok .map
  | _ => .error .valueExpected

/-- The problem of a token where a value of another kind is wanted. -/
def Token.unwanted (t : Token) (wanted : String) : Problem :=
  match t.found with
  | .ok found => .wrongKind found wanted
  | .error p => p

/-! ## Passing over values -/

/-- The lists and maps around a place, innermost first. -/
inductive Frame where
  /-- Inside a list. -/
  | list
  /-- Inside a map. -/
  | map

/-- What is due next while a value is passed over. -/
inductive Due where
  /-- A value. -/
  | value
  /-- The first item of a list, or its end. -/
  | firstItem
  /-- The first key of a map, or its end. -/
  | firstKey
  /-- A key of a map. -/
  | key
  /-- The colon after a key. -/
  | colon
  /-- A comma, or the end of the innermost list or map. -/
  | separator

/-- Pass over what is left of a value. -/
def passOver : Due → List Frame → List Token → Except Problem (List Token)
  | .value, _, [] => .error .endInValue
  | .firstItem, _, [] => .error .endInList
  | .firstKey, _, [] => .error .endInMap
  | .key, _, [] => .error .endInMap
  | .colon, _, [] => .error .endInMap
  | .separator, .map :: _, [] => .error .endInMap
  | .separator, _, [] => .error .endInList
  | due, frames, t :: rest =>
    let finish (problem : Option Problem) (frames : List Frame) :=
      match problem with
      | some p => .error p
      | none => if frames.isEmpty then .ok rest else passOver .separator frames rest
    match due, t with
    | .firstItem, .closeList => finish none frames.tail
    | .firstKey, .closeMap => finish none frames.tail
    | .firstKey, .text _ passing | .key, .text _ passing =>
      match passing with
      | some p => .error p
      | none => passOver .colon frames rest
    | .firstKey, _ | .key, _ => .error .keyNotText
    | .colon, .colon => passOver .value frames rest
    | .colon, _ => .error .colonExpected
    | .separator, _ =>
      match frames, t with
      | .list :: _, .comma => passOver .value frames rest
      | .map :: _, .comma => passOver .key frames rest
      | .list :: outer, .closeList => finish none outer
      | .map :: outer, .closeMap => finish none outer
      | .map :: _, _ => .error .mapEndExpected
      | _, _ => .error .listEndExpected
    | .value, _ | .firstItem, _ =>
      match t with
      | .word reading => finish (match reading with | .ok _ => none | .error p => some p) frames
      | .number _ passing => finish passing frames
      | .text _ passing => finish passing frames
      | .openList => passOver .firstItem (.list :: frames) rest
      | .openMap => passOver .firstKey (.map :: frames) rest
      | _ => .error .valueExpected

/-- Pass over one value. -/
def skipValue : Reader Unit := fun ts => (passOver .value [] ts).map fun rest => ((), rest)

/-! ## Simple values -/

/-- Read a text. -/
def readString : Reader String
  | [] => .error .endInValue
  | .text reading _ :: rest => reading.map fun s => (s, rest)
  | t :: _ => .error (t.unwanted "a string")

/-- Read a number of things, which is a natural number of 64 bits. -/
def readCount : Reader Nat
  | [] => .error .endInValue
  | .number reading _ :: rest =>
    match reading with
    | .error p => .error p
    | .ok (.natural n) => .ok (n, rest)
    | .ok (.negative n) => .error (.wrongNumber (.negative n) "usize")
    | .ok (.real x) => .error (.wrongKind (.number (.real x)) "usize")
  | t :: _ => .error (t.unwanted "usize")

/-- The binary32 number nearest to a number. -/
def Number.toFloat32 : Number → Float32
  | .natural n => n.toUInt64.toFloat32
  | .negative n => -n.toUInt64.toFloat32
  | .real x => x.toFloat32

/-- Read a binary32 number. -/
def readFloat32 : Reader Float32
  | [] => .error .endInValue
  | .number reading _ :: rest => reading.map fun n => (n.toFloat32, rest)
  | t :: _ => .error (t.unwanted "f32")

/-- Read a value that may be null. -/
def readOptional {α : Type} (read : Reader α) : Reader (Option α)
  | .word (.ok .null) :: rest => .ok (none, rest)
  | ts => read.map some ts

/-! ## Lists and maps -/

/-- Read the items of a list up to its end. A comma is due before each but the first, and `fuel`
bounds their number. -/
def readItems {α : Type} (read : Reader α) :
    (fuel : Nat) → (first : Bool) → List Token → Except Problem (List α × List Token)
  | 0, _, _ => .error .endInList
  | fuel + 1, first, ts =>
    let item (ts : List Token) : Except Problem (List α × List Token) :=
      match read ts with
      | .error p => .error p
      | .ok (a, rest) =>
        match readItems read fuel false rest with
        | .error p => .error p
        | .ok (as, rest) => .ok (a :: as, rest)
    match ts with
    | [] => .error .endInList
    | .closeList :: rest => .ok ([], rest)
    | t :: rest =>
      if first then item (t :: rest)
      else
        match t, rest with
        | .comma, [] => .error .endInValue
        | .comma, .closeList :: _ => .error .trailingComma
        | .comma, rest => item rest
        | _, _ => .error .listEndExpected

/-- Read a list. -/
def readList {α : Type} (read : Reader α) : Reader (List α)
  | [] => .error .endInValue
  | .openList :: rest => readItems read (rest.length + 1) true rest
  | t :: _ => .error (t.unwanted "a sequence")

/-- What comes next in a map. -/
inductive NextKey where
  /-- The end of the map. -/
  | done
  /-- A key. -/
  | key (name : String)

/-- Read the next key of a map and its colon, or the end of the map. -/
def readKey (first : Bool) : Reader NextKey := fun ts =>
  let key (t : Token) (rest : List Token) : Except Problem (NextKey × List Token) :=
    match t with
    | .text reading _ => reading.map fun s => (.key s, rest)
    | _ => .error .keyNotText
  match ts with
  | [] => .error .endInMap
  | .closeMap :: rest => .ok (.done, rest)
  | t :: rest =>
    if first then key t rest
    else
      match t, rest with
      | .comma, [] => .error .endInValue
      | .comma, .closeMap :: _ => .error .trailingComma
      | .comma, t :: rest => key t rest
      | _, _ => .error .mapEndExpected

/-- Read the colon after a key. -/
def readColon : Reader Unit
  | [] => .error .endInMap
  | .colon :: rest => .ok ((), rest)
  | _ :: _ => .error .colonExpected

/-- Read the entries of a map up to its end; `fuel` bounds their number. -/
def readEntries {α : Type} (read : Reader α) :
    (fuel : Nat) → (first : Bool) → List Token →
      Except Problem (List (String × α) × List Token)
  | 0, _, _ => .error .endInMap
  | fuel + 1, first, ts =>
    match readKey first ts with
    | .error p => .error p
    | .ok (.done, rest) => .ok ([], rest)
    | .ok (.key name, rest) =>
      match readColon rest with
      | .error p => .error p
      | .ok (_, rest) =>
        match read rest with
        | .error p => .error p
        | .ok (a, rest) =>
          match readEntries read fuel false rest with
          | .error p => .error p
          | .ok (entries, rest) => .ok ((name, a) :: entries, rest)

/-- Read a map as its entries in the order of the text. -/
def readMap {α : Type} (read : Reader α) : Reader (List (String × α))
  | [] => .error .endInValue
  | .openMap :: rest => readEntries read (rest.length + 1) true rest
  | t :: _ => .error (t.unwanted "a map")

/-! ## Choices -/

/-- The case of the given name. -/
def caseNamed {α : Type} (cases : List (String × α)) (name : String) : Except Problem α :=
  match cases.lookup name with
  | some a => .ok a
  | none => .error (.unknownName name (cases.map (·.1)))

/-- Read one of several named cases: its name, or a map from its name to null. -/
def readCase {α : Type} (cases : List (String × α)) : Reader α
  | [] => .error .endInValue
  | .text reading _ :: rest => do
    let name ← reading
    return (← caseNamed cases name, rest)
  | .openMap :: rest =>
    match rest with
    | [] => .error .endInValue
    | .text reading _ :: rest => do
      let name ← reading
      let a ← caseNamed cases name
      let (_, rest) ← readColon rest
      match rest with
      | [] => .error .endInValue
      | .word (.ok .null) :: rest =>
        match rest with
        | [] => .error .endInMap
        | .closeMap :: rest => .ok (a, rest)
        | _ => .error .valueExpected
      | t :: _ => .error (t.unwanted "unit")
    | t :: _ => .error (t.unwanted "variant identifier")
  | _ => .error .valueExpected

/-! ## Records -/

/-- What it means that a field is not given. -/
inductive Absence where
  /-- The record is refused. -/
  | refused
  /-- The field is empty if the record is a map; in a list it is still due. -/
  | empty
  /-- The field has a default value. -/
  | default
  deriving DecidableEq

/-- A field of a record: its name, what its absence means, and how to read and set it. -/
structure Field (α : Type) where
  /-- Name of the field. -/
  name : String
  /-- What its absence means. -/
  absence : Absence
  /-- Read the value and set the field. -/
  read : Reader (α → α)

/-- A field from a reader of its value and a way to set it. -/
def Field.of {α β : Type} (name : String) (absence : Absence) (read : Reader β)
    (set : β → α → α) : Field α :=
  ⟨name, absence, read.map set⟩

/-- The record when every field was given that has to be. -/
def requireFields {α : Type} (given : List String) (a : α) : List (Field α) → Except Problem α
  | [] => .ok a
  | field :: fields =>
    if field.absence = .refused && !given.contains field.name then
      .error (.missingField field.name)
    else requireFields given a fields

/-- Read the fields of a record given as a map; `fuel` bounds their number. -/
def readFields {α : Type} (fields : List (Field α)) :
    (fuel : Nat) → (first : Bool) → (given : List String) → α → List Token →
      Except Problem (α × List Token)
  | 0, _, _, _, _ => .error .endInMap
  | fuel + 1, first, given, a, ts =>
    match readKey first ts with
    | .error p => .error p
    | .ok (.done, rest) =>
      match requireFields given a fields with
      | .error p => .error p
      | .ok a => .ok (a, rest)
    | .ok (.key name, rest) =>
      match fields.find? fun field => field.name == name with
      | none =>
        match readColon rest with
        | .error p => .error p
        | .ok (_, rest) =>
          match skipValue rest with
          | .error p => .error p
          | .ok (_, rest) => readFields fields fuel false given a rest
      | some field =>
        if given.contains name then .error (.duplicateField name)
        else
          match readColon rest with
          | .error p => .error p
          | .ok (_, rest) =>
            match field.read rest with
            | .error p => .error p
            | .ok (set, rest) => readFields fields fuel false (name :: given) (set a) rest

/-- The end of a list that stands for a record and has no more fields. -/
def readRecordEnd : Reader Unit
  | [] => .error .endInList
  | .closeList :: rest => .ok ((), rest)
  | .comma :: .closeList :: _ => .error .trailingComma
  | _ :: _ => .error .trailingText

/-- The problem of a field that is due in a list of the given length, if there is one. -/
def requireItem {α : Type} (field : Field α) (length : Nat) (wanted : String) :
    Except Problem Unit :=
  if field.absence = .default then .ok () else .error (.wrongLength length wanted)

/-- Read the fields of a record given as a list. -/
def readPositions {α : Type} (wanted : String) :
    List (Field α) → (position : Nat) → α → List Token → Except Problem (α × List Token)
  | [], _, a, ts => (readRecordEnd ts).map fun (_, rest) => (a, rest)
  | field :: fields, position, a, ts =>
    let item (ts : List Token) : Except Problem (α × List Token) :=
      match field.read ts with
      | .error p => .error p
      | .ok (set, rest) => readPositions wanted fields (position + 1) (set a) rest
    match ts with
    | [] => .error .endInList
    | .closeList :: rest =>
      match requireItem field position wanted with
      | .error p => .error p
      | .ok _ => readPositions wanted fields (position + 1) a (.closeList :: rest)
    | t :: rest =>
      if position = 0 then item (t :: rest)
      else
        match t, rest with
        | .comma, [] => .error .endInValue
        | .comma, .closeList :: _ => .error .trailingComma
        | .comma, rest => item rest
        | _, _ => .error .listEndExpected

/-- Read a record, given as a map or as a list of its fields in order. -/
def readRecord {α : Type} (typeName : String) (fields : List (Field α)) (blank : α) : Reader α
  | [] => .error .endInValue
  | .openMap :: rest => readFields fields (rest.length + 1) true [] blank rest
  | .openList :: rest =>
    let elements := if fields.length = 1 then " element" else " elements"
    let wanted := "struct " ++ typeName ++ " with " ++ toString fields.length ++ elements
    readPositions wanted fields 0 blank rest
  | t :: _ => .error (t.unwanted ("struct " ++ typeName))

/-! ## Whole texts -/

/-- Read a text that holds one value and nothing else. -/
def readWhole {α : Type} (read : Reader α) (text : String) : Except Problem α :=
  match read (tokens text.toList) with
  | .error p => .error p
  | .ok (a, []) => .ok a
  | .ok (_, _ :: _) => .error .trailingText

end Deckwright.Json
