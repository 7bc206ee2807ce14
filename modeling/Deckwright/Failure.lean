import Deckwright.Json.Problem

/-!
# Failures and files

All that can go wrong in a request: a card that does not exist, a card source that fails,
settings or rule tables that cannot be used, malformed combos, files that cannot be read. A
failure is a cause; its wording is a function of it. Only a missing card is a failure of the
engine itself, the others come from what it was given.

Of files there is what loading depends on: what a path leads to, which is nothing, a directory, or
bytes. The bytes of a file are a text when they are well-formed UTF-8.
-/

namespace Deckwright

/-- Why settings or rule tables cannot be used. -/
inductive SettingsCause where
  /-- A page of no cards. -/
  | emptyPage
  /-- No search at a time. -/
  | noSearches
  /-- A multiplier that is no number between zero and one. -/
  | multiplierRange
  /-- A weight that is no number between zero and one. -/
  | weightRange
  /-- The settings are no such JSON text. -/
  | settingsText (problem : Json.Problem)
  /-- The rule tables are no such JSON text. -/
  | rulesText (problem : Json.Problem)
  /-- A cause given in words. -/
  | reported (message : String)

/-- Why an input is malformed. -/
inductive ParseCause where
  /-- A character that stands for no color. -/
  | colorSymbol (symbol : Char) (text : String)
  /-- The list of combos is no such JSON text. -/
  | comboList (problem : Json.Problem)
  /-- A line is no JSON text of a combo. -/
  | comboLine (line : Nat) (problem : Json.Problem)
  /-- A cause given in words. -/
  | reported (message : String)

/-- Why a file cannot be read. -/
inductive FileCause where
  /-- There is no such file. -/
  | notFound
  /-- It is a directory. -/
  | directory
  /-- Its bytes are no text. -/
  | notText
  /-- A cause given in words. -/
  | reported (message : String)

/-- A failure of a request. -/
inductive Failure where
  /-- The card does not exist. -/
  | cardNotFound (name : String)
  /-- The card source failed. -/
  | source (message : String)
  /-- Settings or rule tables cannot be used. -/
  | settings (cause : SettingsCause)
  /-- An input is malformed. -/
  | parse (cause : ParseCause)
  /-- A file cannot be read. -/
  | file (cause : FileCause)
  /-- A JSON text holds no such value. -/
  | json (problem : Json.Problem)
  /-- Any other failure. -/
  | other (message : String)
  /-- A failure of something outside the engine. -/
  | external (message : String)

/-- Wording of why settings or rule tables cannot be used. -/
def SettingsCause.message : SettingsCause → String
  | .emptyPage => "page_size must be at least 1"
  | .noSearches => "max_concurrent_searches must be at least 1"
  | .multiplierRange => "fellow_tribal_multiplier must be within [0, 1]"
  | .weightRange => "color_bonus_weight must be within [0, 1]"
  | .settingsText problem => "Failed to parse configuration: " ++ problem.message
  | .rulesText problem => "Failed to parse synergy rules: " ++ problem.message
  | .reported message => message

/-- Wording of why an input is malformed. -/
def ParseCause.message : ParseCause → String
  | .colorSymbol symbol text =>
    "invalid color symbol '" ++ String.singleton symbol ++ "' in \"" ++ text ++ "\""
  | .comboList problem => "Failed to parse combo corpus: " ++ problem.message
  | .comboLine line problem =>
    "Failed to parse combo on line " ++ toString line ++ ": " ++ problem.message
  | .reported message => message

/-- Wording of why a file cannot be read. -/
def FileCause.message : FileCause → String
  | .notFound => "No such file or directory (os error 2)"
  | .directory => "Is a directory (os error 21)"
  | .notText => "stream did not contain valid UTF-8"
  | .reported message => message

namespace Failure

/-- The failure of a call with an argument that makes no sense. -/
def invalidArgument (message : String) : Failure := .other ("Invalid argument: " ++ message)

/-- The failure means that the requested card does not exist. -/
def isCardNotFound : Failure → Bool
  | .cardNotFound _ => true
  | _ => false

/-- The wording of a failure. -/
def message : Failure → String
  | .cardNotFound name => "Card not found: " ++ name
  | .source message => "Corpus error: " ++ message
  | .settings cause => "Configuration error: " ++ cause.message
  | .parse cause => "Parse error: " ++ cause.message
  | .file cause => "I/O error: " ++ cause.message
  | .json problem => "JSON error: " ++ problem.message
  | .other message => "Error: " ++ message
  | .external message => "Anyhow error: " ++ message

end Failure

/-! ## Files as texts -/

/-- What a path leads to. -/
inductive StoredFile where
  /-- Nothing. -/
  | missing
  /-- A directory. -/
  | directory
  /-- A file with these bytes. -/
  | bytes (content : ByteArray)
  deriving Inhabited

namespace StoredFile

/-- The bytes of a file. -/
def read : StoredFile → Except Failure ByteArray
  | .missing => .error (.file .notFound)
  | .directory => .error (.file .directory)
  | .bytes content => .ok content

/-- The text of some bytes. -/
def textOf (content : ByteArray) : Except Failure String :=
  match String.fromUTF8? content with
  | some text => .ok text
  | none => .error (.file .notText)

/-- The text of a file. -/
def readText (file : StoredFile) : Except Failure String := do textOf (← file.read)

/-- The extension of a file name: what follows its last full stop, unless that is its first
character. -/
def extension? (name : String) : Option (List Char) :=
  let tail := (name.toList.reverse.takeWhile (· != '.')).reverse
  if name.toList.length ≤ tail.length + 1 then none else some tail

end StoredFile

end Deckwright
