import Deckwright.Unicode.AgeTable
import Deckwright.Unicode.CasingTable
import Deckwright.Unicode.CategoryTable
import Deckwright.Unicode.GraphemeBreakTable
import Deckwright.Unicode.PropertyTable
import Deckwright.Unicode.ScriptExtensionTable
import Deckwright.Unicode.ScriptTable
import Deckwright.Unicode.SentenceBreakTable
import Deckwright.Unicode.WordBreakTable
import Deckwright.Unicode.WordTable

/-!
# Looking up character properties by name

A property is named loosely: case, spaces, hyphens, underscores and a leading "is" do not
count, and characters outside ASCII are passed over. A bare name means a binary property, a
general category or a script, in that order; a name with a value means the characters for which
the property has that value.
-/

namespace Deckwright.Unicode

/-- The characters of a name that count, in lower case. -/
def looseLetters (name : List Char) : List Char :=
  (name.filter fun c => c.toNat ≤ 0x7F && c != ' ' && c != '_' && c != '-').map Char.toLower

/-- The form in which names of properties and of their values are compared. The name "isc"
keeps its first two letters, because what is left would be the name of a category. -/
def looseName (name : List Char) : String :=
  let bare := match name with
    | i :: s :: rest =>
      if i.toLower = 'i' && s.toLower = 's' then
        let letters := looseLetters rest
        if letters = ['c'] then ['i', 's', 'c'] else letters
      else looseLetters name
    | _ => looseLetters name
  String.ofList bare

/-- Unions of general categories that have names of their own. -/
def categoryGroups : List (List String × List String) := [
  (["c", "other"], ["cc", "cf", "cn", "co"]),
  (["l", "letter"], ["ll", "lm", "lo", "lt", "lu"]),
  (["lc", "casedletter"], ["ll", "lt", "lu"]),
  (["m", "mark", "combiningmark"], ["mc", "me", "mn"]),
  (["n", "number"], ["nd", "nl", "no"]),
  (["p", "punctuation", "punct"], ["pc", "pd", "pe", "pf", "pi", "po", "ps"]),
  (["s", "symbol"], ["sc", "sk", "sm", "so"]),
  (["z", "separator"], ["zl", "zp", "zs"])]

/-- The characters of a general category, a union of categories, or all, the assigned or the
ASCII characters. -/
def category? (name : String) : Option CharSet :=
  if name = "any" then some .full
  else if name = "ascii" then some (.range 0 0x7F)
  else if name = "assigned" then (NamedSet.find? "cn" categories).map CharSet.complement
  else match categoryGroups.find? fun g => g.1.contains name with
    | some group => some (NamedSet.gather group.2 categories)
    | none => NamedSet.find? name categories

/-- The characters of a script. -/
def script? (name : String) : Option CharSet := NamedSet.find? name scripts

/-- The characters used with a script. -/
def scriptExtension? (name : String) : Option CharSet :=
  NamedSet.find? name scriptExtensions <|> script? name

/-- The characters of a binary property. -/
def binaryProperty? (name : String) : Option CharSet :=
  NamedSet.find? name
    (⟨["cased"], casedRuns⟩ :: ⟨["caseignorable", "ci"], caseIgnorableRuns⟩ :: binaryProperties)

/-- The characters assigned in the given edition or an earlier one. -/
def age? (name : String) : Option CharSet :=
  let earlier := ages.takeWhile fun s => !s.names.contains name
  match ages.drop earlier.length with
  | [] => none
  | edition :: _ => some (.unions ((earlier ++ [edition]).map NamedSet.members))

/-- The characters meant by a bare property name. -/
def propertySet? (name : List Char) : Option CharSet :=
  let key := looseName name
  binaryProperty? key <|> category? key <|> script? key

/-- The characters for which a property has a value. -/
def propertyValueSet? (name value : List Char) : Option CharSet :=
  let key := looseName value
  match looseName name with
  | "gc" | "generalcategory" => category? key
  | "sc" | "script" => script? key
  | "scx" | "scriptextensions" => scriptExtension? key
  | "age" => age? key
  | "gcb" | "graphemeclusterbreak" => NamedSet.find? key graphemeBreaks
  | "wb" | "wordbreak" => NamedSet.find? key wordBreaks
  | "sb" | "sentencebreak" => NamedSet.find? key sentenceBreaks
  | _ => none

/-- Decimal digits. -/
def decimalDigits : CharSet := NamedSet.gather ["nd"] categories

/-- Word characters: letters, marks, decimal digits, connectors and join controls. -/
def wordCharacters : CharSet := .ofRunList wordRuns

/-- Characters that attach to the one before them. -/
def graphemeExtenders : CharSet := NamedSet.gather ["graphemeextend"] binaryProperties

/-- Characters with the Alphabetic property. -/
def alphabetic : CharSet := NamedSet.gather ["alphabetic"] binaryProperties

/-- Characters of the three categories of numbers. -/
def numeric : CharSet := NamedSet.gather ["nd", "nl", "no"] categories

/-- Characters without a glyph of their own: controls, formats, unassigned and private
characters and all separators but the space. -/
def unprintable : CharSet :=
  (NamedSet.gather ["cc", "cf", "cn", "co", "zl", "zp", "zs"] categories).difference
    (.singleton 0x20)

end Deckwright.Unicode
