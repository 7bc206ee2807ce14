import Deckwright.Proofs.Card.Color
import Deckwright.Proofs.Combo.Lines

/-!
# Reading back combos

A list of combos is written as one JSON list, or with the combos on lines of their own. Either text
is read back as the combos that were written, and so both give the corpus of the list.
-/

namespace Deckwright

open Json

/-! ## Maps on lines -/

namespace Json.Value

/-- A map with entries ends with its closing mark. -/
theorem getLast?_writeEntries (entries : List (String × Value)) :
    (writeEntries entries).getLast? = some '\x7d' := by
  induction entries with
  | nil => rfl
  | cons entry entries ih => rw [writeEntries, List.getLast?_append, ih, Option.some_or]

/-- There are no blanks around a written map. -/
theorem trimBlanks_write_map (entry : String × Value) (entries : List (String × Value)) :
    Unicode.trimBlanks (map (entry :: entries)).write = (map (entry :: entries)).write := by
  have opened : Unicode.isBlank '\x7b' = false := by decide
  have closed : Unicode.isBlank '\x7d' = false := by decide
  have first : (map (entry :: entries)).write.head? = some '\x7b' := rfl
  have last : (map (entry :: entries)).write.getLast? = some '\x7d' := by
    rw [write, List.getLast?_append, getLast?_writeEntries, Option.some_or]
  rw [Unicode.trimBlanks, Unicode.trimStart_eq_self, Unicode.trimEnd_eq_self]
  · intro c ends
    rw [last] at ends
    rwa [← Option.some.inj ends]
  · intro c starts
    rw [first] at starts
    rwa [← Option.some.inj starts]

end Json.Value

/-! ## One combo -/

namespace Combo

/-- The fields of a combo as they are written. -/
def written (combo : Combo) : List (WrittenField Combo) := [
  .of "id" .refused (readString_readsBack combo.id) fun v combo => { combo with id := v },
  .of "cards" .refused (readTexts_readsBack combo.cards) fun v combo => { combo with cards := v },
  .of "description" .default (readString_readsBack combo.description) fun v combo =>
    { combo with description := v },
  .of "color_identity" .default combo.colorIdentity.read_readsBack fun v combo =>
    { combo with colorIdentity := v },
  .of "effects" .default (readTexts_readsBack combo.effects) fun v combo =>
    { combo with effects := v }]

/-- A combo is read back. -/
theorem read_readsBack (combo : Combo) : read.ReadsBack combo.toJson combo := by
  have names : combo.written.map WrittenField.name =
      ["id", "cards", "description", "color_identity", "effects"] := rfl
  exact readRecord_readsBack_of_names "Combo" names (by decide) { id := "", cards := [] }

/-- A combo has no number. -/
theorem wordSized_toJson (combo : Combo) : combo.toJson.WordSized :=
  .entry (.text _) <| .entry (Value.wordSized_texts _) <| .entry (.text _) <| .entry (.text _) <|
    .entry (Value.wordSized_texts _) .noEntry

/-- The text of a combo is read back. -/
theorem readWhole_render (combo : Combo) : readWhole read combo.toJson.render = .ok combo :=
  combo.read_readsBack.readWhole_render combo.wordSized_toJson

/-- The text of a combo has no control characters. -/
theorem shown_render (combo : Combo) : ∀ c ∈ combo.toJson.render.toList, 0x20 ≤ c.toNat := by
  rw [Value.render, String.toList_ofList]
  exact combo.toJson.shown_write

/-- There are no blanks around the text of a combo. -/
theorem trimBlanks_render (combo : Combo) :
    Unicode.trimBlanks combo.toJson.render.toList = combo.toJson.render.toList := by
  rw [Value.render, String.toList_ofList]
  exact Value.trimBlanks_write_map _ _

/-- The text of a combo is not empty. -/
theorem render_ne_nil (combo : Combo) : combo.toJson.render.toList ≠ [] := by
  rw [Value.render, String.toList_ofList]
  exact List.cons_ne_nil _ _

end Combo

/-! ## Lists of combos -/

namespace ComboCorpus

/-- A list of combos is read back from a JSON list. -/
theorem ofJson_render (combos : List Combo) :
    ofJson (Value.list (combos.map Combo.toJson)).render = .ok (ofList combos) := by
  have sized : (Value.list (combos.map Combo.toJson)).WordSized :=
    Value.wordSized_list_map fun combo _ => combo.wordSized_toJson
  have back : Reader.ReadsBack (readList Combo.read) (.list (combos.map Combo.toJson)) combos :=
    readList_readsBack fun combo _ => combo.read_readsBack
  rw [ofJson, back.readWhole_render sized]

/-- Combos are read back from lines that are their texts. -/
theorem readLines_renders (combos : List Combo) (number : Nat) :
    readLines number (combos.map fun combo => bytesOf combo.toJson.render) = .ok combos := by
  induction combos generalizing number with
  | nil => rfl
  | cons combo combos ih =>
    have tail := ih (number + 1)
    have filled : combo.toJson.render.toList.isEmpty = false := by
      rw [← Bool.not_eq_true, List.isEmpty_iff]
      exact combo.render_ne_nil
    rw [List.map_cons, readLines, textOf_bytesOf]
    simp only [bind, Except.bind, combo.trimBlanks_render, filled, String.ofList_toList,
      combo.readWhole_render, tail]
    rfl

/-- The bytes of the texts of combos, as lines of a file. -/
theorem ofLines_eq_of_linesFrom {text : String} {combos : List Combo}
    (lines : linesFrom [] (bytesOf text) = combos.map fun combo => bytesOf combo.toJson.render) :
    ofLines text.toUTF8 = .ok (ofList combos) := by
  rw [ofLines, toList_toUTF8, lines, readLines_renders]
  rfl

/-- A list of combos gives the same corpus by itself, read back from a JSON list, and read back from
lines with one combo each, where either every line or every line but the last has a mark. -/
theorem written_combos_read_back (combos : List Combo) (mark : LineEnd) :
    ofJson (Value.list (combos.map Combo.toJson)).render = .ok (ofList combos) ∧
      ofLines (String.join (combos.map fun combo => combo.toJson.render ++ mark.text)).toUTF8 =
        .ok (ofList combos) ∧
      ofLines (mark.text.intercalate (combos.map fun combo => combo.toJson.render)).toUTF8 =
        .ok (ofList combos) := by
  have found : ∀ line ∈ combos.map fun combo => combo.toJson.render,
      mark.FoundAfter (bytesOf line) := by
    intro line mem
    obtain ⟨combo, -, rfl⟩ := List.mem_map.1 mem
    exact LineEnd.foundAfter_of_shown combo.shown_render mark
  have nonempty : ∀ line ∈ combos.map fun combo => combo.toJson.render, line.toList ≠ [] := by
    intro line mem
    obtain ⟨combo, -, rfl⟩ := List.mem_map.1 mem
    exact combo.render_ne_nil
  refine ⟨ofJson_render combos, ofLines_eq_of_linesFrom ?_, ofLines_eq_of_linesFrom ?_⟩
  · have lines := linesFrom_join found
    simpa only [List.map_map, Function.comp_def] using lines
  · have lines := linesFrom_intercalate found nonempty
    simpa only [List.map_map, Function.comp_def] using lines

end ComboCorpus

end Deckwright
