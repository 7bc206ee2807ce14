import Deckwright.Proofs.Pattern.Escape
import Deckwright.Proofs.Pattern.Seams
import Deckwright.Proofs.Unicode.CharSet
import Deckwright.Synergy.Rules

/-!
# Themes of a card

Themes are looked for in one text that joins the rules text, the keywords and the type line of a
card. Which themes are reported, in what order and with which indicators follows from what the
patterns match in that text (`themesFor_shows`, `themesFor_eq_asWritten_iff`). For patterns that
find nothing across the seams it is as if each field was searched by itself. For others it is not:
an anchor at the start of a text holds at the start of the rules text alone, and two keywords next
to each other make up a phrase.
-/

namespace Deckwright

open Unicode (CharSet)

/-! ## Fields and their seams -/

namespace TextPattern

/-- The pattern occurs in the rules text of the card, in one of its keywords or in its type line,
by itself. -/
def occursOn (p : TextPattern) (card : Card) : Bool :=
  p.isMatch card.oracleText || card.keywords.any p.isMatch || p.isMatch card.typeLine

/-- The pattern finds nothing across the seams of the card's fields: it avoids line feeds, and it
avoids spaces if they join keywords. If there is no keyword, it finds nothing in the line without
any. -/
def keepsToFields (p : TextPattern) (card : Card) : Bool :=
  p.avoids '\n' && match card.keywords with
    | [] => !p.isMatch ""
    | [_] => true
    | _ => p.avoids ' '

/-- A pattern that avoids line feeds occurs in the joined text if it occurs in the rules text, in
the keywords or in the type line. -/
theorem isMatch_themeText {p : TextPattern} (avoids : p.avoids '\n' = true) (card : Card) :
    p.isMatch card.themeText = (p.isMatch card.oracleText ||
      p.isMatch (" ".intercalate card.keywords) || p.isMatch card.typeLine) := by
  have feed : "\n" = String.singleton '\n' := rfl
  rw [Card.themeText, feed, isMatch_join avoids separates_lineFeed,
    isMatch_join avoids separates_lineFeed]

/-- A pattern that finds nothing across the seams occurs in the joined text if it occurs in one of
the fields by itself. -/
theorem isMatch_themeText_eq_occursOn {p : TextPattern} {card : Card}
    (keeps : p.keepsToFields card = true) : p.isMatch card.themeText = p.occursOn card := by
  obtain ⟨lines, words⟩ := (Bool.and_eq_true _ _).mp keeps
  have keywords : p.isMatch (" ".intercalate card.keywords) = card.keywords.any p.isMatch := by
    cases listed : card.keywords with
    | nil =>
      rw [listed] at words
      simpa using words
    | cons first rest =>
      cases rest with
      | nil => simp
      | cons second rest =>
        rw [listed] at words
        exact isMatch_intercalate words separates_space (List.cons_ne_nil _ _)
  rw [isMatch_themeText lines, keywords, occursOn]

end TextPattern

/-! ## Themes as written -/

namespace ThemeIndicator

/-- The first indicator of the theme that occurs in the text, as written. -/
def firstShown? (t : ThemeIndicator) (text : String) : Option String :=
  t.indicators.find? fun indicator => (TextPattern.compile indicator).isMatch text

/-- An indicator of the theme occurs in the text. -/
def isShownIn (t : ThemeIndicator) (text : String) : Bool :=
  t.indicators.any fun indicator => (TextPattern.compile indicator).isMatch text

/-- An indicator of the theme occurs in a field of the card by itself. -/
def isShownOn (t : ThemeIndicator) (card : Card) : Bool :=
  t.indicators.any fun indicator => (TextPattern.compile indicator).occursOn card

/-- Every indicator of the theme avoids line feeds. -/
def keepsToLines (t : ThemeIndicator) : Bool :=
  t.indicators.all fun indicator => (TextPattern.compile indicator).avoids '\n'

/-- No indicator of the theme finds anything across the seams of the card's fields. -/
def keepsToFields (t : ThemeIndicator) (card : Card) : Bool :=
  t.indicators.all fun indicator => (TextPattern.compile indicator).keepsToFields card

/-- A theme is matched by the first of its indicators that occurs in the text. -/
theorem match?_compile (t : ThemeIndicator) (text : String) :
    t.compile.match? text = (t.firstShown? text).map fun indicator =>
      ⟨t.theme, (TextPattern.compile indicator).text, .archetype⟩ := by
  rw [CompiledTheme.match?, compile, List.find?_map, Option.map_map]
  rfl

/-- Where a theme is shown depends on where its indicators occur. -/
theorem isShownIn_eq_any {t : ThemeIndicator} {text : String} {occurs : String → Bool}
    (each : ∀ indicator ∈ t.indicators,
      (TextPattern.compile indicator).isMatch text = occurs indicator) :
    t.isShownIn text = t.indicators.any occurs := by
  rw [isShownIn, Bool.eq_iff_iff, List.any_eq_true, List.any_eq_true]
  apply exists_congr
  intro indicator
  apply and_congr_right
  intro mem
  rw [each indicator mem]

/-- A theme whose indicators avoid line feeds is shown in the joined text if it is shown in one of
its three lines. -/
theorem isShownIn_themeText_of_keepsToLines {t : ThemeIndicator} (keeps : t.keepsToLines = true)
    (card : Card) :
    t.isShownIn card.themeText = (t.isShownIn card.oracleText ||
      t.isShownIn (" ".intercalate card.keywords) || t.isShownIn card.typeLine) := by
  rw [isShownIn_eq_any fun indicator mem =>
    TextPattern.isMatch_themeText (List.all_eq_true.1 keeps indicator mem) card]
  rw [isShownIn, isShownIn, isShownIn, Bool.eq_iff_iff]
  simp only [List.any_eq_true, Bool.or_eq_true, and_or_left, exists_or]

/-- A theme whose indicators find nothing across the seams is shown in the joined text if it is
shown in one of the fields by itself. -/
theorem isShownIn_themeText_of_keepsToFields {t : ThemeIndicator} {card : Card}
    (keeps : t.keepsToFields card = true) : t.isShownIn card.themeText = t.isShownOn card :=
  isShownIn_eq_any fun indicator mem =>
    TextPattern.isMatch_themeText_eq_occursOn (List.all_eq_true.1 keeps indicator mem)

end ThemeIndicator

namespace SynergyRules

/-- The themes of the table that are shown in the joined text of a card, in order, each with the
first indicator that shows it, as written. -/
def shownThemes (rules : SynergyRules) (card : Card) : List (String × String) :=
  rules.themes.filterMap fun t =>
    (t.firstShown? card.themeText).map fun indicator => (t.theme, indicator)

/-- The themes reported are those shown, and the indicators are reported as the patterns made from
them give their text. -/
theorem themesFor_eq_map_shownThemes (rules : SynergyRules) (card : Card) :
    rules.themesFor card = (rules.shownThemes card).map fun shown =>
      ⟨shown.1, (TextPattern.compile shown.2).text, .archetype⟩ := by
  rw [themesFor, detectThemes, shownThemes, List.filterMap_map, List.map_filterMap]
  apply congrArg fun find => List.filterMap find rules.themes
  funext t
  rw [Function.comp_apply, ThemeIndicator.match?_compile, Option.map_map]
  rfl

/-- The themes shown are those of which an indicator occurs in the joined text. -/
theorem map_fst_shownThemes (rules : SynergyRules) (card : Card) :
    (rules.shownThemes card).map (·.1) =
      (rules.themes.filter (·.isShownIn card.themeText)).map (·.theme) := by
  rw [shownThemes, List.map_filterMap]
  induction rules.themes with
  | nil => rfl
  | cons t themes ih =>
    have shown : (t.firstShown? card.themeText).isSome = t.isShownIn card.themeText :=
      List.isSome_find?
    rw [List.filterMap_cons, List.filter_cons, ← shown]
    cases t.firstShown? card.themeText with
    | none => exact ih
    | some indicator => exact congrArg (t.theme :: ·) ih

/-! ## Which themes are reported -/

/-- The themes of the table that are shown in the joined text of a card are reported, each once and
in the order of the table, whether the patterns are compiled beforehand or not. A theme whose
indicators avoid line feeds is shown there if it is shown in one of the three lines, and one whose
indicators find nothing across the seams if it is shown in one of the fields by itself. -/
theorem themesFor_shows (rules : SynergyRules) (card : Card) :
    rules.compile.themesFor card = rules.themesFor card ∧
    (rules.themesFor card).map (·.theme) =
      (rules.themes.filter (·.isShownIn card.themeText)).map (·.theme) ∧
    (∀ t ∈ rules.themes, t.keepsToLines = true →
      t.isShownIn card.themeText = (t.isShownIn card.oracleText ||
        t.isShownIn (" ".intercalate card.keywords) || t.isShownIn card.typeLine)) ∧
    ∀ t ∈ rules.themes, t.keepsToFields card = true →
      t.isShownIn card.themeText = t.isShownOn card := by
  refine ⟨rfl, ?_, ?_, ?_⟩
  · rw [themesFor_eq_map_shownThemes, List.map_map, ← map_fst_shownThemes]
    rfl
  · intro t _ keeps
    exact ThemeIndicator.isShownIn_themeText_of_keepsToLines keeps card
  · intro t _ keeps
    exact ThemeIndicator.isShownIn_themeText_of_keepsToFields keeps

/-- An indicator with no place for a blank finds nothing across the seams. -/
theorem themesFor_shows_of_counters :
    let counters : ThemeIndicator := ⟨"counters", ["\\+1/\\+1"]⟩
    let rules : SynergyRules := { themes := [counters] }
    let card : Card :=
      { keywords := ["Haste", "Flying"], oracleText := "It enters with a +1/+1 counter on it." }
    counters ∈ rules.themes ∧ counters.keepsToLines = true ∧
      counters.keepsToFields card = true ∧ (rules.themesFor card).map (·.theme) = ["counters"] ∧
      counters.isShownIn card.themeText = counters.isShownOn card ∧
      counters.isShownOn card = true := by
  intro counters rules card
  obtain ⟨-, reported, -, byField⟩ := themesFor_shows rules card
  have listed : counters ∈ rules.themes := List.mem_singleton.2 rfl
  have keepsToLines : counters.keepsToLines = true := by decide +kernel
  have keepsToFields : counters.keepsToFields card = true := by decide +kernel
  have shown : counters.isShownOn card = true := by decide +kernel
  have same := byField counters listed keepsToFields
  have names : (rules.themes.filter (·.isShownIn card.themeText)).map (·.theme) = ["counters"] := by
    decide +kernel
  exact ⟨listed, keepsToLines, keepsToFields, reported.trans names, same, shown⟩

open Pattern in
/-- An indicator anchored to the start is missed on a type line, and one of two words is found in
two keywords next to each other. -/
theorem themesFor_goes_across_seams :
    let rules : SynergyRules :=
      { themes := [⟨"artifacts", ["^artifact"]⟩, ⟨"evasion", ["haste flying"]⟩] }
    let card : Card := { keywords := ["Haste", "Flying"], typeLine := "Artifact Creature — Golem" }
    (rules.themesFor card).map (·.theme) = ["evasion"] ∧
      (rules.themes.filter (·.isShownOn card)).map (·.theme) = ["artifacts"] := by
  have anchored : TextPattern.compile "^artifact" =
      .regex "^artifact" (.seq (.look .start) (caselessText "artifact".toList .empty)) := by
    have read : Expr.parse? "^artifact".toList =
        some (.ofParts (.anchor .startLine :: literals "artifact".toList)) := rfl
    have meant : Expr.allOf? TextPattern.initialFlags
        (.anchor .startLine :: literals "artifact".toList) =
          some (.seq (.look .start) (caselessText "artifact".toList .empty),
            TextPattern.initialFlags) := by
      rw [Expr.allOf?]
      simp only [Expr.regex?, allOf?_literals]
      rfl
    apply compile_of_fits (regex?_of_parse? read meant)
    simp only [caselessText, caseless, CharSet.ofCodePoints_eq_foldr]
    decide +kernel
  have phrase : TextPattern.compile "haste flying" =
      .regex "haste flying" (caselessText "haste flying".toList .empty) := by
    have read : Expr.parse? "haste flying".toList =
        some (.ofParts (literals "haste flying".toList)) := rfl
    apply compile_of_fits (regex?_of_parse? read (allOf?_literals _))
    simp only [caselessText, caseless, CharSet.ofCodePoints_eq_foldr]
    decide +kernel
  constructor
  · simp only [themesFor, ThemeIndicator.compile, List.map_cons, List.map_nil, anchored, phrase,
      caselessText, caseless, CharSet.ofCodePoints_eq_foldr]
    decide +kernel
  · simp only [ThemeIndicator.isShownOn, List.filter_cons, List.filter_nil, List.any_cons,
      List.any_nil, anchored, phrase, caselessText, caseless, CharSet.ofCodePoints_eq_foldr]
    decide +kernel

/-! ## How indicators are reported -/

/-- The text of a compiled pattern is that of the pattern, in lower case if it is no regular
expression. -/
theorem text_compile (pattern : String) :
    (TextPattern.compile pattern).text =
      if (TextPattern.regex? pattern).isSome then pattern else lowercase pattern := by
  rw [TextPattern.compile]
  cases TextPattern.regex? pattern <;> rfl

/-- A theme is reported with the first of its indicators that occurs in the joined text of the card,
in lower case if it is no regular expression. So the indicators are reported as written exactly if
each of these is a regular expression or in lower case already. -/
theorem themesFor_names_indicators (rules : SynergyRules) (card : Card) :
    rules.compile.themesFor card = rules.themesFor card ∧
    rules.themesFor card = (rules.shownThemes card).map (fun shown => ⟨shown.1,
      if (TextPattern.regex? shown.2).isSome then shown.2 else lowercase shown.2, .archetype⟩) ∧
    (rules.themesFor card =
        (rules.shownThemes card).map (fun shown => ⟨shown.1, shown.2, .archetype⟩) ↔
      ∀ shown ∈ rules.shownThemes card,
        (TextPattern.regex? shown.2).isSome = true ∨ lowercase shown.2 = shown.2) := by
  have reported : rules.themesFor card = (rules.shownThemes card).map (fun shown => ⟨shown.1,
      if (TextPattern.regex? shown.2).isSome then shown.2 else lowercase shown.2,
      .archetype⟩) := by
    rw [themesFor_eq_map_shownThemes]
    simp only [text_compile]
  refine ⟨rfl, reported, ?_⟩
  rw [reported, List.map_inj_left]
  apply forall_congr'
  intro shown
  apply imp_congr_right
  intro _
  cases (TextPattern.regex? shown.2).isSome <;> simp

/-- An indicator that is no regular expression is reported in lower case. -/
theorem themesFor_lowers_indicator :
    let rules : SynergyRules := { themes := [⟨"counters", ["+1/+1 Counter"]⟩] }
    let card : Card := { oracleText := "Put a +1/+1 Counter on target creature." }
    rules.shownThemes card = [("counters", "+1/+1 Counter")] ∧
      rules.themesFor card = [⟨"counters", "+1/+1 counter", .archetype⟩] := by
  decide +kernel

end SynergyRules

end Deckwright
