import Deckwright.Card.Color
import Deckwright.Proofs.Json.Readers

/-!
# Reading color identities

A color identity is written by the letters of its colors and read with more leniency than it is
written. The letters it is written by all count, so it is read back.

A text gives a color identity if each of its characters is the letter of a color, in either case, or
does not count; the identity then has the colors whose letters occur. If there is another character,
the first one is the error. The colors of a text are read off its characters one by one
(`readSymbols_of_accepted`), so texts may be put together, and their order and repeats do not count.
-/

namespace Deckwright

namespace ColorIdentity

/-! ## Reading back what is written -/

/-- The letter of a color counts. -/
theorem isIgnored_symbol (c : Color) : isIgnored c.symbol = false := by
  cases c <;> decide

/-- Letters of colors are read as the colors. -/
theorem readSymbols_symbols (colors : List Color) (s : ColorIdentity) :
    readSymbols s (colors.map Color.symbol) = .ok (colors.foldl insert s) := by
  induction colors generalizing s with
  | nil => rfl
  | cons c colors ih =>
    rw [List.map_cons, readSymbols, isIgnored_symbol, Color.ofSymbol?_symbol, List.foldl_cons]
    exact ih (s.insert c)

/-- The colors of a list are added to a set. -/
theorem contains_foldl_insert (colors : List Color) (s : ColorIdentity) (c : Color) :
    (colors.foldl insert s).contains c = true ↔ c ∈ colors ∨ s.contains c = true := by
  induction colors generalizing s with
  | nil => simp
  | cons first colors ih =>
    rw [List.foldl_cons, ih, contains_insert, Bool.or_eq_true, beq_iff_eq, List.mem_cons]
    rw [or_left_comm, or_assoc]

/-- The set of the colors of a set is that set. -/
theorem ofList_toList (s : ColorIdentity) : ofList s.toList = s := by
  refine eq_of_contains fun c => ?_
  rw [Bool.eq_iff_iff, ofList, contains_foldl_insert, contains_colorless, mem_toList]
  simp

/-- The text of a set of colors is read as the set. -/
theorem parse_text (s : ColorIdentity) : parse s.text = .ok s := by
  have read : readSymbols colorless s.text.toList = .ok s := by
    rw [text, String.toList_ofList, readSymbols_symbols, ← ofList, ofList_toList]
  rw [parse, read]

/-- A set of colors is read back. -/
theorem read_readsBack (s : ColorIdentity) : read.ReadsBack s.toJson s := by
  refine (Json.readString_readsBack s.text).check ?_
  rw [parse_text]
  rfl

end ColorIdentity

/-! ## Letters of colors -/

namespace Color

/-- The letters that a color is written by. -/
def letters : Color → List Char
  | .white => ['W', 'w']
  | .blue => ['U', 'u']
  | .black => ['B', 'b']
  | .red => ['R', 'r']
  | .green => ['G', 'g']

/-- A character whose capital form is given is that capital, or stands where the small form of it
does. -/
theorem eq_or_toNat_eq_of_toUpper {c d : Char} (capital : c.toUpper = d) :
    c = d ∨ c.toNat = d.toNat + 32 := by
  by_cases small : 'a'.val ≤ c.val ∧ c.val ≤ 'z'.val
  · right
    have moved : c.toUpper = _ := dif_pos small
    have value : d.val = c.val + ('A'.val - 'a'.val) := by rw [← capital, moved]
    have least : 97 ≤ c.val.toNat := UInt32.le_iff_toNat_le.1 small.1
    have greatest : c.val.toNat ≤ 122 := UInt32.le_iff_toNat_le.1 small.2
    have distance : ('A'.val - 'a'.val).toNat = 2 ^ 32 - 32 := by decide
    have place : d.toNat = (c.toNat + (2 ^ 32 - 32)) % 2 ^ 32 := by
      rw [← Char.toNat_val, value, UInt32.toNat_add, distance, Char.toNat_val]
    rw [Char.toNat_val] at least greatest
    omega
  · left
    have unmoved : c.toUpper = c := dif_neg small
    rw [← capital, unmoved]

/-- A character that stands for a color has the letter of the color as its capital form. -/
theorem toUpper_eq_symbol {c : Char} {color : Color} (found : ofSymbol? c = some color) :
    c.toUpper = color.symbol := by
  rw [ofSymbol?] at found
  split at found
  all_goals
    rename_i capital
    cases found
  all_goals exact capital

/-- A character stands for a color if it is one of the letters of the color. -/
theorem ofSymbol?_eq_some_iff {c : Char} {color : Color} :
    ofSymbol? c = some color ↔ c ∈ color.letters := by
  constructor
  · intro found
    have capital : color.symbol ∈ color.letters := by cases color <;> decide
    have small : Char.ofNat (color.symbol.toNat + 32) ∈ color.letters := by cases color <;> decide
    rcases eq_or_toNat_eq_of_toUpper (toUpper_eq_symbol found) with same | place
    · rwa [same]
    · rwa [← place, Char.ofNat_toNat] at small
  · intro letter
    have all : (color.letters.all fun c => decide (ofSymbol? c = some color)) = true := by
      cases color <;> decide
    exact of_decide_eq_true (List.all_eq_true.1 all c letter)

end Color

namespace ColorIdentity

/-- The character may stand in the text of a color identity: it does not count, or it is a letter of
a color. -/
def IsAccepted (c : Char) : Prop :=
  Unicode.isBlank c = true ∨ c ∈ ['{', '}', ',', 'C', 'c'] ∨ ∃ color : Color, c ∈ color.letters

/-- The colors whose letters occur in a text. -/
def lettered (text : List Char) : ColorIdentity :=
  ofTest fun color => text.any fun c => color.letters.contains c

/-- A color is in the identity that a text spells if one of its letters occurs. -/
theorem contains_lettered_iff {text : List Char} {color : Color} :
    (lettered text).contains color = true ↔ ∃ c ∈ text, c ∈ color.letters := by
  simp [lettered]

/-- A character does not count if it is a blank or one of a few others. -/
theorem isIgnored_iff {c : Char} :
    isIgnored c = true ↔ Unicode.isBlank c = true ∨ c ∈ ['{', '}', ',', 'C', 'c'] := by
  rw [isIgnored, Bool.or_eq_true, or_comm]
  simp only [Bool.or_eq_true, decide_eq_true_eq, List.mem_cons, List.not_mem_nil, or_false,
    or_assoc]

/-- The letters of colors count. -/
theorem isIgnored_of_mem_letters {c : Char} {color : Color} (letter : c ∈ color.letters) :
    isIgnored c = false := by
  have all : (color.letters.all fun c => !isIgnored c) = true := by cases color <;> decide
  simpa using List.all_eq_true.1 all c letter

/-- A character is accepted if it does not count or stands for a color. -/
theorem isAccepted_iff {c : Char} :
    IsAccepted c ↔ isIgnored c = true ∨ ∃ color, Color.ofSymbol? c = some color := by
  simp only [IsAccepted, isIgnored_iff, Color.ofSymbol?_eq_some_iff, or_assoc]

/-- The colors of a text are those of its parts. -/
theorem lettered_append (left right : List Char) :
    lettered (left ++ right) = (lettered left).union (lettered right) := by
  refine eq_of_contains fun color => ?_
  rw [contains_union, lettered, lettered, lettered, contains_ofTest, contains_ofTest,
    contains_ofTest, List.any_append]

/-! ## Reading characters one by one -/

/-- A character that does not count gives no color. -/
theorem lettered_cons_of_isIgnored {c : Char} (ignored : isIgnored c = true) (rest : List Char) :
    lettered (c :: rest) = lettered rest := by
  refine eq_of_contains fun color => ?_
  have other : c ∉ color.letters := by
    intro letter
    rw [isIgnored_of_mem_letters letter] at ignored
    exact Bool.false_ne_true ignored
  rw [Bool.eq_iff_iff, contains_lettered_iff, contains_lettered_iff]
  simp [other]

/-- The letter of a color gives that color. -/
theorem lettered_cons_of_letter {c : Char} {color : Color} (letter : c ∈ color.letters)
    (rest : List Char) : lettered (c :: rest) = (lettered rest).insert color := by
  refine eq_of_contains fun other => ?_
  have one : c ∈ other.letters ↔ other = color := by
    rw [← Color.ofSymbol?_eq_some_iff, Color.ofSymbol?_eq_some_iff.2 letter, Option.some.injEq,
      eq_comm]
  rw [contains_insert, Bool.eq_iff_iff, Bool.or_eq_true, beq_iff_eq, contains_lettered_iff,
    contains_lettered_iff]
  simp [one]

/-- Characters that are accepted add the colors whose letters occur. -/
theorem readSymbols_of_accepted {text : List Char} (accepted : ∀ c ∈ text, IsAccepted c)
    (s : ColorIdentity) : readSymbols s text = .ok (s.union (lettered text)) := by
  induction text generalizing s with
  | nil =>
    have same : s.union (lettered []) = s := eq_of_contains fun color => by simp [lettered]
    rw [readSymbols, same]
  | cons c rest ih =>
    have later := ih fun d mem => accepted d (List.mem_cons_of_mem c mem)
    rw [readSymbols]
    rcases isAccepted_iff.1 (accepted c List.mem_cons_self) with ignored | ⟨color, found⟩
    · rw [if_pos ignored, later, lettered_cons_of_isIgnored ignored]
    · have letter := Color.ofSymbol?_eq_some_iff.1 found
      rw [isIgnored_of_mem_letters letter, if_neg Bool.false_ne_true, found,
        lettered_cons_of_letter letter]
      refine (later (s.insert color)).trans (congrArg Except.ok ?_)
      refine eq_of_contains fun other => ?_
      rw [contains_union, contains_insert, contains_union, contains_insert, Bool.or_assoc,
        Bool.or_left_comm]

/-- The first character that is not accepted is the error. -/
theorem readSymbols_of_offence {before after : List Char} {c : Char}
    (accepted : ∀ d ∈ before, IsAccepted d) (offends : ¬IsAccepted c) (s : ColorIdentity) :
    readSymbols s (before ++ c :: after) = .error c := by
  induction before generalizing s with
  | nil =>
    rw [isAccepted_iff, not_or] at offends
    have none : Color.ofSymbol? c = none := by
      rw [Option.eq_none_iff_forall_ne_some]
      exact fun color found => offends.2 ⟨color, found⟩
    rw [List.nil_append, readSymbols, if_neg offends.1, none]
  | cons d before ih =>
    have later := ih fun e mem => accepted e (List.mem_cons_of_mem d mem)
    rw [List.cons_append, readSymbols]
    rcases isAccepted_iff.1 (accepted d List.mem_cons_self) with ignored | ⟨color, found⟩
    · rw [if_pos ignored, later]
    · have letter := Color.ofSymbol?_eq_some_iff.1 found
      rw [isIgnored_of_mem_letters letter, if_neg Bool.false_ne_true, found]
      exact later (s.insert color)

/-- A text is accepted altogether, or there is a first character that is not. -/
theorem accepted_or_exists_offence (text : List Char) :
    (∀ c ∈ text, IsAccepted c) ∨
      ∃ before c after, text = before ++ c :: after ∧ (∀ d ∈ before, IsAccepted d) ∧
        ¬IsAccepted c := by
  induction text with
  | nil => exact .inl (List.forall_mem_nil _)
  | cons c rest ih =>
    by_cases here : IsAccepted c
    · rcases ih with all | ⟨before, d, after, rfl, accepted, offends⟩
      · exact .inl (List.forall_mem_cons.2 ⟨here, all⟩)
      · exact .inr ⟨c :: before, d, after, rfl, List.forall_mem_cons.2 ⟨here, accepted⟩, offends⟩
    · exact .inr ⟨[], c, rest, rfl, List.forall_mem_nil _, here⟩

/-! ## Reading texts -/

/-- A text is read as the colors whose letters occur, if all of its characters are accepted, and
only then. -/
theorem parse_eq_ok_iff {text : String} {s : ColorIdentity} :
    parse text = .ok s ↔ (∀ c ∈ text.toList, IsAccepted c) ∧ s = lettered text.toList := by
  rw [parse]
  rcases accepted_or_exists_offence text.toList with
    all | ⟨before, c, after, split, accepted, offends⟩
  · have start : colorless.union (lettered text.toList) = lettered text.toList :=
      eq_of_contains fun color => by simp
    rw [readSymbols_of_accepted all, start, Except.ok.injEq, eq_comm]
    exact (and_iff_right all).symm
  · rw [split, readSymbols_of_offence accepted offends]
    constructor
    · intro read
      cases read
    · rintro ⟨all, -⟩
      exact absurd (all c (List.mem_append_right before List.mem_cons_self)) offends

/-- A text is refused for its first character that is not accepted, if there is one. -/
theorem parse_eq_error_iff {text : String} {failure : Failure} :
    parse text = .error failure ↔
      ∃ before c after, text.toList = before ++ c :: after ∧ (∀ d ∈ before, IsAccepted d) ∧
        ¬IsAccepted c ∧ failure = .parse (.colorSymbol c text) := by
  constructor
  · intro refused
    rcases accepted_or_exists_offence text.toList with
      all | ⟨before, c, after, split, accepted, offends⟩
    · rw [parse_eq_ok_iff.2 ⟨all, rfl⟩] at refused
      cases refused
    · rw [parse, split, readSymbols_of_offence accepted offends] at refused
      exact ⟨before, c, after, split, accepted, offends, (Except.error.inj refused).symm⟩
  · rintro ⟨before, c, after, split, accepted, offends, rfl⟩
    rw [parse, split, readSymbols_of_offence accepted offends]

/-- The wording of a refusal has the character and the whole text. -/
theorem message_colorSymbol (text : String) (c : Char) :
    (Failure.parse (.colorSymbol c text)).message =
      "Parse error: invalid color symbol '" ++ String.singleton c ++ "' in \"" ++ text ++ "\"" := by
  have start : "Parse error: invalid color symbol '" =
      "Parse error: " ++ "invalid color symbol '" := by decide
  calc (Failure.parse (.colorSymbol c text)).message
      = "Parse error: " ++
          ("invalid color symbol '" ++ String.singleton c ++ "' in \"" ++ text ++ "\"") := rfl
    _ = "Parse error: invalid color symbol '" ++ String.singleton c ++ "' in \"" ++ text ++
          "\"" := by
      rw [start]
      simp only [String.append_assoc]

/-- Two texts are read together exactly if each of them is read, and then as the colors of both. -/
theorem parse_append_eq_ok_iff {text more : String} {u : ColorIdentity} :
    parse (text ++ more) = .ok u ↔
      ∃ s t, parse text = .ok s ∧ parse more = .ok t ∧ u = s.union t := by
  simp only [parse_eq_ok_iff, String.toList_append, List.forall_mem_append, lettered_append]
  constructor
  · rintro ⟨⟨left, right⟩, rfl⟩
    exact ⟨_, _, ⟨left, rfl⟩, ⟨right, rfl⟩, rfl⟩
  · rintro ⟨s, t, ⟨left, rfl⟩, ⟨right, rfl⟩, rfl⟩
    exact ⟨⟨left, right⟩, rfl⟩

/-- Texts with the same characters are read as the same colors, if they are read. -/
theorem parse_eq_ok_congr {text other : String} (same : ∀ c, c ∈ text.toList ↔ c ∈ other.toList)
    (s : ColorIdentity) : parse text = .ok s ↔ parse other = .ok s := by
  have spelled : lettered text.toList = lettered other.toList := by
    refine eq_of_contains fun color => ?_
    rw [Bool.eq_iff_iff, contains_lettered_iff, contains_lettered_iff]
    simp only [same]
  simp only [parse_eq_ok_iff, same, spelled]

/-- A text is read as a color identity exactly if all of its characters are accepted, and a color is
in the identity if one of its letters occurs; else the failure is the first character that is not
accepted, and its wording has that character and the text. So two texts are read together exactly if
each of them is read, and then as the colors of both; only the set of the characters counts; and the
text of an identity is read as the identity. -/
theorem parse_reads_letters (text more : String) :
    ((∃ s, parse text = .ok s) ↔ ∀ c ∈ text.toList, IsAccepted c) ∧
    (∀ s, parse text = .ok s →
      ∀ color, s.contains color = true ↔ ∃ c ∈ text.toList, c ∈ color.letters) ∧
    (∀ failure, parse text = .error failure ↔
      ∃ before c after, text.toList = before ++ c :: after ∧ (∀ d ∈ before, IsAccepted d) ∧
        ¬IsAccepted c ∧ failure = .parse (.colorSymbol c text)) ∧
    (∀ c, (Failure.parse (.colorSymbol c text)).message =
      "Parse error: invalid color symbol '" ++ String.singleton c ++ "' in \"" ++ text ++ "\"") ∧
    (∀ u, parse (text ++ more) = .ok u ↔
      ∃ s t, parse text = .ok s ∧ parse more = .ok t ∧ u = s.union t) ∧
    ((∀ c, c ∈ text.toList ↔ c ∈ more.toList) →
      ∀ s, parse text = .ok s ↔ parse more = .ok s) ∧
    ∀ s : ColorIdentity, parse s.text = .ok s := by
  refine ⟨?_, ?_, fun failure => parse_eq_error_iff, message_colorSymbol text,
    fun u => parse_append_eq_ok_iff, parse_eq_ok_congr, parse_text⟩
  · constructor
    · rintro ⟨s, read⟩
      exact (parse_eq_ok_iff.1 read).1
    · exact fun all => ⟨_, parse_eq_ok_iff.2 ⟨all, rfl⟩⟩
  · intro s read color
    rw [(parse_eq_ok_iff.1 read).2, contains_lettered_iff]

end ColorIdentity

end Deckwright
