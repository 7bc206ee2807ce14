import Deckwright.Card.TypeLine
import Deckwright.Proofs.Unicode.Caseless

/-!
# Writing and splitting type lines

The sides of a type line are spaced out as words: the types on the left, with supertypes among them,
and the subtypes on the right. Splitting finds the types and the subtypes again, whichever separator
the sides are joined by, since no separator stands within the left side (`cutFrom_of_first`). What
splitting gives for any line can be written as a type line itself, and is then found again.
-/

namespace Deckwright.TypeLine

open Unicode

/-! ## The first place of a separator -/

/-- A text is cut at a separator that begins at no earlier place. -/
theorem cutFrom_of_first {separator left right : List Char} (nonempty : separator ≠ [])
    (first : ∀ start rest, left = start ++ rest → rest ≠ [] →
      ¬separator <+: rest ++ separator ++ right)
    (before : List Char) :
    cutFrom separator before (left ++ separator ++ right) =
      some (before.reverse ++ left, right) := by
  induction left generalizing before with
  | nil =>
    obtain ⟨c, more, rfl⟩ := List.exists_cons_of_ne_nil nonempty
    have here : List.isPrefixOf (c :: more) (c :: (more ++ right)) = true :=
      List.isPrefixOf_iff_prefix.2 (List.prefix_append (c :: more) right)
    rw [List.nil_append, List.cons_append, cutFrom, if_pos here, List.append_nil,
      ← List.cons_append, List.drop_left]
  | cons c left ih =>
    have elsewhere : ¬List.isPrefixOf separator (c :: (left ++ separator ++ right)) = true := by
      rw [List.isPrefixOf_iff_prefix]
      exact first [] (c :: left) rfl (List.cons_ne_nil c left)
    have later := ih (fun start rest split => first (c :: start) rest (congrArg (c :: ·) split))
      (c :: before)
    rw [List.cons_append, List.cons_append, cutFrom, if_neg elsewhere, later, List.reverse_cons,
      List.append_assoc]
    rfl

/-- Before the place where a text is cut at a single character, that character does not stand. -/
theorem not_mem_of_cutFrom {separator : Char} {before text left right : List Char}
    (new : separator ∉ before) (found : cutFrom [separator] before text = some (left, right)) :
    separator ∉ left := by
  induction text generalizing before with
  | nil => cases found
  | cons c rest ih =>
    rw [cutFrom] at found
    split at found
    · obtain ⟨rfl, -⟩ := Prod.mk.inj (Option.some.inj found)
      rwa [List.mem_reverse]
    · rename_i elsewhere
      refine ih ?_ found
      rw [List.mem_cons, not_or]
      refine ⟨?_, new⟩
      rintro rfl
      exact elsewhere (by simp [List.isPrefixOf])

/-- A text is not cut at a long dash if it has none. -/
theorem cut_dash_eq_none_iff {line : List Char} : cut ['—'] line = none ↔ '—' ∉ line := by
  rw [cut, cutFrom_eq_none_iff, Bool.eq_false_iff, not_iff_not, Text.occursIn_iff]
  constructor
  · rintro ⟨before, after, rfl⟩
    simp
  · intro mem
    obtain ⟨before, after, rfl⟩ := List.append_of_mem mem
    exact ⟨before, after, by simp⟩

/-- The sides of a line are separated by its first long dash. -/
theorem sides_dash {left : List Char} (undivided : '—' ∉ left) (right : List Char) :
    sides (left ++ ['—'] ++ right) = (left, right) := by
  have found : cut ['—'] (left ++ ['—'] ++ right) = some (left, right) := by
    refine cutFrom_of_first (List.cons_ne_nil _ _) ?_ []
    rintro start rest rfl nonempty starts
    obtain ⟨c, more, rfl⟩ := List.exists_cons_of_ne_nil nonempty
    obtain ⟨rfl, -⟩ := List.cons_prefix_cons.1 starts
    exact undivided (by simp)
  rw [sides, found]

/-- The sides of a line without long dash are separated by its first hyphen between spaces, which is
none that is a word of the left side. -/
theorem sides_hyphen {left right : List Char} (undivided : '—' ∉ left ++ right)
    (apart : ['-'] ∉ words left) : sides (left ++ [' ', '-', ' '] ++ right) = (left, right) := by
  have space : isBlank ' ' = true := isBlank_space ' ' List.mem_cons_self
  have hyphen : IsBare ['-'] := ⟨List.cons_ne_nil _ _, List.forall_mem_singleton.2 (by decide)⟩
  have none : cut ['—'] (left ++ [' ', '-', ' '] ++ right) = none := by
    rw [cut_dash_eq_none_iff]
    simpa using undivided
  have found : cut [' ', '-', ' '] (left ++ [' ', '-', ' '] ++ right) = some (left, right) := by
    refine cutFrom_of_first (List.cons_ne_nil _ _) ?_ []
    rintro start rest rfl nonempty starts
    -- An earlier separator would begin in the left side, and its hyphen would be a word there.
    refine apart ?_
    obtain ⟨c, more, rfl⟩ := List.exists_cons_of_ne_nil nonempty
    cases more with
    | nil =>
      obtain ⟨-, next⟩ := List.cons_prefix_cons.1 starts
      exact absurd (List.cons_prefix_cons.1 next).1 (by decide)
    | cons d more =>
      obtain ⟨rfl, next⟩ := List.cons_prefix_cons.1 starts
      obtain ⟨rfl, last⟩ := List.cons_prefix_cons.1 next
      have ended : ∀ c, more.head? = some c → isBlank c = true := by
        rintro c first
        obtain ⟨rest, rfl⟩ := List.head?_eq_some_iff.1 first
        obtain ⟨rfl, -⟩ := List.cons_prefix_cons.1 last
        exact space
      rw [words_append_blank space]
      refine List.mem_append_right _ ?_
      have word := words_append_of_ended hyphen ended
      rw [List.singleton_append] at word
      rw [word]
      exact List.mem_cons_self
  rw [sides, none, found]

/-- There is no long dash on the left side of a type line. -/
theorem undivided_left (line : List Char) : '—' ∉ (sides line).1 := by
  rw [sides]
  split
  · rename_i parts found
    exact not_mem_of_cutFrom List.not_mem_nil found
  · rename_i none
    have undivided : '—' ∉ line := cut_dash_eq_none_iff.1 none
    split
    · rename_i parts found
      have joined := eq_append_of_cutFrom found
      intro mem
      refine undivided ?_
      rw [List.reverse_nil, List.nil_append] at joined
      rw [joined, List.append_assoc]
      exact List.mem_append_left _ mem
    · exact undivided

/-! ## Words of the sides -/

/-- A type line is split into the words of its sides. -/
theorem split_of_sides {line : String} {left right : List Char}
    (separated : sides line.toList = (left, right)) :
    split line = ((wordsOf left).filter fun word => !isSupertype word, wordsOf right) := by
  rw [split, separated]

/-- A word that can stand on the left side as a type: it has characters, none of them a blank or a
long dash, and it is no supertype in any case. -/
structure IsType (word : String) : Prop where
  /-- It is a word. -/
  bare : IsBare word.toList
  /-- It has no long dash. -/
  undivided : '—' ∉ word.toList
  /-- It is no supertype. -/
  proper : isSupertype word = false

instance (word : String) : Decidable (IsType word) :=
  decidable_of_iff (IsBare word.toList ∧ '—' ∉ word.toList ∧ isSupertype word = false)
    ⟨fun h => ⟨h.1, h.2.1, h.2.2⟩, fun h => ⟨h.bare, h.undivided, h.proper⟩⟩

/-- The second list has the words of the first one in order, and supertypes in any case anywhere
among them. -/
inductive WithSupertypes : List String → List String → Prop where
  /-- No words. -/
  | nil : WithSupertypes [] []
  /-- A word of the first list. -/
  | word (word : String) {types listed : List String} (later : WithSupertypes types listed) :
    WithSupertypes (word :: types) (word :: listed)
  /-- A supertype. -/
  | supertype {word : String} (proper : isSupertype word = true) {types listed : List String}
    (later : WithSupertypes types listed) : WithSupertypes types (word :: listed)

/-- Supertypes have characters, none of them a blank or a long dash, and they are not a hyphen. -/
theorem supertype_cases {word : String} (proper : isSupertype word = true) :
    IsBare word.toList ∧ '—' ∉ word.toList ∧ word ≠ "-" := by
  -- Blanks and the long dash have no case, so they would stand in the lower-case form as well.
  have plain : ∀ known ∈ supertypes, IsBare known.toList ∧ '—' ∉ known.toList := by decide
  rw [isSupertype, List.contains_iff_mem] at proper
  obtain ⟨bare, undivided⟩ := plain _ proper
  rw [lowercase, String.toList_ofList] at bare undivided
  refine ⟨⟨mt lower_eq_nil_iff.2 bare.nonempty, ?_⟩, ?_, ?_⟩
  · intro c mem
    rw [Bool.eq_false_iff]
    intro blank
    have bareChar := bare.bare c ((isCaseless_of_isBlank blank).mem_lower_iff.2 mem)
    rw [blank] at bareChar
    exact Bool.noConfusion bareChar
  · exact mt isCaseless_dash.mem_lower_iff.2 undivided
  · rintro rfl
    exact absurd proper (by decide)

namespace WithSupertypes

variable {types listed : List String}

/-- Each word listed is a type or a supertype. -/
theorem mem_cases (mixed : WithSupertypes types listed) {word : String} (mem : word ∈ listed) :
    word ∈ types ∨ isSupertype word = true := by
  induction mixed with
  | nil => exact absurd mem List.not_mem_nil
  | word first later ih =>
    rcases List.mem_cons.1 mem with rfl | mem
    · exact .inl List.mem_cons_self
    · exact (ih mem).imp_left (List.mem_cons_of_mem first)
  | supertype proper later ih =>
    rcases List.mem_cons.1 mem with rfl | mem
    · exact .inr proper
    · exact ih mem

/-- Without supertypes the types are left. -/
theorem filter_eq (mixed : WithSupertypes types listed)
    (proper : ∀ word ∈ types, isSupertype word = false) :
    (listed.filter fun word => !isSupertype word) = types := by
  induction mixed with
  | nil => rfl
  | word first later ih =>
    obtain ⟨here, rest⟩ := List.forall_mem_cons.1 proper
    rw [List.filter_cons_of_pos (by simp [here]), ih rest]
  | supertype here later ih =>
    rw [List.filter_cons_of_neg (by simp [here]), ih proper]

/-- Words that are no supertypes may stay as they are. -/
theorem refl (types : List String) : WithSupertypes types types := by
  induction types with
  | nil => exact .nil
  | cons word types ih => exact .word word ih

end WithSupertypes

/-- The texts are written as the sides of a type line with some types and subtypes: the left one has
the types, and any supertypes among them, the right one the subtypes, with blanks between the
words. -/
structure AreSides (types subtypes : List String) (left right : String) : Prop where
  /-- The types can be types. -/
  areTypes : ∀ word ∈ types, IsType word
  /-- The subtypes are words. -/
  areWords : ∀ word ∈ subtypes, IsBare word.toList
  /-- The left text is spaced out as types and supertypes. -/
  leftSpaced : ∃ listed, WithSupertypes types listed ∧
    SpacedOut (listed.map String.toList) left.toList
  /-- The right text is spaced out as subtypes. -/
  rightSpaced : SpacedOut (subtypes.map String.toList) right.toList

/-- A text that is spaced out as some words has these words. -/
theorem wordsOf_eq {spaced : List String} {text : List Char}
    (written : SpacedOut (spaced.map String.toList) text)
    (bare : ∀ word ∈ spaced, IsBare word.toList) : wordsOf text = spaced := by
  rw [wordsOf, written.words_eq (List.forall_mem_map.2 bare), List.map_map]
  exact List.map_id'' (fun _ => String.ofList_toList) spaced

/-- The words of a text have characters, and none of them is a blank. -/
theorem isBare_of_mem_wordsOf {text : List Char} {word : String} (mem : word ∈ wordsOf text) :
    word.toList ∈ words text ∧ IsBare word.toList := by
  obtain ⟨run, listed, rfl⟩ := List.mem_map.1 mem
  rw [String.toList_ofList]
  exact ⟨listed, isBare_of_mem_words listed⟩

namespace AreSides

variable {types subtypes : List String} {left right : String}
  (written : AreSides types subtypes left right)

include written

/-- On the left side stand words without long dash, the types among them, and a hyphen only if it is
a type. -/
theorem left_words : ∃ listed, wordsOf left.toList = listed ∧
    SpacedOut (listed.map String.toList) left.toList ∧
    (listed.filter fun word => !isSupertype word) = types ∧
    ∀ word ∈ listed, '—' ∉ word.toList ∧ (word = "-" → word ∈ types) := by
  obtain ⟨listed, mixed, spaced⟩ := written.leftSpaced
  have plain : ∀ word ∈ listed,
      IsBare word.toList ∧ '—' ∉ word.toList ∧ (word = "-" → word ∈ types) := by
    intro word mem
    rcases mixed.mem_cases mem with isListed | proper
    · have isType := written.areTypes word isListed
      exact ⟨isType.bare, isType.undivided, fun _ => isListed⟩
    · obtain ⟨bare, undivided, other⟩ := supertype_cases proper
      exact ⟨bare, undivided, fun same => absurd same other⟩
  exact ⟨listed, wordsOf_eq spaced fun word mem => (plain word mem).1, spaced,
    mixed.filter_eq fun word mem => (written.areTypes word mem).proper,
    fun word mem => (plain word mem).2⟩

/-- The types are the words on the left side that are no supertypes. -/
theorem filter_wordsOf_left :
    ((wordsOf left.toList).filter fun word => !isSupertype word) = types := by
  obtain ⟨listed, same, -, filtered, -⟩ := written.left_words
  rw [same, filtered]

/-- There is no long dash on the left side. -/
theorem undivided_left : '—' ∉ left.toList := by
  obtain ⟨listed, -, spaced, -, plain⟩ := written.left_words
  intro mem
  rcases spaced.mem_cases mem with blank | ⟨chars, isListed, within⟩
  · exact absurd blank (by decide)
  · obtain ⟨word, isWord, rfl⟩ := List.mem_map.1 isListed
    exact (plain word isWord).1 within

/-- There is no long dash on the right side if none of the subtypes has one. -/
theorem undivided_right (undivided : ∀ word ∈ subtypes, '—' ∉ word.toList) :
    '—' ∉ right.toList := by
  intro mem
  rcases written.rightSpaced.mem_cases mem with blank | ⟨chars, isListed, within⟩
  · exact absurd blank (by decide)
  · obtain ⟨word, isWord, rfl⟩ := List.mem_map.1 isListed
    exact undivided word isWord within

/-- A hyphen is no word on the left side if it is no type. -/
theorem hyphen_not_mem (other : "-" ∉ types) : ['-'] ∉ words left.toList := by
  obtain ⟨listed, same, -, -, plain⟩ := written.left_words
  intro mem
  have isListed : "-" ∈ listed := same ▸ List.mem_map_of_mem mem
  exact other ((plain "-" isListed).2 rfl)

/-- Sides that are joined by a long dash are split into the types and the subtypes. -/
theorem split_dash : split (left ++ "—" ++ right) = (types, subtypes) := by
  have separated : sides (left ++ "—" ++ right).toList = (left.toList, right.toList) := by
    rw [String.toList_append, String.toList_append]
    exact sides_dash written.undivided_left right.toList
  rw [split_of_sides separated, written.filter_wordsOf_left,
    wordsOf_eq written.rightSpaced written.areWords]

/-- Sides without long dash that are joined by a hyphen between spaces are split into the types and
the subtypes, if none of the types is a hyphen. -/
theorem split_hyphen (undivided : ∀ word ∈ subtypes, '—' ∉ word.toList) (other : "-" ∉ types) :
    split (left ++ " - " ++ right) = (types, subtypes) := by
  have whole : '—' ∉ left.toList ++ right.toList := by
    rw [List.mem_append, not_or]
    exact ⟨written.undivided_left, written.undivided_right undivided⟩
  have separated : sides (left ++ " - " ++ right).toList = (left.toList, right.toList) := by
    rw [String.toList_append, String.toList_append]
    exact sides_hyphen whole (written.hyphen_not_mem other)
  rw [split_of_sides separated, written.filter_wordsOf_left,
    wordsOf_eq written.rightSpaced written.areWords]

end AreSides

/-! ## Writing what was split -/

/-- The words of a type line, joined by spaces, with a long dash between the sides. -/
def join (parts : List String × List String) : String :=
  " ".intercalate parts.1 ++ " — " ++ " ".intercalate parts.2

/-- What any line is split into can be written as the sides of a type line. -/
theorem areSides_split (line : String) :
    AreSides (split line).1 (split line).2 (" ".intercalate (split line).1 ++ " ")
      (" " ++ " ".intercalate (split line).2) := by
  have none : ∀ c ∈ [], isBlank c = true := List.forall_mem_nil _
  constructor
  · intro word mem
    obtain ⟨isWord, proper⟩ := List.mem_filter.1 mem
    obtain ⟨listed, bare⟩ := isBare_of_mem_wordsOf isWord
    refine ⟨bare, ?_, by simpa using proper⟩
    exact fun within => undivided_left line.toList (subset_of_mem_words listed within)
  · exact fun word mem => (isBare_of_mem_wordsOf mem).2
  · refine ⟨(split line).1, .refl _, ?_⟩
    rw [String.toList_append, String.toList_intercalate]
    exact spacedOut_intercalate _ isBlank_space
  · have joined := spacedOut_intercalate ((split line).2.map String.toList) none
    rw [List.append_nil] at joined
    rw [String.toList_append, String.toList_intercalate]
    exact joined.blanks_append isBlank_space

/-- Splitting a type line undoes its writing: sides that are joined by a long dash are split into
the types and the subtypes; so are sides joined by a hyphen between spaces, if no word has a long
dash and none of the types is a hyphen. What any line is split into is found again if it is
joined. -/
theorem split_undoes_writing :
    (∀ (types subtypes : List String) (left right : String),
      AreSides types subtypes left right →
        split (left ++ "—" ++ right) = (types, subtypes) ∧
        ((∀ word ∈ subtypes, '—' ∉ word.toList) → "-" ∉ types →
          split (left ++ " - " ++ right) = (types, subtypes))) ∧
    ∀ line : String, split (join (split line)) = split line := by
  refine ⟨fun _ _ _ _ written => ⟨written.split_dash, written.split_hyphen⟩, ?_⟩
  intro line
  have again := (areSides_split line).split_dash
  have dash : " — " = " " ++ "—" ++ " " := by decide
  rw [join, dash]
  simpa only [String.append_assoc] using again

/-- A line with supertypes before and between the types, tabs and further hyphens is split. -/
theorem split_undoes_writing_of_golem :
    let types := ["Artifact", "Creature"]
    let subtypes := ["Golem-Kin", "-"]
    let left := "LEGENDARY Artifact\tsnow  Creature"
    let right := "Golem-Kin -\n"
    AreSides types subtypes left right ∧
      split (left ++ "—" ++ right) = (types, subtypes) ∧
      split (left ++ " - " ++ right) = (types, subtypes) ∧
      split (join (types, subtypes)) = (types, subtypes) := by
  intro types subtypes left right
  let listed := ["LEGENDARY", "Artifact", "snow", "Creature"]
  have mixed : WithSupertypes types listed :=
    .supertype (by decide +kernel) <| .word _ <| .supertype (by decide +kernel) <| .word _ .nil
  have leftWords : words left.toList = listed.map String.toList := by decide +kernel
  have rightWords : words right.toList = subtypes.map String.toList := by decide +kernel
  have written : AreSides types subtypes left right := by
    refine ⟨by decide +kernel, by decide +kernel, ⟨listed, mixed, ?_⟩, ?_⟩
    · exact leftWords ▸ spacedOut_words left.toList
    · exact rightWords ▸ spacedOut_words right.toList
  obtain ⟨undone, again⟩ := split_undoes_writing
  obtain ⟨dash, hyphen⟩ := undone types subtypes left right written
  have rejoined := again (left ++ "—" ++ right)
  rw [dash] at rejoined
  exact ⟨written, dash, hyphen (by decide) (by decide), rejoined⟩

end Deckwright.TypeLine
