import Deckwright.Pattern.TextPattern

/-!
# Reading escaped texts

An escaped text is read as the literals of its characters, one part of the pattern for each. The
reader is followed step by step (`Reads`), so that a pattern put together from escaped texts and
other marks is read as its parts are.
-/

namespace Deckwright.Pattern

open Unicode (CharSet foldOrbit)

/-! ## Steps of the reader -/

/-- Add several parts to the current alternative. -/
def Progress.pushAll (p : Progress) (parts : List Expr) : Progress :=
  { p with parts := parts.reverse ++ p.parts }

/-- Parts are added one after another. -/
@[simp] theorem Progress.pushAll_cons (p : Progress) (part : Expr) (parts : List Expr) :
    p.pushAll (part :: parts) = (p.push part).pushAll parts := by
  simp [pushAll, push]

/-- Parts can be added in two portions. -/
@[simp] theorem Progress.pushAll_append (p : Progress) (early late : List Expr) :
    p.pushAll (early ++ late) = (p.pushAll early).pushAll late := by
  simp [pushAll]

/-- To add no part changes nothing. -/
@[simp] theorem Progress.pushAll_nil (p : Progress) : p.pushAll [] = p := rfl

/-- Several parts as one are one level deeper than the parts, at most. -/
theorem Expr.depth_ofParts_le (parts : List Expr) :
    (Expr.ofParts parts).depth ≤ Expr.depthOfList parts + 1 := by
  unfold Expr.ofParts
  split
  · exact Nat.zero_le _
  · simp [Expr.depthOfList]
  · exact Nat.le_refl _

/-- In the given number of steps the reader gets from one place of a pattern to another. -/
def Reads (steps : Nat) (p : Progress) (text : List Char) (q : Progress) (rest : List Char) :
    Prop :=
  ∀ fuel, readParts (fuel + steps) p text = readParts fuel q rest

namespace Reads

variable {p q : Progress} {text rest : List Char}

/-- One part is read in one step. -/
theorem one {c : Char} (plain : p.extended = false)
    (read : readPart p (c :: text) = some (q, rest)) : Reads 1 p (c :: text) q rest := by
  intro fuel
  rw [readParts, skipFiller, plain, if_neg Bool.false_ne_true]
  simp only [read]

/-- Steps follow one another. -/
theorem trans {steps more : Nat} {r : Progress} {last : List Char}
    (early : Reads steps p text q rest) (late : Reads more q rest r last) :
    Reads (more + steps) p text r last := by
  intro fuel
  rw [← Nat.add_assoc, early, late]

/-- A pattern that is read to its end as several parts is these parts in a row. -/
theorem parse?_eq {steps : Nat} {parts : List Expr} (few : steps ≤ text.length)
    (shallow : Expr.depthOfList parts < nestingLimit)
    (reads : Reads steps .start text (Progress.start.pushAll parts) []) :
    Expr.parse? text = some (.ofParts parts) := by
  have split : text.length + 1 = text.length - steps + 1 + steps := by omega
  have depth : (Expr.ofParts parts).depth ≤ nestingLimit :=
    Nat.le_trans (Expr.depth_ofParts_le parts) shallow
  rw [Expr.parse?, split, reads, readParts, skipFiller]
  simp [depth, Progress.start, Progress.pushAll, Progress.current]

end Reads

/-! ## Escaped texts -/

/-- The literals that a text stands for. -/
def literals (text : List Char) : List Expr := text.map fun c => .literal ⟨c, false⟩

/-- A character without a meaning of its own is read as itself. -/
theorem readPart_of_not_isMeta {c : Char} (plain : isMeta c = false) (p : Progress)
    (rest : List Char) :
    readPart p (c :: rest) = some (p.push (.literal ⟨c, false⟩), rest) := by
  simp only [isMeta, List.contains_eq_mem, decide_eq_false_iff_not, List.mem_cons, not_or] at plain
  simp [readPart, plain]

/-- After a backslash, a character with a meaning of its own is read as itself. -/
theorem readPart_of_isMeta {c : Char} (special : isMeta c = true) (p : Progress)
    (rest : List Char) :
    readPart p ('\\' :: c :: rest) = some (p.push (.literal ⟨c, false⟩), rest) := by
  simp [readPart, readEscape, isEscapable, special, Primitive.toExpr]

/-- An escaped text is read as its literals. -/
theorem reads_escape {p : Progress} (plain : p.extended = false) (text rest : List Char) :
    Reads text.length p (escape text ++ rest) (p.pushAll (literals text)) rest := by
  induction text generalizing p with
  | nil => exact fun _ => rfl
  | cons c text ih =>
    have later := ih (p := p.push (.literal ⟨c, false⟩)) plain
    rw [literals, List.map_cons, Progress.pushAll_cons, ← literals]
    cases special : isMeta c with
    | false =>
      have unescaped : escape (c :: text) ++ rest = c :: (escape text ++ rest) := by
        simp [escape, special]
      rw [unescaped]
      exact (Reads.one plain (readPart_of_not_isMeta special p _)).trans later
    | true =>
      have escaped : escape (c :: text) ++ rest = '\\' :: c :: (escape text ++ rest) := by
        simp [escape, special]
      rw [escaped]
      exact (Reads.one plain (readPart_of_isMeta special p _)).trans later

/-- An escaped text is no shorter than the text. -/
theorem length_le_length_escape (text : List Char) : text.length ≤ (escape text).length := by
  induction text with
  | nil => exact Nat.le_refl 0
  | cons c text ih =>
    rw [escape, List.flatMap_cons, List.length_append, List.length_cons, ← escape]
    split <;> simp only [List.length_cons, List.length_nil] <;> omega

/-- The group of a choice between two texts. -/
def choice (left right : List Char) : Expr :=
  .group (.flags []) (.alternation [.ofParts (literals left), .ofParts (literals right)])

/-- Two escaped texts with a bar between them, in a group, are read as a choice. -/
theorem reads_choice {p : Progress} (plain : p.extended = false) (left right rest : List Char) :
    Reads (1 + (right.length + (1 + (left.length + 1)))) p
      ('(' :: '?' :: ':' :: (escape left ++ '|' :: (escape right ++ ')' :: rest)))
      (p.push (choice left right)) rest := by
  have opens : Reads 1 p
      ('(' :: '?' :: ':' :: (escape left ++ '|' :: (escape right ++ ')' :: rest)))
      (p.openGroup (.flags []) false) (escape left ++ '|' :: (escape right ++ ')' :: rest)) := by
    apply Reads.one plain
    simp [readPart, readGroup, skipFiller, plain, readFlags, FlagChange.value?]
  have first := reads_escape (p := p.openGroup (.flags []) false) rfl left
    ('|' :: (escape right ++ ')' :: rest))
  have bar : Reads 1 _ ('|' :: (escape right ++ ')' :: rest)) _ (escape right ++ ')' :: rest) :=
    Reads.one (p := (p.openGroup (.flags []) false).pushAll (literals left)) rfl rfl
  have second := reads_escape (p := ((p.openGroup (.flags []) false).pushAll
    (literals left)).startBranch) rfl right (')' :: rest)
  have closes : Reads 1 ((((p.openGroup (.flags []) false).pushAll
      (literals left)).startBranch).pushAll (literals right)) (')' :: rest)
      (p.push (choice left right)) rest := by
    apply Reads.one rfl
    simp [readPart, Progress.closeGroup?, Progress.openGroup, Progress.startBranch,
      Progress.pushAll, Progress.current, Progress.push, choice]
  exact (((opens.trans first).trans bar).trans second).trans closes

/-! ## Word boundaries -/

/-- The mark of a word boundary is read as one, unless an opening brace follows it. -/
theorem readPart_boundary {rest : List Char} (bare : rest.head? ≠ some '{') (p : Progress) :
    readPart p ('\\' :: 'b' :: rest) = some (p.push (.anchor .wordBoundary), rest) := by
  have letter : isEscapable 'b' = false := by decide
  have plain (extended : Bool) : readBoundary extended rest = some (.wordBoundary, rest) := by
    unfold readBoundary
    split
    · exact absurd rfl bare
    · rfl
  simp [readPart, readEscape, letter, plain, Primitive.toExpr]

/-- A word boundary is read in one step. -/
theorem reads_boundary {p : Progress} {rest : List Char} (plain : p.extended = false)
    (bare : rest.head? ≠ some '{') :
    Reads 1 p ('\\' :: 'b' :: rest) (p.push (.anchor .wordBoundary)) rest :=
  .one plain (readPart_boundary bare p)

/-- An escaped text before a text that opens with no brace opens with no brace. -/
theorem head?_escape_append_ne {rest : List Char} (bare : rest.head? ≠ some '{')
    (text : List Char) : (escape text ++ rest).head? ≠ some '{' := by
  cases text with
  | nil => exact bare
  | cons c text =>
    rw [escape, List.flatMap_cons, List.append_assoc]
    split
    · simp
    · rename_i plain
      rintro ⟨⟩
      exact plain (by decide)

/-! ## Expressions of parts -/

/-- Literals add no depth. -/
theorem depthOfList_literals_append (text : List Char) (more : List Expr) :
    Expr.depthOfList (literals text ++ more) = Expr.depthOfList more := by
  induction text with
  | nil => rfl
  | cons c text ih =>
    rw [literals, List.map_cons, List.cons_append, Expr.depthOfList, ← literals, ih]
    exact Nat.zero_max _

/-- Literals have no depth. -/
theorem depthOfList_literals (text : List Char) : Expr.depthOfList (literals text) = 0 := by
  have alone := depthOfList_literals_append text []
  rwa [List.append_nil] at alone

/-- A choice between two texts has three levels, at most. -/
theorem depth_choice_le (left right : List Char) : (choice left right).depth ≤ 3 := by
  have flat (text : List Char) : (Expr.ofParts (literals text)).depth ≤ 1 := by
    have depth := Expr.depth_ofParts_le (literals text)
    rwa [depthOfList_literals] at depth
  have := flat left
  have := flat right
  simp only [choice, Expr.depth, Expr.depthOfList]
  omega

/-- The empty text may be left out after an expression. -/
theorem Regex.andThen_empty (r : Regex) : r.andThen .empty = r := by cases r <;> rfl

/-- Several parts as one have the expression of the parts in a row. -/
theorem Expr.regex?_ofParts (f : Flags) (parts : List Expr) :
    (Expr.ofParts parts).regex? f = Expr.allOf? f parts := by
  unfold Expr.ofParts
  split
  · rw [Expr.regex?, Expr.allOf?]
  · rename_i part
    rw [Expr.allOf?]
    cases part.regex? f with
    | none => rfl
    | some found => simp [Expr.allOf?, Regex.andThen_empty]
  · rw [Expr.regex?]

/-- The characters that are the same as the given one when case is ignored. -/
def caseless (c : Char) : CharSet := .ofCodePoints (foldOrbit c.toNat)

/-- The expression of a text whose case is ignored, with what follows it. -/
def caselessText (text : List Char) (rest : Regex) : Regex :=
  text.foldr (fun c r => (Regex.set (caseless c)).andThen r) rest

/-- Literals have the expression of their text. -/
theorem allOf?_literals_append (text : List Char) (more : List Expr) :
    Expr.allOf? TextPattern.initialFlags (literals text ++ more) =
      (Expr.allOf? TextPattern.initialFlags more).map fun (r, after) =>
        (caselessText text r, after) := by
  induction text with
  | nil =>
    rw [literals, List.map_nil, List.nil_append]
    exact Option.map_id'.symm
  | cons c text ih =>
    have head : (Expr.literal ⟨c, false⟩).regex? TextPattern.initialFlags =
        some (.set (caseless c), TextPattern.initialFlags) := rfl
    rw [literals, List.map_cons, List.cons_append, Expr.allOf?, head, ← literals]
    simp only [ih, Option.map_map]
    rfl

/-- Literals by themselves have the expression of their text. -/
theorem allOf?_literals (text : List Char) :
    Expr.allOf? TextPattern.initialFlags (literals text) =
      some (caselessText text .empty, TextPattern.initialFlags) := by
  have := allOf?_literals_append text []
  rwa [List.append_nil] at this

/-- A choice between two texts has the expression of one text or the other. -/
theorem regex?_choice (left right : List Char) :
    (choice left right).regex? TextPattern.initialFlags =
      some (.alt (caselessText left .empty) (caselessText right .empty),
        TextPattern.initialFlags) := by
  simp [choice, Expr.regex?, Flags.change, Expr.anyOf?, Expr.regex?_ofParts, allOf?_literals]

/-! ## Patterns with known parts -/

section Known

variable {pattern : String} {parts : List Expr} {expression : Regex} {after : Flags}

/-- A pattern that is read as parts in a row has their expression, if that is within the limit. -/
theorem regex?_of_parse? (read : Expr.parse? pattern.toList = some (.ofParts parts))
    (meant : Expr.allOf? TextPattern.initialFlags parts = some (expression, after)) :
    TextPattern.regex? pattern = if expression.fits then some expression else none := by
  simp only [TextPattern.regex?, read, Option.bind_eq_bind, Option.bind_some,
    Expr.regex?_ofParts, meant]

/-- A pattern whose expression is within the limit is searched for as this expression. -/
theorem compile_of_fits
    (known : TextPattern.regex? pattern = if expression.fits then some expression else none)
    (fits : expression.fits = true) : TextPattern.compile pattern = .regex pattern expression := by
  rw [TextPattern.compile, known, if_pos fits]

/-- A pattern that is not searched for literally is searched for as its expression. -/
theorem compile_of_not_isLiteral
    (known : TextPattern.regex? pattern = if expression.fits then some expression else none)
    (regular : (TextPattern.compile pattern).isLiteral = false) :
    TextPattern.compile pattern = .regex pattern expression := by
  apply compile_of_fits known
  rw [← Bool.not_eq_false]
  intro large
  rw [TextPattern.compile, known, large] at regular
  exact Bool.noConfusion regular

end Known

end Deckwright.Pattern
