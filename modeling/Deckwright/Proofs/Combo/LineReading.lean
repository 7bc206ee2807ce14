import Deckwright.Proofs.Combo.Lines
import Deckwright.Proofs.Unicode.Blank

/-!
# Reading combos line by line

A file of combos is a run of lines, each with a mark at its end but perhaps the last. A line is
blank, holds a combo, or offends: it is no text, or its text is no combo. Lines are read one after
the other. The first one that offends decides the failure, whatever stands after it, and a failure
to parse names the place of the line among all lines, blank ones included
(`readLines_of_first_problem`). So blank lines that are put into a file do not change the corpus,
and only raise the number of a line that they stand before (`readLines_insert_blanks`).
-/

namespace Deckwright

/-! ## Files of lines -/

/-- A line with the mark at its end. -/
structure EndedLine where
  /-- The bytes of the line. -/
  bytes : List UInt8
  /-- The mark. -/
  mark : LineEnd
  /-- The mark is found where it stands. -/
  found : mark.FoundAfter bytes

/-- A file of lines: lines with marks, and a last one without, which is none if it is empty. -/
structure LineFile where
  /-- The lines with marks. -/
  ended : List EndedLine
  /-- What follows the last mark. -/
  last : List UInt8
  /-- No mark follows the last mark. -/
  unbroken : 10 ∉ last

namespace EndedLine

/-- The bytes of the line and of its mark. -/
def written (line : EndedLine) : List UInt8 := line.bytes ++ bytesOf line.mark.text

/-- An empty line with a line feed. -/
def lineFeed : EndedLine := ⟨[], .lineFeed, by simp [LineEnd.FoundAfter]⟩

/-- A byte that is no line feed, put before a line, makes a longer line, or is the carriage return
of its mark. -/
theorem exists_written_cons {b : UInt8} (other : b ≠ 10) (line : EndedLine) :
    ∃ longer : EndedLine, longer.written = b :: line.written := by
  obtain ⟨bytes, mark, unbroken, unmarked⟩ := line
  have longer : 10 ∉ b :: bytes := by
    rw [List.mem_cons, not_or]
    exact ⟨Ne.symm other, unbroken⟩
  by_cases taken : mark = .lineFeed ∧ (b :: bytes).getLast? = some 13
  · obtain ⟨rfl, last⟩ := taken
    cases bytes with
    | nil =>
      obtain rfl : b = 13 := Option.some.inj last
      refine ⟨⟨[], .carriageReturn, by simp [LineEnd.FoundAfter]⟩, ?_⟩
      rw [written, written, LineEnd.bytesOf_carriageReturn, LineEnd.bytesOf_lineFeed]
      rfl
    | cons c bytes =>
      rw [List.getLast?_cons_cons] at last
      exact absurd last (unmarked rfl)
  · exact ⟨⟨b :: bytes, mark, longer, fun same last => taken ⟨same, last⟩⟩, rfl⟩

end EndedLine

namespace LineFile

variable (file : LineFile)

/-- The bytes of the file. -/
def bytes : List UInt8 := file.ended.flatMap EndedLine.written ++ file.last

/-- What the file holds. -/
def content : ByteArray := ⟨file.bytes.toArray⟩

/-- The lines of the file, without their marks. -/
def lines : List (List UInt8) :=
  file.ended.map EndedLine.bytes ++ if file.last = [] then [] else [file.last]

/-- Any bytes are those of a file of lines. -/
theorem exists_bytes_eq (bytes : List UInt8) : ∃ file : LineFile, file.bytes = bytes := by
  induction bytes with
  | nil => exact ⟨⟨[], [], List.not_mem_nil⟩, rfl⟩
  | cons b bytes ih =>
    obtain ⟨⟨ended, last, unbroken⟩, rfl⟩ := ih
    by_cases feed : b = 10
    · subst feed
      exact ⟨⟨.lineFeed :: ended, last, unbroken⟩, rfl⟩
    · cases ended with
      | nil =>
        refine ⟨⟨[], b :: last, ?_⟩, rfl⟩
        rw [List.mem_cons, not_or]
        exact ⟨Ne.symm feed, unbroken⟩
      | cons line ended =>
        obtain ⟨longer, written⟩ := line.exists_written_cons feed
        refine ⟨⟨longer :: ended, last, unbroken⟩, ?_⟩
        simp only [LineFile.bytes, List.flatMap_cons, written, List.cons_append]

/-- Whatever a file holds, it is a file of lines. -/
theorem exists_content_eq (content : ByteArray) : ∃ file : LineFile, file.content = content := by
  obtain ⟨file, same⟩ := exists_bytes_eq content.data.toList
  exact ⟨file, by rw [LineFile.content, same]⟩

/-- The lines of a file are cut out of its bytes. -/
theorem linesFrom_bytes : ComboCorpus.linesFrom [] file.bytes = file.lines := by
  obtain ⟨ended, last, unbroken⟩ := file
  simp only [bytes, lines]
  induction ended with
  | nil =>
    split
    · rename_i none
      rw [none]
      rfl
    · rename_i some
      exact ComboCorpus.linesFrom_last unbroken some
  | cons line ended ih =>
    rw [List.flatMap_cons, EndedLine.written, List.append_assoc, List.append_assoc,
      ComboCorpus.linesFrom_ended line.found, ih]
    rfl

/-- A corpus is read from a file by its lines. -/
theorem ofLines_content :
    ComboCorpus.ofLines file.content =
      (ComboCorpus.readLines 1 file.lines).map ComboCorpus.ofList := by
  rw [ComboCorpus.ofLines, toList_eq_toList_data, content, List.toList_toArray, linesFrom_bytes]
  cases ComboCorpus.readLines 1 file.lines <;> rfl

end LineFile

/-! ## What a line holds -/

/-- Bytes are those of the text that is read from them. -/
theorem eq_bytesOf_of_textOf {line : List UInt8} {text : String}
    (read : StoredFile.textOf ⟨line.toArray⟩ = .ok text) : line = bytesOf text := by
  by_cases valid : (⟨line.toArray⟩ : ByteArray).IsValidUTF8
  · have whole : String.fromUTF8? ⟨line.toArray⟩ = some ⟨⟨line.toArray⟩, valid⟩ := dif_pos valid
    rw [StoredFile.textOf, whole] at read
    cases read
    rw [← toList_toUTF8, toList_eq_toList_data]
    rfl
  · have none : String.fromUTF8? ⟨line.toArray⟩ = none := dif_neg valid
    rw [StoredFile.textOf, none] at read
    cases read

/-- The bytes of a line are those of no text. -/
def IsNoText (line : List UInt8) : Prop := ∀ text : String, line ≠ bytesOf text

/-- The line is a text of blanks only. -/
def IsBlankLine (line : List UInt8) : Prop :=
  ∃ text : String, line = bytesOf text ∧ ∀ c ∈ text.toList, Unicode.isBlank c = true

/-- The line is a text that is not blank, and what stands between the blanks at its ends is read
with the given result. -/
def ReadsAs (line : List UInt8) (result : Except Json.Problem Combo) : Prop :=
  ∃ text : String, line = bytesOf text ∧ (∃ c ∈ text.toList, Unicode.isBlank c = false) ∧
    Json.readWhole Combo.read (String.ofList (Unicode.trimBlanks text.toList)) = result

/-- The line is blank or holds a combo. -/
def IsAcceptable (line : List UInt8) : Prop :=
  IsBlankLine line ∨ ∃ combo, ReadsAs line (.ok combo)

/-- The lines hold the combos in order, with blank lines among them. -/
inductive HoldInOrder : List (List UInt8) → List Combo → Prop where
  /-- No lines hold no combos. -/
  | nil : HoldInOrder [] []
  /-- A blank line holds none. -/
  | blank {line : List UInt8} {lines : List (List UInt8)} {combos : List Combo}
    (blank : IsBlankLine line) (later : HoldInOrder lines combos) :
    HoldInOrder (line :: lines) combos
  /-- A line that is read as a combo holds it. -/
  | combo {line : List UInt8} {lines : List (List UInt8)} {combo : Combo} {combos : List Combo}
    (read : ReadsAs line (.ok combo)) (later : HoldInOrder lines combos) :
    HoldInOrder (line :: lines) (combo :: combos)

/-- A line is no text, a blank one, or read with a result. -/
theorem line_cases (line : List UInt8) :
    IsNoText line ∨ IsBlankLine line ∨ ∃ result, ReadsAs line result := by
  by_cases among : ∃ text : String, line = bytesOf text
  · obtain ⟨text, rfl⟩ := among
    right
    by_cases blank : ∀ c ∈ text.toList, Unicode.isBlank c = true
    · exact .inl ⟨text, rfl, blank⟩
    · simp only [not_forall, Bool.not_eq_true] at blank
      obtain ⟨c, mem, shown⟩ := blank
      exact .inr ⟨_, text, rfl, ⟨c, mem, shown⟩, rfl⟩
  · exact .inl fun text same => among ⟨text, same⟩

/-- Lines that are each blank or hold a combo hold combos in order. -/
theorem exists_holdInOrder {lines : List (List UInt8)} (fine : ∀ line ∈ lines, IsAcceptable line) :
    ∃ combos, HoldInOrder lines combos := by
  induction lines with
  | nil => exact ⟨[], .nil⟩
  | cons line lines ih =>
    rw [List.forall_mem_cons] at fine
    obtain ⟨combos, later⟩ := ih fine.2
    rcases fine.1 with blank | ⟨combo, read⟩
    · exact ⟨combos, .blank blank later⟩
    · exact ⟨combo :: combos, .combo read later⟩

/-! ## One line after the other -/

namespace ComboCorpus

/-- A line that is no text is the failure. -/
theorem readLines_of_noText {line : List UInt8} (broken : IsNoText line) (number : Nat)
    (lines : List (List UInt8)) : readLines number (line :: lines) = .error (.file .notText) := by
  rw [readLines]
  cases read : StoredFile.textOf ⟨line.toArray⟩ with
  | error failure =>
    rw [StoredFile.textOf] at read
    split at read
    · cases read
    · cases read
      rfl
  | ok text => exact absurd (eq_bytesOf_of_textOf read) (broken text)

/-- A blank line is passed over, and counted. -/
theorem readLines_of_blank {line : List UInt8} (blank : IsBlankLine line) (number : Nat)
    (lines : List (List UInt8)) :
    readLines number (line :: lines) = readLines (number + 1) lines := by
  obtain ⟨text, rfl, blank⟩ := blank
  have none : Unicode.trimBlanks text.toList = [] := Unicode.trimBlanks_eq_nil_iff.2 blank
  rw [readLines, textOf_bytesOf]
  simp only [bind, Except.bind, none, List.isEmpty_nil, if_true]

/-- A text that is not blank is read before the other lines. -/
theorem readLines_of_shown {text : String} (shown : ∃ c ∈ text.toList, Unicode.isBlank c = false)
    (number : Nat) (lines : List (List UInt8)) :
    readLines number (bytesOf text :: lines) =
      match Json.readWhole Combo.read (String.ofList (Unicode.trimBlanks text.toList)) with
      | .ok combo => (readLines (number + 1) lines).map (combo :: ·)
      | .error problem => .error (.parse (.comboLine number problem)) := by
  obtain ⟨c, mem, shown⟩ := shown
  have some : (Unicode.trimBlanks text.toList).isEmpty = false := by
    rw [← Bool.not_eq_true, List.isEmpty_iff, Unicode.trimBlanks_eq_nil_iff]
    intro blank
    rw [blank c mem] at shown
    cases shown
  rw [readLines, textOf_bytesOf]
  simp only [bind, Except.bind, some, Bool.false_eq_true, if_false]
  cases Json.readWhole Combo.read (String.ofList (Unicode.trimBlanks text.toList)) with
  | error problem => rfl
  | ok combo => cases readLines (number + 1) lines <;> rfl

/-- The combo of a line stands before those of the other lines. -/
theorem readLines_of_combo {line : List UInt8} {combo : Combo} (read : ReadsAs line (.ok combo))
    (number : Nat) (lines : List (List UInt8)) :
    readLines number (line :: lines) = (readLines (number + 1) lines).map (combo :: ·) := by
  obtain ⟨text, rfl, shown, result⟩ := read
  rw [readLines_of_shown shown, result]

/-- The problem of a line is the failure, with the number of the line. -/
theorem readLines_of_problem {line : List UInt8} {problem : Json.Problem}
    (read : ReadsAs line (.error problem)) (number : Nat) (lines : List (List UInt8)) :
    readLines number (line :: lines) = .error (.parse (.comboLine number problem)) := by
  obtain ⟨text, rfl, shown, result⟩ := read
  rw [readLines_of_shown shown, result]

/-- After lines that hold combos, the others are read with these combos before theirs. -/
theorem readLines_append {before : List (List UInt8)} {combos : List Combo}
    (hold : HoldInOrder before combos) (number : Nat) (after : List (List UInt8)) :
    readLines number (before ++ after) =
      (readLines (number + before.length) after).map (combos ++ ·) := by
  induction hold generalizing number with
  | nil =>
    rw [List.nil_append, List.length_nil, Nat.add_zero]
    cases readLines number after <;> rfl
  | blank blank _ ih =>
    rw [List.cons_append, readLines_of_blank blank, ih, List.length_cons, Nat.add_assoc,
      Nat.add_comm 1]
  | combo read _ ih =>
    rw [List.cons_append, readLines_of_combo read, ih, List.length_cons, Nat.add_assoc,
      Nat.add_comm 1]
    cases readLines _ after <;> rfl

/-- Lines that hold combos are read as these combos. -/
theorem readLines_of_holdInOrder {lines : List (List UInt8)} {combos : List Combo}
    (hold : HoldInOrder lines combos) (number : Nat) : readLines number lines = .ok combos := by
  have whole := readLines_append hold number []
  rw [List.append_nil] at whole
  rw [whole, readLines, Except.map, List.append_nil]

/-- A line that is no text, after lines that hold combos, is the failure. -/
theorem readLines_of_first_noText {before : List (List UInt8)}
    (fine : ∀ line ∈ before, IsAcceptable line) {line : List UInt8} (broken : IsNoText line)
    (number : Nat) (after : List (List UInt8)) :
    readLines number (before ++ line :: after) = .error (.file .notText) := by
  obtain ⟨combos, hold⟩ := exists_holdInOrder fine
  rw [readLines_append hold, readLines_of_noText broken]
  rfl

/-- The problem of a line after lines that hold combos is the failure, with the place of the line
among all lines. -/
theorem readLines_of_first_problem {before : List (List UInt8)}
    (fine : ∀ line ∈ before, IsAcceptable line) {line : List UInt8} {problem : Json.Problem}
    (read : ReadsAs line (.error problem)) (number : Nat) (after : List (List UInt8)) :
    readLines number (before ++ line :: after) =
      .error (.parse (.comboLine (number + before.length) problem)) := by
  obtain ⟨combos, hold⟩ := exists_holdInOrder fine
  rw [readLines_append hold, readLines_of_problem read]
  rfl

end ComboCorpus

/-! ## Blank lines put into a file -/

/-- The failure with the number of its line raised, if that is beyond the given one. -/
def Failure.raiseLine (beyond count : Nat) : Failure → Failure
  | .parse (.comboLine line problem) =>
    .parse (.comboLine (if beyond < line then line + count else line) problem)
  | failure => failure

namespace ComboCorpus

/-- Lines with higher numbers are read in the same way, but for the number in a failure. -/
theorem readLines_add (count : Nat) {beyond number : Nat} (further : beyond < number)
    (lines : List (List UInt8)) :
    readLines (number + count) lines =
      (readLines number lines).mapError (Failure.raiseLine beyond count) := by
  induction lines generalizing number with
  | nil => rfl
  | cons line lines ih =>
    have later := ih (show beyond < number + 1 by omega)
    rw [Nat.add_right_comm] at later
    rcases line_cases line with broken | blank | ⟨problem | combo, read⟩
    · rw [readLines_of_noText broken, readLines_of_noText broken]
      rfl
    · rw [readLines_of_blank blank, readLines_of_blank blank, later]
    · rw [readLines_of_problem read, readLines_of_problem read, Except.mapError,
        Failure.raiseLine, if_pos further]
    · rw [readLines_of_combo read, readLines_of_combo read, later]
      cases readLines (number + 1) lines <;> rfl

/-- Blank lines that are put in between change nothing but the number of a line after them. -/
theorem readLines_insert_blanks {blanks : List (List UInt8)}
    (blank : ∀ line ∈ blanks, IsBlankLine line) (start : Nat)
    (before after : List (List UInt8)) :
    readLines (start + 1) (before ++ blanks ++ after) =
      (readLines (start + 1) (before ++ after)).mapError
        (Failure.raiseLine (start + before.length) blanks.length) := by
  induction before generalizing start with
  | nil =>
    have none : HoldInOrder blanks [] := by
      induction blanks with
      | nil => exact .nil
      | cons line blanks ih =>
        rw [List.forall_mem_cons] at blank
        exact .blank blank.1 (ih blank.2)
    rw [List.nil_append, List.nil_append, List.length_nil, readLines_append none,
      readLines_add _ (Nat.lt_succ_self start)]
    cases readLines (start + 1) after <;> rfl
  | cons line before ih =>
    have later := ih (start + 1)
    rw [Nat.add_right_comm start 1 before.length] at later
    rw [List.cons_append, List.cons_append, List.cons_append, List.length_cons, ← Nat.add_assoc]
    rcases line_cases line with broken | blank | ⟨problem | combo, read⟩
    · rw [readLines_of_noText broken, readLines_of_noText broken]
      rfl
    · rw [readLines_of_blank blank, readLines_of_blank blank, later]
    · have near : ¬start + before.length + 1 < start + 1 := by omega
      rw [readLines_of_problem read, readLines_of_problem read, Except.mapError,
        Failure.raiseLine, if_neg near]
    · rw [readLines_of_combo read, readLines_of_combo read, later]
      cases readLines (start + 1 + 1) (before ++ after) <;> rfl

/-- The wording of a failure to parse a line tells the number of the line. -/
theorem message_comboLine (number : Nat) (problem : Json.Problem) :
    (Failure.parse (.comboLine number problem)).message =
      "Parse error: Failed to parse combo on line " ++ toString number ++ ": " ++
        problem.message := by
  have start : "Parse error: Failed to parse combo on line " =
      "Parse error: " ++ "Failed to parse combo on line " := by decide
  calc (Failure.parse (.comboLine number problem)).message
      = "Parse error: " ++
          ("Failed to parse combo on line " ++ toString number ++ ": " ++ problem.message) := rfl
    _ = "Parse error: Failed to parse combo on line " ++ toString number ++ ": " ++
          problem.message := by
      rw [start]
      simp only [String.append_assoc]

/-- Whatever a file holds, it is a file of lines. If its lines are each blank or hold a combo, it is
read as the corpus of these combos, in the order of the lines. Any other file is refused for its
first line that offends, whatever stands after it: because the line is no text, or for the problem
of its text, with the place of the line among all lines, counted from one. Blank lines that are put
into a file change nothing but the number of a line that they stand before. -/
theorem ofLines_decided_by_first_offence :
    (∀ content : ByteArray, ∃ file : LineFile, file.content = content) ∧
    ∀ file : LineFile,
      ((∀ line ∈ file.lines, IsAcceptable line) →
        ∃ combos, HoldInOrder file.lines combos ∧ ofLines file.content = .ok (ofList combos)) ∧
      (∀ before line after, file.lines = before ++ line :: after →
        (∀ earlier ∈ before, IsAcceptable earlier) →
        (IsNoText line → ofLines file.content = .error (.file .notText)) ∧
        ∀ problem, ReadsAs line (.error problem) →
          ∃ failure, ofLines file.content = .error failure ∧
            failure = .parse (.comboLine (before.length + 1) problem) ∧
            failure.message = "Parse error: Failed to parse combo on line " ++
              toString (before.length + 1) ++ ": " ++ problem.message) ∧
      (∀ line ∈ file.lines,
        IsAcceptable line ∨ IsNoText line ∨ ∃ problem, ReadsAs line (.error problem)) ∧
      ∀ (before blanks after : List (List UInt8)) (longer : LineFile),
        file.lines = before ++ after → longer.lines = before ++ blanks ++ after →
        (∀ line ∈ blanks, IsBlankLine line) →
        ofLines longer.content =
          (ofLines file.content).mapError (Failure.raiseLine before.length blanks.length) := by
  refine ⟨LineFile.exists_content_eq, fun file => ⟨?_, ?_, ?_, ?_⟩⟩
  · intro fine
    obtain ⟨combos, hold⟩ := exists_holdInOrder fine
    refine ⟨combos, hold, ?_⟩
    rw [file.ofLines_content, readLines_of_holdInOrder hold]
    rfl
  · intro before line after lines fine
    rw [file.ofLines_content, lines]
    constructor
    · intro broken
      rw [readLines_of_first_noText fine broken]
      rfl
    · intro problem read
      refine ⟨_, ?_, rfl, message_comboLine _ problem⟩
      rw [readLines_of_first_problem fine read, Nat.add_comm 1]
      rfl
  · intro line _
    rcases line_cases line with broken | blank | ⟨problem | combo, read⟩
    · exact .inr (.inl broken)
    · exact .inl (.inl blank)
    · exact .inr (.inr ⟨problem, read⟩)
    · exact .inl (.inr ⟨combo, read⟩)
  · intro before blanks after longer lines longerLines blank
    have inserted := readLines_insert_blanks blank 0 before after
    rw [Nat.zero_add, Nat.zero_add] at inserted
    rw [longer.ofLines_content, file.ofLines_content, longerLines, lines, inserted]
    cases readLines 1 (before ++ after) <;> rfl

end ComboCorpus

end Deckwright
