import Deckwright.Combo.Corpus

/-!
# Lines of a file

A file is cut into lines at its bytes, before it is known to be text. A line that holds no line
feed, and no carriage return where its mark could be taken for another one, comes out as it went
in. In UTF-8 a byte of a control character stands only for that character, so the lines of a text
are found among its bytes.
-/

namespace Deckwright

/-! ## Bytes -/

/-- The bytes of an array from one on are that byte and those after it. -/
theorem drop_toList_data {content : ByteArray} {start : Nat} (inside : start < content.size) :
    content.data.toList.drop start =
      content.get! start :: content.data.toList.drop (start + 1) := by
  have bound : start < content.data.size := inside
  have byte : content.get! start = content.data[start] := getElem!_pos content.data start bound
  rw [List.drop_eq_getElem_cons (by simpa using bound), byte, Array.getElem_toList]

/-- The bytes of an array, read one after another, are its list. -/
theorem toList_eq_toList_data (content : ByteArray) : content.toList = content.data.toList := by
  -- The array is read upwards, so the induction is on the number of bytes left.
  have run (left start : Nat) (read : List UInt8) (remaining : content.size - start = left) :
      ByteArray.toList.loop content start read =
        read.reverse ++ content.data.toList.drop start := by
    induction left generalizing start read with
    | zero =>
      have done : ¬start < content.size := by omega
      have empty : content.data.toList.drop start = [] :=
        List.drop_eq_nil_of_le (by simpa using Nat.le_of_not_lt done)
      rw [ByteArray.toList.loop, if_neg done, empty, List.append_nil]
    | succ left ih =>
      have inside : start < content.size := by omega
      rw [ByteArray.toList.loop, if_pos inside, ih _ _ (by omega), drop_toList_data inside,
        List.reverse_cons, List.append_assoc, List.singleton_append]
  exact run content.size 0 [] rfl

/-- The bytes of a text. -/
def bytesOf (text : String) : List UInt8 := text.toList.flatMap String.utf8EncodeChar

/-- The bytes of a text are those of its UTF-8 form. -/
theorem toList_toUTF8 (text : String) : text.toUTF8.toList = bytesOf text := by
  rw [toList_eq_toList_data, String.toUTF8_eq_toByteArray, ← String.utf8Encode_toList,
    List.utf8Encode, List.toList_data_toByteArray, bytesOf]

/-- The bytes of texts in a row. -/
theorem bytesOf_append (text more : String) :
    bytesOf (text ++ more) = bytesOf text ++ bytesOf more := by
  rw [bytesOf, String.toList_append, List.flatMap_append, bytesOf, bytesOf]

/-- A text that is not empty has bytes. -/
theorem bytesOf_ne_nil {text : String} (nonempty : text.toList ≠ []) : bytesOf text ≠ [] := by
  cases chars : text.toList with
  | nil => exact absurd chars nonempty
  | cons c rest =>
    rw [bytesOf, chars, List.flatMap_cons]
    exact List.append_ne_nil_of_left_ne_nil String.utf8EncodeChar_ne_nil _

/-- The bytes of a text are read as the text. -/
theorem textOf_bytesOf (text : String) :
    StoredFile.textOf ⟨(bytesOf text).toArray⟩ = .ok text := by
  have whole : (⟨(bytesOf text).toArray⟩ : ByteArray) = text.toByteArray := by
    rw [← toList_toUTF8, toList_eq_toList_data]
    rfl
  have valid : text.toByteArray.IsValidUTF8 := text.isValidUTF8
  have read : String.fromUTF8? text.toByteArray = some text := dif_pos valid
  rw [StoredFile.textOf, whole, read]

/-- A byte of a control character stands for no other character. -/
theorem mem_utf8EncodeChar_of_control {c : Char} {b : UInt8} (control : b.toNat < 0x20)
    (mem : b ∈ String.utf8EncodeChar c) : c.toNat = b.toNat := by
  simp only [String.utf8EncodeChar] at mem
  split at mem
  · rename_i single
    rw [List.mem_singleton.1 mem]
    exact (Nat.mod_eq_of_lt (Nat.lt_of_le_of_lt single (by decide))).symm
  · exfalso
    have high (n : Nat) (large : 0x80 ≤ n % 0x100) : b ≠ UInt8.ofNat n := by
      rintro rfl
      rw [UInt8.toNat_ofNat'] at control
      omega
    split at mem
    · simp only [List.mem_cons, List.not_mem_nil, or_false] at mem
      rcases mem with same | same <;> exact high _ (by omega) same
    split at mem
    · simp only [List.mem_cons, List.not_mem_nil, or_false] at mem
      rcases mem with same | same | same <;> exact high _ (by omega) same
    · simp only [List.mem_cons, List.not_mem_nil, or_false] at mem
      rcases mem with same | same | same | same <;> exact high _ (by omega) same

/-- A text without control characters has no bytes of control characters. -/
theorem not_mem_bytesOf {text : String} (shown : ∀ c ∈ text.toList, 0x20 ≤ c.toNat) {b : UInt8}
    (control : b.toNat < 0x20) : b ∉ bytesOf text := by
  intro mem
  obtain ⟨c, among, part⟩ := List.mem_flatMap.1 mem
  have same := mem_utf8EncodeChar_of_control control part
  have bound := shown c among
  omega

/-! ## Lines -/

/-- A mark at the end of a line. -/
inductive LineEnd where
  /-- A line feed. -/
  | lineFeed
  /-- A carriage return and a line feed. -/
  | carriageReturn
  deriving DecidableEq, Repr

namespace LineEnd

/-- The text of the mark. -/
def text : LineEnd → String
  | .lineFeed => "\n"
  | .carriageReturn => "\r\n"

/-- A line feed is one byte. -/
theorem bytesOf_lineFeed : bytesOf lineFeed.text = [10] := by decide

/-- A carriage return and a line feed are two bytes. -/
theorem bytesOf_carriageReturn : bytesOf carriageReturn.text = [13, 10] := by decide

/-- The mark is found after a line: the line has no line feed, and no carriage return at its end
that a line feed would take for its own. -/
def FoundAfter (mark : LineEnd) (line : List UInt8) : Prop :=
  10 ∉ line ∧ (mark = .lineFeed → line.getLast? ≠ some 13)

/-- Each mark is found after a text without control characters. -/
theorem foundAfter_of_shown {text : String} (shown : ∀ c ∈ text.toList, 0x20 ≤ c.toNat)
    (mark : LineEnd) : mark.FoundAfter (bytesOf text) := by
  refine ⟨not_mem_bytesOf shown (by decide), fun _ last => ?_⟩
  exact not_mem_bytesOf shown (by decide) (List.mem_of_getLast? last)

end LineEnd

namespace ComboCorpus

/-- A byte that is no line feed belongs to the line it stands on. -/
theorem linesFrom_cons {b : UInt8} (other : b ≠ 10) (line rest : List UInt8) :
    linesFrom line (b :: rest) = linesFrom (b :: line) rest := by
  rw [linesFrom.eq_def]
  exact if_neg other

/-- Bytes that are no line feeds belong to the line they stand on. -/
theorem linesFrom_append {bytes : List UInt8} (unbroken : 10 ∉ bytes) (line rest : List UInt8) :
    linesFrom line (bytes ++ rest) = linesFrom (bytes.reverse ++ line) rest := by
  induction bytes generalizing line with
  | nil => rfl
  | cons b bytes ih =>
    rw [List.mem_cons, not_or] at unbroken
    rw [List.cons_append, linesFrom_cons (Ne.symm unbroken.1), ih unbroken.2, List.reverse_cons,
      List.append_assoc, List.singleton_append]

/-- A line feed ends a line. -/
theorem linesFrom_lineFeed {line : List UInt8} (unmarked : line.head? ≠ some 13)
    (rest : List UInt8) : linesFrom line (10 :: rest) = line.reverse :: linesFrom [] rest := by
  rw [linesFrom.eq_def]
  simp only [if_true]
  split
  · exact absurd rfl unmarked
  · rfl

/-- A carriage return and a line feed end a line. -/
theorem linesFrom_carriageReturn (line rest : List UInt8) :
    linesFrom line (13 :: 10 :: rest) = line.reverse :: linesFrom [] rest := by
  rw [linesFrom_cons (by decide), linesFrom.eq_def]
  rfl

/-- A line with its mark is the first line of a file. -/
theorem linesFrom_ended {line : List UInt8} {mark : LineEnd} (found : mark.FoundAfter line)
    (rest : List UInt8) :
    linesFrom [] (line ++ (bytesOf mark.text ++ rest)) = line :: linesFrom [] rest := by
  obtain ⟨unbroken, unmarked⟩ := found
  rw [linesFrom_append unbroken, List.append_nil]
  cases mark with
  | lineFeed =>
    have bare : line.reverse.head? ≠ some 13 := by
      rw [List.head?_reverse]
      exact unmarked rfl
    rw [LineEnd.bytesOf_lineFeed, List.singleton_append, linesFrom_lineFeed bare,
      List.reverse_reverse]
  | carriageReturn =>
    rw [LineEnd.bytesOf_carriageReturn, List.cons_append, List.singleton_append,
      linesFrom_carriageReturn, List.reverse_reverse]

/-- A last line needs no mark. -/
theorem linesFrom_last {line : List UInt8} (unbroken : 10 ∉ line) (nonempty : line ≠ []) :
    linesFrom [] line = [line] := by
  have whole := linesFrom_append unbroken [] []
  rw [List.append_nil, List.append_nil] at whole
  rw [whole, linesFrom, List.reverse_reverse, List.isEmpty_reverse, if_neg]
  rwa [List.isEmpty_iff]

/-- Lines that each have a mark come out of a file as they went in. -/
theorem linesFrom_join {mark : LineEnd} {lines : List String}
    (found : ∀ line ∈ lines, mark.FoundAfter (bytesOf line)) :
    linesFrom [] (bytesOf (String.join (lines.map fun line => line ++ mark.text))) =
      lines.map bytesOf := by
  induction lines with
  | nil => rfl
  | cons line lines ih =>
    have tail := ih fun line mem => found line (List.mem_cons_of_mem _ mem)
    rw [List.map_cons, String.join_cons, bytesOf_append, bytesOf_append, List.append_assoc,
      linesFrom_ended (found line List.mem_cons_self), tail, List.map_cons]

/-- Lines with marks between them come out of a file as they went in, if none is empty. -/
theorem linesFrom_intercalate {mark : LineEnd} {lines : List String}
    (found : ∀ line ∈ lines, mark.FoundAfter (bytesOf line))
    (nonempty : ∀ line ∈ lines, line.toList ≠ []) :
    linesFrom [] (bytesOf (mark.text.intercalate lines)) = lines.map bytesOf := by
  induction lines with
  | nil => rfl
  | cons line lines ih =>
    have tail := ih (fun line mem => found line (List.mem_cons_of_mem _ mem))
      fun line mem => nonempty line (List.mem_cons_of_mem _ mem)
    have first := found line List.mem_cons_self
    cases lines with
    | nil =>
      have filled := bytesOf_ne_nil (nonempty line List.mem_cons_self)
      exact linesFrom_last first.1 filled
    | cons next lines =>
      rw [String.intercalate_cons_cons, bytesOf_append, bytesOf_append, List.append_assoc,
        linesFrom_ended first, tail]
      rfl

end ComboCorpus

end Deckwright
