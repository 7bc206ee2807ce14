import Deckwright.Json.Reader
import Deckwright.Json.Value

/-!
# Tokens of a written value

The text of a value is read as the tokens of the value (`Value.tokens_write`): each text as it was
before its characters were escaped, and each number of a word as itself. Tokens are read one by one
from the front, so the statement goes by induction on the value, for any text that follows it. A
number is the one token that does not tell where it ends, and a comma, a closing mark or the end of
the text has to follow it (`EndsNumber`). The text has no control characters, so it stands on one
line.
-/

namespace Deckwright.Json

/-! ## Quoted texts -/

/-- A hexadecimal digit has the value it was written for. -/
theorem hexValue?_hexDigit : ∀ n, n < 16 → hexValue? (hexDigit n) = some n := by
  decide

/-- An escape of a control character is read as the number of the character. -/
theorem readHex_hexDigits {n : Nat} (control : n < 0x20) (rest : List Char) :
    readHex ('0' :: '0' :: hexDigit (n / 16) :: hexDigit (n % 16) :: rest) = .ok n := by
  have high : hexValue? (hexDigit (n / 16)) = some (n / 16) := hexValue?_hexDigit _ (by omega)
  have low : hexValue? (hexDigit (n % 16)) = some (n % 16) := hexValue?_hexDigit _ (by omega)
  have zero : hexValue? '0' = some 0 := rfl
  have digits : ['0', '0', hexDigit (n / 16), hexDigit (n % 16)].mapM hexValue? =
      some [0, 0, n / 16, n % 16] := by
    simp [List.mapM_cons, zero, high, low]
  have four : ('0' :: '0' :: hexDigit (n / 16) :: hexDigit (n % 16) :: rest).take 4 =
      ['0', '0', hexDigit (n / 16), hexDigit (n % 16)] := rfl
  rw [readHex, four, digits]
  simp only [Except.ok.injEq]
  omega

/-- The mark at the end of a text is read as the end of it. -/
theorem readText_quote (read rest : List Char) :
    readText (.ok read) none ('"' :: rest) =
      (.text (.ok (String.ofList read.reverse)) none, rest) := by
  rw [readText.eq_def]
  rfl

/-- A one-letter escape is read as its character. -/
theorem readText_shortEscape {c d : Char} (short : shortEscape? c = some d)
    (read rest : List Char) :
    readText (.ok read) none ('\\' :: c :: rest) = readText (.ok (d :: read)) none rest := by
  have other : c ≠ 'u' := by
    rintro rfl
    have none : shortEscape? 'u' = none := rfl
    rw [none] at short
    cases short
  rw [readText.eq_def]
  simp [short, TextSoFar.push, Except.map]

/-- A character that needs no escape is read as it is. -/
theorem readText_plain {c : Char} (quote : c ≠ '"') (backslash : c ≠ '\\')
    (shown : 0x20 ≤ c.toNat) (read rest : List Char) :
    readText (.ok read) none (c :: rest) = readText (.ok (c :: read)) none rest := by
  rw [readText.eq_def]
  simp [quote, Nat.not_lt.2 shown, TextSoFar.push, Except.map]

/-- A control character is read from its number. -/
theorem readText_numbered {c : Char} (control : c.toNat < 0x20) (read rest : List Char) :
    readText (.ok read) none
        ('\\' :: 'u' :: '0' :: '0' :: hexDigit (c.toNat / 16) :: hexDigit (c.toNat % 16) :: rest) =
      readText (.ok (c :: read)) none rest := by
  have first : isFirstHalf c.toNat = false := by
    rw [isFirstHalf, decide_eq_false (by omega), Bool.false_and]
  have second : isSecondHalf c.toNat = false := by
    rw [isSecondHalf, decide_eq_false (by omega), Bool.false_and]
  rw [readText.eq_def]
  simp only [readHex_hexDigits control, first, second]
  simp [TextSoFar.push, Except.map]

/-- A character is read as it was before it was escaped. -/
theorem readText_writeChar (c : Char) (read rest : List Char) :
    readText (.ok read) none (writeChar c ++ rest) = readText (.ok (c :: read)) none rest := by
  rw [writeChar]
  split
  · rename_i quote
    subst quote
    exact readText_shortEscape rfl read rest
  split
  · rename_i backslash
    subst backslash
    exact readText_shortEscape rfl read rest
  split
  · rename_i quote backslash shown
    exact readText_plain quote backslash shown read rest
  rename_i control
  -- Five control characters have an escape of one letter.
  repeat
    split
    · rename_i letter
      subst letter
      exact readText_shortEscape rfl read rest
  exact readText_numbered (Nat.lt_of_not_le control) read rest

/-- A quoted text is read as it was before it was written. -/
theorem readText_writeText (s : String) (rest : List Char) :
    readText (.ok []) none (s.toList.flatMap writeChar ++ '"' :: rest) =
      (.text (.ok s) none, rest) := by
  -- What was read before stands in reverse, and the induction adds to it.
  have run (chars read : List Char) :
      readText (.ok read) none (chars.flatMap writeChar ++ '"' :: rest) =
        (.text (.ok (String.ofList (read.reverse ++ chars))) none, rest) := by
    induction chars generalizing read with
    | nil => rw [List.flatMap_nil, List.nil_append, readText_quote, List.append_nil]
    | cons c chars ih =>
      rw [List.flatMap_cons, List.append_assoc, readText_writeChar, ih, List.reverse_cons,
        List.append_assoc, List.singleton_append]
  rw [run, List.reverse_nil, List.nil_append, String.ofList_toList]

/-! ## Numbers -/

/-- The text after a number does not continue it: it is empty, or a comma or a closing mark comes
first. -/
def EndsNumber (rest : List Char) : Prop :=
  rest = [] ∨ ∃ c later, rest = c :: later ∧ (c = ',' ∨ c = ']' ∨ c = '\x7d')

/-- More digits make no number smaller. -/
theorem le_ofDigitChars (digits : List Char) (value : Nat) :
    value ≤ Nat.ofDigitChars 10 digits value := by
  induction digits generalizing value with
  | nil => exact Nat.le_refl _
  | cons c digits ih =>
    rw [Nat.ofDigitChars_cons]
    have tail := ih (10 * value + (c.toNat - '0'.toNat))
    omega

/-- Digits of a number that fits into a word are all taken. -/
theorem takeDigits_append {digits : List Char} (digital : ∀ c ∈ digits, c.isDigit = true)
    {value : Nat} (fits : Nat.ofDigitChars 10 digits value < wordBound) {rest : List Char}
    (ends : EndsNumber rest) :
    takeDigits value 0 (digits ++ rest) = (Nat.ofDigitChars 10 digits value, 0, rest) := by
  induction digits generalizing value with
  | nil =>
    rcases ends with rfl | ⟨c, later, rfl, mark⟩
    · rfl
    · have other : c.isDigit = false := by
        rcases mark with rfl | rfl | rfl <;> rfl
      rw [List.nil_append, takeDigits, other]
      rfl
  | cons c digits ih =>
    rw [Nat.ofDigitChars_cons] at fits ⊢
    have below := le_ofDigitChars digits (10 * value + (c.toNat - '0'.toNat))
    have bound : value * 10 + (c.toNat - '0'.toNat) < wordBound := by omega
    rw [List.cons_append, takeDigits, if_pos (digital c List.mem_cons_self)]
    simp only [decide_true, decide_eq_true bound, Bool.and_self, if_true]
    rw [Nat.mul_comm value 10]
    exact ih (fun c mem => digital c (List.mem_cons_of_mem _ mem)) fits

/-- Only zero is written with a leading zero. -/
theorem head?_toDigits_ne_zero {n : Nat} (positive : 0 < n) :
    (Nat.toDigits 10 n).head? ≠ some '0' := by
  induction n using Nat.strongRecOn with
  | ind n ih =>
    rw [Nat.toDigits_eq_if (by decide)]
    split
    · rename_i single
      have digit : ∀ n, n < 10 → 0 < n → [n.digitChar].head? ≠ some '0' := by decide
      exact digit n single positive
    · have shorter := ih (n / 10) (by omega) (by omega)
      rw [List.head?_append]
      cases first : (Nat.toDigits 10 (n / 10)).head? with
      | none => exact absurd (List.head?_eq_none_iff.1 first) Nat.toDigits_ne_nil
      | some c => rwa [first] at shorter

/-- A digit is no character of another kind. -/
theorem ne_of_isDigit {c d : Char} (digit : c.isDigit = true) (other : d.isDigit = false) :
    c ≠ d := by
  rintro rfl
  rw [digit] at other
  cases other

/-- A digit is no blank. -/
theorem isSpace_of_isDigit {c : Char} (digit : c.isDigit = true) : isSpace c = false := by
  have others : c ≠ ' ' ∧ c ≠ '\n' ∧ c ≠ '\t' ∧ c ≠ '\r' := by
    refine ⟨?_, ?_, ?_, ?_⟩ <;> exact ne_of_isDigit digit rfl
  simp [isSpace, others]

/-- A digit begins a number. -/
theorem readToken_of_isDigit {c : Char} (digit : c.isDigit = true) (rest : List Char) :
    readToken c rest = readNumber true (c :: rest) := by
  have others : c ≠ '[' ∧ c ≠ ']' ∧ c ≠ '\x7b' ∧ c ≠ '\x7d' ∧ c ≠ ',' ∧ c ≠ ':' ∧ c ≠ '"' ∧
      c ≠ 'n' ∧ c ≠ 't' ∧ c ≠ 'f' ∧ c ≠ '-' := by
    refine ⟨?_, ?_, ?_, ?_, ?_, ?_, ?_, ?_, ?_, ?_, ?_⟩ <;> exact ne_of_isDigit digit rfl
  rw [readToken.eq_def]
  simp [others, digit]

/-- A number that fits into a word is read as it was before it was written. -/
theorem readNumber_toDigits {n : Nat} (fits : n < wordBound) {rest : List Char}
    (ends : EndsNumber rest) :
    readNumber true (Nat.toDigits 10 n ++ rest) = (.number (.ok (.natural n)) none, rest) := by
  have digital : ∀ c ∈ Nat.toDigits 10 n, c.isDigit = true := fun c mem =>
    Nat.isDigit_of_mem_toDigits (by decide) (by decide) mem
  have whole : Nat.ofDigitChars 10 (Nat.toDigits 10 n) 0 = n := Nat.ofDigitChars_ten_toDigits
  have taken := takeDigits_append digital (whole.symm ▸ fits) ends
  rw [whole] at taken
  cases written : Nat.toDigits 10 n with
  | nil => exact absurd written Nat.toDigits_ne_nil
  | cons c digits =>
    rw [written] at digital taken
    have first : c.isDigit = true := digital c List.mem_cons_self
    have unpadded : (c = '0' && (digits ++ rest).head?.any Char.isDigit) = false := by
      rw [Bool.and_eq_false_iff, decide_eq_false_iff_not]
      by_cases zero : c = '0'
      · right
        have zeroed : n = 0 := Nat.eq_zero_of_not_pos fun positive =>
          head?_toDigits_ne_zero positive (by rw [written, zero]; rfl)
        rw [zeroed, Nat.toDigits_zero] at written
        obtain ⟨-, rfl⟩ := List.cons.inj written
        rcases ends with rfl | ⟨d, later, rfl, rfl | rfl | rfl⟩ <;> rfl
      · exact .inl zero
    rw [List.cons_append] at taken ⊢
    rw [readNumber]
    simp only [first, unpadded, taken]
    rcases ends with rfl | ⟨d, later, rfl, rfl | rfl | rfl⟩ <;> rfl

/-! ## Runs of tokens -/

/-- A text is read as the given tokens, whatever is read after it. -/
structure Spells (ts : List Token) (text rest : List Char) : Prop where
  /-- The tokens are read in order, and then those of what follows. -/
  read (fuel : Nat) : tokensWithin (ts.length + fuel) (text ++ rest) = ts ++ tokensWithin fuel rest
  /-- Every token has a character. -/
  length_le : ts.length ≤ text.length

/-- Texts in a row are read as their tokens in a row. -/
theorem Spells.append {ts ts' : List Token} {text text' rest : List Char}
    (first : Spells ts text (text' ++ rest)) (second : Spells ts' text' rest) :
    Spells (ts ++ ts') (text ++ text') rest where
  read fuel := by
    rw [List.length_append, Nat.add_assoc, List.append_assoc, first.read, second.read,
      List.append_assoc]
  length_le := by
    have := first.length_le
    have := second.length_le
    rw [List.length_append, List.length_append]
    omega

/-- A text that starts with no blank is read as one token, if reading a token leaves just what
follows the text. -/
theorem spells_token {c : Char} {text rest : List Char} {t : Token} (solid : isSpace c = false)
    (read : readToken c (text ++ rest) = (t, rest)) : Spells [t] (c :: text) rest where
  read fuel := by
    have here : (c :: (text ++ rest)).dropWhile isSpace = c :: (text ++ rest) := by
      rw [List.dropWhile_cons, solid, if_neg Bool.false_ne_true]
    rw [List.length_singleton, Nat.add_comm, List.cons_append, tokensWithin, here]
    simp only [read, List.singleton_append]
  length_le := by
    rw [List.length_singleton, List.length_cons]
    omega

/-- A quoted text is one token. -/
theorem spells_writeText (s : String) (rest : List Char) :
    Spells [.text (.ok s) none] (writeText s) rest := by
  have written : writeText s = '"' :: (s.toList.flatMap writeChar ++ ['"']) := rfl
  rw [written]
  refine spells_token rfl ?_
  rw [List.append_assoc]
  exact readText_writeText s rest

/-! ## Values -/

mutual

/-- The tokens of a value. -/
def Value.tokens : Value → List Token
  | .null => [.word (.ok .null)]
  | .boolean true => [.word (.ok .true)]
  | .boolean false => [.word (.ok .false)]
  | .number n => [.number (.ok (.natural n)) none]
  | .text s => [.text (.ok s) none]
  | .list [] => [.openList, .closeList]
  | .list (item :: items) => .openList :: item.tokens ++ Value.itemsTokens items
  | .map [] => [.openMap, .closeMap]
  | .map (entry :: entries) =>
    .openMap :: .text (.ok entry.1) none :: .colon :: entry.2.tokens ++ Value.entriesTokens entries

/-- The tokens of the rest of a list after its first item. -/
def Value.itemsTokens : List Value → List Token
  | [] => [.closeList]
  | item :: items => .comma :: item.tokens ++ Value.itemsTokens items

/-- The tokens of the rest of a map after its first entry. -/
def Value.entriesTokens : List (String × Value) → List Token
  | [] => [.closeMap]
  | entry :: entries =>
    .comma :: .text (.ok entry.1) none :: .colon :: entry.2.tokens ++ Value.entriesTokens entries

end

/-- Every number of the value fits into a word. -/
inductive Value.WordSized : Value → Prop where
  /-- The null value has no number. -/
  | null : WordSized .null
  /-- A truth value has no number. -/
  | boolean (b : Bool) : WordSized (.boolean b)
  /-- A number that fits. -/
  | number {n : Nat} (fits : n < wordBound) : WordSized (.number n)
  /-- A text has no number. -/
  | text (s : String) : WordSized (.text s)
  /-- A list of values with such numbers. -/
  | list {items : List Value} (each : ∀ item ∈ items, WordSized item) : WordSized (.list items)
  /-- A map to values with such numbers. -/
  | map {entries : List (String × Value)} (each : ∀ entry ∈ entries, WordSized entry.2) :
    WordSized (.map entries)

namespace Value

/-- The numbers of a list of things fit if those of each thing do. -/
theorem wordSized_list_map {α : Type} {write : α → Value} {items : List α}
    (each : ∀ a ∈ items, (write a).WordSized) : (list (items.map write)).WordSized := by
  refine .list fun item mem => ?_
  obtain ⟨a, among, rfl⟩ := List.mem_map.1 mem
  exact each a among

/-- A list of texts has no number. -/
theorem wordSized_texts (items : List String) : (texts items).WordSized :=
  wordSized_list_map fun s _ => .text s

/-- The numbers of a value that may be null fit if those of the value do. -/
theorem wordSized_optional {α : Type} {write : α → Value} {a? : Option α}
    (each : ∀ a, a? = some a → (write a).WordSized) : (optional write a?).WordSized := by
  cases a? with
  | none => exact .null
  | some a => exact each a rfl

/-- A map with no entry has no number. -/
theorem WordSized.noEntry : (Value.map []).WordSized := .map nofun

/-- The numbers of a map fit if those of its first entry and of the others do. -/
theorem WordSized.entry {name : String} {v : Value} {entries : List (String × Value)}
    (first : v.WordSized) (others : (Value.map entries).WordSized) :
    (Value.map ((name, v) :: entries)).WordSized := by
  cases others with
  | map each => exact .map (List.forall_mem_cons.2 ⟨first, each⟩)

/-- The text of a value is read as its tokens, where nothing continues a number. -/
def ReadAsTokens (v : Value) : Prop := ∀ rest, EndsNumber rest → Spells v.tokens v.write rest

/-- What follows a first item ends a number. -/
theorem endsNumber_writeItems (items : List Value) (rest : List Char) :
    EndsNumber (writeItems items ++ rest) := by
  cases items with
  | nil => exact .inr ⟨']', rest, rfl, .inr (.inl rfl)⟩
  | cons item items => exact .inr ⟨',', _, rfl, .inl rfl⟩

/-- What follows a first entry ends a number. -/
theorem endsNumber_writeEntries (entries : List (String × Value)) (rest : List Char) :
    EndsNumber (writeEntries entries ++ rest) := by
  cases entries with
  | nil => exact .inr ⟨'\x7d', rest, rfl, .inr (.inr rfl)⟩
  | cons entry entries => exact .inr ⟨',', _, rfl, .inl rfl⟩

/-- The rest of a list is read as its tokens, if each item is. -/
theorem spells_writeItems {items : List Value} (each : ∀ v ∈ items, v.ReadAsTokens)
    (rest : List Char) : Spells (itemsTokens items) (writeItems items) rest := by
  induction items with
  | nil => exact spells_token rfl rfl
  | cons item items ih =>
    have tail := ih fun v mem => each v (List.mem_cons_of_mem _ mem)
    have first := each item List.mem_cons_self _ (endsNumber_writeItems items rest)
    have comma : Spells [.comma] [','] (item.write ++ (writeItems items ++ rest)) :=
      spells_token rfl rfl
    exact (comma.append first).append tail

/-- The colon of an entry and its value are read as their tokens, if the value is. -/
theorem spells_entry {entry : String × Value} (value : entry.2.ReadAsTokens) {rest : List Char}
    (ends : EndsNumber rest) :
    Spells (.text (.ok entry.1) none :: .colon :: entry.2.tokens)
      (writeText entry.1 ++ ':' :: entry.2.write) rest := by
  have colon : Spells [.colon] [':'] (entry.2.write ++ rest) := spells_token rfl rfl
  exact (spells_writeText entry.1 _).append (colon.append (value _ ends))

/-- The rest of a map is read as its tokens, if the value of each entry is. -/
theorem spells_writeEntries {entries : List (String × Value)}
    (each : ∀ entry ∈ entries, entry.2.ReadAsTokens) (rest : List Char) :
    Spells (entriesTokens entries) (writeEntries entries) rest := by
  induction entries with
  | nil => exact spells_token rfl rfl
  | cons entry entries ih =>
    have tail := ih fun entry mem => each entry (List.mem_cons_of_mem _ mem)
    have first := spells_entry (each entry List.mem_cons_self)
      (endsNumber_writeEntries entries rest)
    have comma : Spells [.comma] [','] (writeText entry.1 ++ ':' :: entry.2.write ++
        (writeEntries entries ++ rest)) := spells_token rfl rfl
    exact (comma.append first).append tail

/-- The text of a value is read as its tokens. -/
theorem WordSized.readAsTokens {v : Value} (sized : v.WordSized) : v.ReadAsTokens := by
  intro rest ends
  induction sized generalizing rest with
  | null => exact spells_token rfl rfl
  | boolean b => cases b <;> exact spells_token rfl rfl
  | @number n fits =>
    have read := readNumber_toDigits fits ends
    have digital : ∀ c ∈ Nat.toDigits 10 n, c.isDigit = true := fun c mem =>
      Nat.isDigit_of_mem_toDigits (by decide) (by decide) mem
    rw [write, tokens]
    cases written : Nat.toDigits 10 n with
    | nil => exact absurd written Nat.toDigits_ne_nil
    | cons c digits =>
      rw [written] at read digital
      have digit : c.isDigit = true := digital c List.mem_cons_self
      exact spells_token (isSpace_of_isDigit digit) ((readToken_of_isDigit digit _).trans read)
  | text s => exact spells_writeText s rest
  | @list items each ih =>
    cases items with
    | nil =>
      have opened : Spells [.openList] ['['] (']' :: rest) := spells_token rfl rfl
      have closed : Spells [.closeList] [']'] rest := spells_token rfl rfl
      exact opened.append closed
    | cons item items =>
      have tail := spells_writeItems (fun v mem => ih v (List.mem_cons_of_mem _ mem)) rest
      have first := ih item List.mem_cons_self _ (endsNumber_writeItems items rest)
      have opened : Spells [.openList] ['['] (item.write ++ (writeItems items ++ rest)) :=
        spells_token rfl rfl
      exact (opened.append first).append tail
  | @map entries each ih =>
    cases entries with
    | nil =>
      have opened : Spells [.openMap] ['\x7b'] ('\x7d' :: rest) := spells_token rfl rfl
      have closed : Spells [.closeMap] ['\x7d'] rest := spells_token rfl rfl
      exact opened.append closed
    | cons entry entries =>
      have tail := spells_writeEntries (fun entry mem => ih entry (List.mem_cons_of_mem _ mem)) rest
      have first := spells_entry (ih entry List.mem_cons_self)
        (endsNumber_writeEntries entries rest)
      have opened : Spells [.openMap] ['\x7b'] (writeText entry.1 ++ ':' :: entry.2.write ++
          (writeEntries entries ++ rest)) := spells_token rfl rfl
      exact (opened.append first).append tail

/-- Reading the text of a value by itself gives its tokens. -/
theorem WordSized.tokens_write {v : Value} (sized : v.WordSized) :
    Json.tokens v.write = v.tokens := by
  have spelled := sized.readAsTokens [] (.inl rfl)
  obtain ⟨more, length⟩ := Nat.exists_eq_add_of_le spelled.length_le
  have read := spelled.read (more + 1)
  rw [List.append_nil, ← Nat.add_assoc, ← length] at read
  rw [Json.tokens, read]
  exact List.append_nil _

end Value

/-! ## Characters -/

/-- Digits are no control characters. -/
theorem shown_of_isDigit {c : Char} (digit : c.isDigit = true) : 0x20 ≤ c.toNat := by
  rw [Char.isDigit, Bool.and_eq_true, decide_eq_true_iff] at digit
  have bound : 48 ≤ c.toNat := digit.1
  omega

/-- A hexadecimal digit is no control character. -/
theorem shown_hexDigit : ∀ n, n < 16 → 0x20 ≤ (hexDigit n).toNat := by
  decide

/-- A character of a text is written without control characters. -/
theorem shown_writeChar (c : Char) : ∀ d ∈ writeChar c, 0x20 ≤ d.toNat := by
  rw [writeChar]
  split
  · simp
  split
  · simp
  split
  · rename_i shown
    intro d mem
    rwa [List.mem_singleton.1 mem]
  rename_i control
  repeat
    split
    · simp
  have high := shown_hexDigit (c.toNat / 16) (by omega)
  have low := shown_hexDigit (c.toNat % 16) (by omega)
  simp [high, low]

/-- A text is written without control characters. -/
theorem shown_writeText (s : String) : ∀ c ∈ writeText s, 0x20 ≤ c.toNat := by
  rw [writeText, List.forall_mem_append, List.forall_mem_cons]
  refine ⟨⟨by decide, ?_⟩, by simp⟩
  intro d mem
  obtain ⟨c, -, written⟩ := List.mem_flatMap.1 mem
  exact shown_writeChar c d written

mutual

/-- A value is written without control characters. -/
theorem Value.shown_write : (v : Value) → ∀ c ∈ v.write, 0x20 ≤ c.toNat
  | .null => by simp [Value.write]
  | .boolean true => by simp [Value.write]
  | .boolean false => by simp [Value.write]
  | .number _ => fun _ mem =>
    shown_of_isDigit (Nat.isDigit_of_mem_toDigits (by decide) (by decide) mem)
  | .text s => shown_writeText s
  | .list [] => by simp [Value.write]
  | .list (item :: items) => by
    rw [Value.write, List.forall_mem_append, List.forall_mem_cons]
    exact ⟨⟨by decide, item.shown_write⟩, Value.shown_writeItems items⟩
  | .map [] => by simp [Value.write]
  | .map ((key, value) :: entries) => by
    simp only [Value.write, List.forall_mem_append, List.forall_mem_cons]
    exact ⟨⟨⟨by decide, shown_writeText key⟩, by decide, value.shown_write⟩,
      Value.shown_writeEntries entries⟩

/-- The rest of a list is written without control characters. -/
theorem Value.shown_writeItems : (items : List Value) → ∀ c ∈ writeItems items, 0x20 ≤ c.toNat
  | [] => by simp [Value.writeItems]
  | item :: items => by
    rw [Value.writeItems, List.forall_mem_append, List.forall_mem_cons]
    exact ⟨⟨by decide, item.shown_write⟩, Value.shown_writeItems items⟩

/-- The rest of a map is written without control characters. -/
theorem Value.shown_writeEntries :
    (entries : List (String × Value)) → ∀ c ∈ writeEntries entries, 0x20 ≤ c.toNat
  | [] => by simp [Value.writeEntries]
  | (key, value) :: entries => by
    simp only [Value.writeEntries, List.forall_mem_append, List.forall_mem_cons]
    exact ⟨⟨⟨by decide, shown_writeText key⟩, by decide, value.shown_write⟩,
      Value.shown_writeEntries entries⟩

end

end Deckwright.Json
