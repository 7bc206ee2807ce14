import Deckwright.Proofs.Json.Tokens

/-!
# Reading back what was written

A reader undoes the writing of a value if it reads the tokens of the value as what was written, and
leaves what follows them (`Reader.ReadsBack`). Each way to put readers together keeps this: lists of
items that are read back are read back, and so are maps whose values are and records whose fields
are. With `readWhole` the law turns into one about texts.
-/

namespace Deckwright.Json

variable {α β : Type}

/-- The reader reads a value as the given thing, and leaves what follows the value. -/
def Reader.ReadsBack (read : Reader α) (v : Value) (a : α) : Prop :=
  ∀ rest, read (v.tokens ++ rest) = .ok (a, rest)

namespace Reader.ReadsBack

variable {read : Reader α} {v : Value} {a : α}

/-- What is read back is read back with a function applied to it. -/
theorem map (back : read.ReadsBack v a) (f : α → β) : (read.map f).ReadsBack v (f a) := by
  intro rest
  rw [Reader.map, back rest]

/-- What is read back is read back with a function applied to it that accepts it. -/
theorem check (back : read.ReadsBack v a) {f : α → Except String β} {b : β}
    (accepted : f a = .ok b) : (read.check f).ReadsBack v b := by
  intro rest
  rw [Reader.check, back rest]
  simp only [accepted]

/-- A whole text that was written from a value is read back. -/
theorem readWhole_render (back : read.ReadsBack v a) (sized : v.WordSized) :
    readWhole read v.render = .ok a := by
  have tokens : Json.tokens v.render.toList = v.tokens ++ [] := by
    rw [Value.render, String.toList_ofList, sized.tokens_write, List.append_nil]
  rw [readWhole, tokens, back []]

end Reader.ReadsBack

/-- A text is read back. -/
theorem readString_readsBack (s : String) : Reader.ReadsBack readString (.text s) s := by
  intro rest
  rfl

/-- A number of things is read back. -/
theorem readCount_readsBack (n : Nat) : Reader.ReadsBack readCount (.number n) n := by
  intro rest
  rfl

/-- Only the null value begins with the word for it. -/
theorem Value.eq_null_of_tokens {v : Value} {rest later : List Token}
    (null : v.tokens ++ rest = .word (.ok .null) :: later) : v = .null := by
  cases v with
  | null => rfl
  | boolean b => cases b <;> simp [tokens] at null
  | number n => simp [tokens] at null
  | text s => simp [tokens] at null
  | list items => cases items <;> simp [tokens] at null
  | map entries => cases entries <;> simp [tokens] at null

/-- A value that may be null is read back if it would be were it not, and is not written as null. -/
theorem readOptional_readsBack {read : Reader α} {write : α → Value} {a? : Option α}
    (back : ∀ a, a? = some a → read.ReadsBack (write a) a)
    (shown : ∀ a, a? = some a → write a ≠ .null) :
    Reader.ReadsBack (readOptional read) (.optional write a?) a? := by
  intro rest
  cases a? with
  | none => rfl
  | some a =>
    have here : read.map some ((write a).tokens ++ rest) = .ok (some a, rest) :=
      (back a rfl).map some rest
    rw [Value.optional, readOptional.eq_def]
    split
    · rename_i later null
      exact absurd (Value.eq_null_of_tokens null) (shown a rfl)
    · exact here

/-- A case is read back from its name. -/
theorem readCase_readsBack {cases : List (String × α)} {name : String} {a : α}
    (known : cases.lookup name = some a) : Reader.ReadsBack (readCase cases) (.text name) a := by
  intro rest
  have named : caseNamed cases name = .ok a := by rw [caseNamed, known]
  have split : (Value.text name).tokens ++ rest = .text (.ok name) none :: rest := rfl
  rw [split, readCase]
  simp only [bind, Except.bind, named]
  rfl

/-! ## Lists -/

/-- A value does not start with the end of a list. -/
theorem Value.tokens_eq_cons (v : Value) :
    ∃ t ts, v.tokens = t :: ts ∧ t ≠ .closeList := by
  cases v with
  | null => exact ⟨_, _, rfl, nofun⟩
  | boolean b => cases b <;> exact ⟨_, _, rfl, nofun⟩
  | number n => exact ⟨_, _, rfl, nofun⟩
  | text s => exact ⟨_, _, rfl, nofun⟩
  | list items => cases items <;> exact ⟨_, _, rfl, nofun⟩
  | map entries => cases entries <;> exact ⟨_, _, rfl, nofun⟩

/-- The rest of a list has more tokens than items. -/
theorem Value.length_lt_length_itemsTokens (items : List Value) :
    items.length < (itemsTokens items).length := by
  induction items with
  | nil => decide
  | cons item items ih =>
    rw [itemsTokens, List.length_cons, List.length_append, List.length_cons]
    omega

section Lists

variable {read : Reader α} {write : α → Value}

/-- The first item of a list is read before the others. -/
theorem readItems_first {v : Value} {a : α} {as : List α} (back : read.ReadsBack v a) {fuel : Nat}
    {rest later : List Token} (tail : readItems read fuel false rest = .ok (as, later)) :
    readItems read (fuel + 1) true (v.tokens ++ rest) = .ok (a :: as, later) := by
  obtain ⟨t, ts, tokens, opened⟩ := v.tokens_eq_cons
  have here := back rest
  rw [tokens, List.cons_append] at here ⊢
  rw [readItems.eq_def]
  simp only [here, tail, if_true]

/-- An item after a comma is read before the others. -/
theorem readItems_next {v : Value} {a : α} {as : List α} (back : read.ReadsBack v a) {fuel : Nat}
    {rest later : List Token} (tail : readItems read fuel false rest = .ok (as, later)) :
    readItems read (fuel + 1) false (.comma :: (v.tokens ++ rest)) = .ok (a :: as, later) := by
  obtain ⟨t, ts, tokens, opened⟩ := v.tokens_eq_cons
  have here := back rest
  rw [tokens, List.cons_append] at here ⊢
  rw [readItems.eq_def]
  simp [here, tail, opened]

/-- The rest of a list is read back if each item is. -/
theorem readItems_itemsTokens {items : List α} (each : ∀ a ∈ items, read.ReadsBack (write a) a)
    {fuel : Nat} (enough : items.length < fuel) (rest : List Token) :
    readItems read fuel false (Value.itemsTokens (items.map write) ++ rest) =
      .ok (items, rest) := by
  induction items generalizing fuel with
  | nil =>
    obtain ⟨fuel, rfl⟩ := Nat.exists_eq_add_one_of_ne_zero (Nat.ne_zero_of_lt enough)
    rfl
  | cons a items ih =>
    obtain ⟨fuel, rfl⟩ := Nat.exists_eq_add_one_of_ne_zero (Nat.ne_zero_of_lt enough)
    have tail := ih (fun a mem => each a (List.mem_cons_of_mem _ mem))
      (Nat.lt_of_succ_lt_succ enough)
    rw [List.map_cons, Value.itemsTokens, List.append_assoc]
    exact readItems_next (each a List.mem_cons_self) tail

/-- A list is read back if each item is. -/
theorem readList_readsBack {items : List α} (each : ∀ a ∈ items, read.ReadsBack (write a) a) :
    Reader.ReadsBack (readList read) (.list (items.map write)) items := by
  intro rest
  cases items with
  | nil => rfl
  | cons a items =>
    have longer := Value.length_lt_length_itemsTokens (items.map write)
    rw [List.length_map] at longer
    have split : (Value.list ((a :: items).map write)).tokens ++ rest =
        .openList :: ((write a).tokens ++ (Value.itemsTokens (items.map write) ++ rest)) := by
      rw [List.map_cons, Value.tokens, List.cons_append, List.cons_append, List.append_assoc]
    rw [split, readList]
    refine readItems_first (each a List.mem_cons_self) ?_
    refine readItems_itemsTokens (fun a mem => each a (List.mem_cons_of_mem _ mem)) ?_ rest
    rw [List.length_append, List.length_append]
    omega

end Lists

/-- A list of texts is read back. -/
theorem readTexts_readsBack (items : List String) :
    Reader.ReadsBack (readList readString) (.texts items) items :=
  readList_readsBack fun s _ => readString_readsBack s

/-! ## Records -/

/-- A field with a value that is read back, which then sets the field. -/
structure WrittenField (α : Type) where
  /-- The field. -/
  field : Field α
  /-- The value written for it. -/
  value : Value
  /-- Set the field to what was written. -/
  set : α → α
  /-- The value is read back. -/
  back : field.read.ReadsBack value set

namespace WrittenField

/-- A field from its value, how to read and set it. -/
def of (name : String) (absence : Absence) {read : Reader β} {v : Value} {b : β}
    (back : read.ReadsBack v b) (set : β → α → α) : WrittenField α :=
  ⟨.of name absence read set, v, set b, back.map set⟩

/-- The name of the field. -/
def name (w : WrittenField α) : String := w.field.name

/-- The entry of the field in a map. -/
def entry (w : WrittenField α) : String × Value := (w.name, w.value)

end WrittenField

/-- A field is found by its name where all names are different. -/
theorem find?_field_name {fields : List (Field α)} (distinct : (fields.map Field.name).Nodup)
    {field : Field α} (mem : field ∈ fields) :
    (fields.find? fun f => f.name == field.name) = some field := by
  induction fields with
  | nil => cases mem
  | cons first fields ih =>
    rw [List.map_cons, List.nodup_cons] at distinct
    rcases List.mem_cons.1 mem with rfl | later
    · exact List.find?_cons_of_pos (beq_self_eq_true field.name)
    · have other : first.name ≠ field.name := by
        intro same
        exact distinct.1 (same ▸ List.mem_map_of_mem later)
      rw [List.find?_cons_of_neg (by simpa using other), ih distinct.2 later]

/-- A record is accepted if every field was given. -/
theorem requireFields_of_given {fields : List (Field α)} {given : List String}
    (all : ∀ field ∈ fields, field.name ∈ given) (a : α) :
    requireFields given a fields = .ok a := by
  induction fields with
  | nil => rfl
  | cons field fields ih =>
    have here : given.contains field.name = true :=
      List.contains_iff_mem.2 (all field List.mem_cons_self)
    rw [requireFields, here, Bool.not_true, Bool.and_false, if_neg Bool.false_ne_true]
    exact ih fun field mem => all field (List.mem_cons_of_mem _ mem)

/-- The first key of a map. -/
theorem readKey_first (entry : String × Value) (ts : List Token) :
    readKey true (.text (.ok entry.1) none :: .colon :: (entry.2.tokens ++ ts)) =
      .ok (.key entry.1, .colon :: (entry.2.tokens ++ ts)) :=
  rfl

/-- The next key of a map. -/
theorem readKey_next (entry : String × Value) (entries : List (String × Value))
    (rest : List Token) :
    readKey false (Value.entriesTokens (entry :: entries) ++ rest) =
      .ok (.key entry.1, .colon :: (entry.2.tokens ++ (Value.entriesTokens entries ++ rest))) := by
  rw [Value.entriesTokens, ← List.append_assoc]
  rfl

section Records

variable {fields : List (Field α)} {given : List String}

/-- A field that was not given before is set to what was written. -/
theorem readFields_key {w : WrittenField α} {first : Bool} {ts rest : List Token}
    (key : readKey first ts = .ok (.key w.name, .colon :: (w.value.tokens ++ rest)))
    (known : (fields.find? fun f => f.name == w.name) = some w.field) (fresh : w.name ∉ given)
    (fuel : Nat) (a : α) :
    readFields fields (fuel + 1) first given a ts =
      readFields fields fuel false (w.name :: given) (w.set a) rest := by
  have absent : given.contains w.name = false := by
    rwa [← Bool.not_eq_true, List.contains_iff_mem]
  rw [readFields, key]
  simp only [known, absent, readColon, w.back rest, Bool.false_eq_true, if_false]

/-- The end of a record is its end if every field was given. -/
theorem readFields_closeMap (all : ∀ field ∈ fields, field.name ∈ given) (fuel : Nat) (a : α)
    (first : Bool) (rest : List Token) :
    readFields fields (fuel + 1) first given a (.closeMap :: rest) = .ok (a, rest) := by
  have done : readKey first (.closeMap :: rest) = .ok (.done, rest) := rfl
  rw [readFields, done]
  simp only [requireFields_of_given all]

/-- The rest of a record is read back: each field is set to what was written, if it was not given
before and all fields are given in the end. -/
theorem readFields_entriesTokens (distinct : (fields.map Field.name).Nodup)
    {written : List (WrittenField α)} (known : ∀ w ∈ written, w.field ∈ fields)
    (once : (given ++ written.map WrittenField.name).Nodup)
    (all : ∀ field ∈ fields, field.name ∈ given ++ written.map WrittenField.name)
    {fuel : Nat} (enough : written.length < fuel) (a : α) (rest : List Token) :
    readFields fields fuel false given a
        (Value.entriesTokens (written.map WrittenField.entry) ++ rest) =
      .ok (written.foldl (fun a w => w.set a) a, rest) := by
  -- The names given so far grow by the name of each field read; with those to come they stay the
  -- same names in another order.
  induction written generalizing given fuel a with
  | nil =>
    obtain ⟨fuel, rfl⟩ := Nat.exists_eq_add_one_of_ne_zero (Nat.ne_zero_of_lt enough)
    rw [List.map_nil, List.append_nil] at all
    exact readFields_closeMap all fuel a false rest
  | cons w written ih =>
    obtain ⟨fuel, rfl⟩ := Nat.exists_eq_add_one_of_ne_zero (Nat.ne_zero_of_lt enough)
    have moved : (given ++ (w :: written).map WrittenField.name).Perm
        (w.name :: given ++ written.map WrittenField.name) := List.perm_middle
    have fresh : w.name ∉ given := by
      have first := moved.nodup once
      rw [List.cons_append, List.nodup_cons, List.mem_append, not_or] at first
      exact first.1.1
    have tail := ih (fun w mem => known w (List.mem_cons_of_mem _ mem)) (moved.nodup once)
      (fun field mem => moved.mem_iff.1 (all field mem)) (Nat.lt_of_succ_lt_succ enough) (w.set a)
    have found := find?_field_name distinct (known w List.mem_cons_self)
    rw [List.foldl_cons, ← tail]
    exact readFields_key (readKey_next w.entry _ rest) found fresh fuel a

end Records

/-- The rest of a map has more tokens than entries. -/
theorem Value.length_lt_length_entriesTokens (entries : List (String × Value)) :
    entries.length < (entriesTokens entries).length := by
  induction entries with
  | nil => decide
  | cons entry entries ih =>
    rw [entriesTokens]
    simp only [List.length_append, List.length_cons]
    omega

/-- A record is read back from a map with an entry for each of its fields. -/
theorem readRecord_readsBack (typeName : String) {written : List (WrittenField α)}
    (distinct : (written.map WrittenField.name).Nodup) (blank : α) :
    Reader.ReadsBack (readRecord typeName (written.map WrittenField.field) blank)
      (.map (written.map WrittenField.entry)) (written.foldl (fun a w => w.set a) blank) := by
  intro rest
  have names : (written.map WrittenField.field).map Field.name = written.map WrittenField.name :=
    List.map_map
  cases written with
  | nil => rfl
  | cons w written =>
    have longer := Value.length_lt_length_entriesTokens (written.map WrittenField.entry)
    rw [List.length_map] at longer
    have split : (Value.map ((w :: written).map WrittenField.entry)).tokens ++ rest =
        .openMap :: .text (.ok w.name) none :: .colon :: (w.value.tokens ++
          (Value.entriesTokens (written.map WrittenField.entry) ++ rest)) := by
      rw [List.map_cons, Value.tokens, ← List.append_assoc]
      rfl
    have known (x : WrittenField α) (mem : x ∈ w :: written) :
        x.field ∈ (w :: written).map WrittenField.field := List.mem_map_of_mem mem
    have found := find?_field_name (names ▸ distinct) (known w List.mem_cons_self)
    rw [split, readRecord]
    refine (readFields_key (readKey_first w.entry _) found List.not_mem_nil _ blank).trans ?_
    refine readFields_entriesTokens (names ▸ distinct)
      (fun x mem => known x (List.mem_cons_of_mem _ mem)) distinct ?_ ?_ (w.set blank) rest
    · intro field mem
      have named : field.name ∈ ((w :: written).map WrittenField.field).map Field.name :=
        List.mem_map_of_mem mem
      rwa [names] at named
    · simp only [List.length_cons, List.length_append]
      omega

/-- A record is read back if the names of its fields, which are all different, are as listed. -/
theorem readRecord_readsBack_of_names (typeName : String) {written : List (WrittenField α)}
    {names : List String} (named : written.map WrittenField.name = names) (distinct : names.Nodup)
    (blank : α) :
    Reader.ReadsBack (readRecord typeName (written.map WrittenField.field) blank)
      (.map (written.map WrittenField.entry)) (written.foldl (fun a w => w.set a) blank) :=
  readRecord_readsBack typeName (named ▸ distinct) blank

/-! ## Maps -/

section Maps

variable {read : Reader α} (write : α → Value)

/-- An entry is read before the others. -/
theorem readEntries_key {name : String} {v : Value} {a : α} (back : read.ReadsBack v a)
    {first : Bool} {ts rest later : List Token} {fuel : Nat} {entries : List (String × α)}
    (key : readKey first ts = .ok (.key name, .colon :: (v.tokens ++ rest)))
    (tail : readEntries read fuel false rest = .ok (entries, later)) :
    readEntries read (fuel + 1) first ts = .ok ((name, a) :: entries, later) := by
  rw [readEntries, key]
  simp only [readColon, back rest, tail]

/-- The rest of a map is read back if each value is. -/
theorem readEntries_entriesTokens {entries : List (String × α)}
    (each : ∀ entry ∈ entries, read.ReadsBack (write entry.2) entry.2) {fuel : Nat}
    (enough : entries.length < fuel) (rest : List Token) :
    readEntries read fuel false
        (Value.entriesTokens (entries.map fun entry => (entry.1, write entry.2)) ++ rest) =
      .ok (entries, rest) := by
  induction entries generalizing fuel with
  | nil =>
    obtain ⟨fuel, rfl⟩ := Nat.exists_eq_add_one_of_ne_zero (Nat.ne_zero_of_lt enough)
    rfl
  | cons entry entries ih =>
    obtain ⟨fuel, rfl⟩ := Nat.exists_eq_add_one_of_ne_zero (Nat.ne_zero_of_lt enough)
    have tail := ih (fun entry mem => each entry (List.mem_cons_of_mem _ mem))
      (Nat.lt_of_succ_lt_succ enough)
    exact readEntries_key (each entry List.mem_cons_self) (readKey_next (entry.1, _) _ rest) tail

/-- A map is read back, in the order of its entries, if each value is. -/
theorem readMap_readsBack {entries : List (String × α)}
    (each : ∀ entry ∈ entries, read.ReadsBack (write entry.2) entry.2) :
    Reader.ReadsBack (readMap read) (.map (entries.map fun entry => (entry.1, write entry.2)))
      entries := by
  intro rest
  cases entries with
  | nil => rfl
  | cons entry entries =>
    have longer := Value.length_lt_length_entriesTokens
      (entries.map fun entry => (entry.1, write entry.2))
    rw [List.length_map] at longer
    have split : (Value.map ((entry :: entries).map fun entry =>
          (entry.1, write entry.2))).tokens ++ rest =
        .openMap :: .text (.ok entry.1) none :: .colon :: ((write entry.2).tokens ++
          (Value.entriesTokens (entries.map fun entry => (entry.1, write entry.2)) ++ rest)) := by
      rw [List.map_cons, Value.tokens, ← List.append_assoc]
      rfl
    rw [split, readMap]
    refine readEntries_key (each entry List.mem_cons_self) (readKey_first (entry.1, _) _) ?_
    refine readEntries_entriesTokens write
      (fun entry mem => each entry (List.mem_cons_of_mem _ mem)) ?_ rest
    simp only [List.length_cons, List.length_append]
    omega

end Maps

end Deckwright.Json
