import Deckwright.Synergy.BuiltIn
import Mathlib.Data.List.Nodup

/-!
# Rules under their names

The names in rule tables may be written in any case, and are brought to normal form when the
tables are compiled. If two names of a table have one normal form, the last of them, in the order
of the table, takes the place of the others, with its searches. So a table loses no rule exactly
if the searches of each name are among those of its last spelling. Names with different normal
forms have one spelling each, as those of the built-in tables have.
-/

namespace Deckwright

open Text (NameTable)

variable {α : Type}

/-! ## Spellings -/

/-- The entry is that of the last spelling of a name in a table. -/
structure Text.NameTable.LastSpelling (t : NameTable α) (name : String) (entry : String × α) :
    Prop where
  /-- The entry is in the table. -/
  mem : entry ∈ t.entries
  /-- It spells the name. -/
  spells : normalizeName entry.1 = normalizeName name
  /-- No entry after it spells the name. -/
  last : ∀ other ∈ t.entries, normalizeName other.1 = normalizeName name → other.1 ≤ entry.1

/-- A name has one last spelling. -/
theorem Text.NameTable.LastSpelling.unique {t : NameTable α} {name : String}
    {entry other : String × α} (last : t.LastSpelling name entry)
    (otherLast : t.LastSpelling name other) : entry = other := by
  have key : entry.1 = other.1 := String.le_antisymm (otherLast.last entry last.mem last.spells)
    (last.last other otherLast.mem otherLast.spells)
  have value := (t.find?_eq_some_iff entry.1 entry.2).2 last.mem
  rw [key, (t.find?_eq_some_iff other.1 other.2).2 otherLast.mem, Option.some.injEq] at value
  exact Prod.ext key value.symm

/-- With its keys in normal form, a table has for a name the value of an entry after which no
other spells the name. -/
theorem exists_split_of_find?_normalizeKeys {t : NameTable α} {name : String} {value : α}
    (found : (normalizeKeys t).find? (normalizeName name) = some value) :
    ∃ earlier key later, t.entries = earlier ++ (key, value) :: later ∧
      normalizeName key = normalizeName name ∧
      ∀ other ∈ later, normalizeName other.1 ≠ normalizeName name := by
  rw [normalizeKeys, NameTable.find?_ofList, ← List.map_reverse, List.lookup_eq_some_iff] at found
  obtain ⟨after, before, split, absent⟩ := found
  obtain ⟨later, rest, whole, rfl, made⟩ := List.map_eq_append_iff.1 split
  obtain ⟨⟨key, kept⟩, earlier, rfl, named, rfl⟩ := List.map_eq_cons_iff.1 made
  obtain ⟨same, rfl⟩ := Prod.mk.inj named
  refine ⟨earlier.reverse, key, later.reverse, ?_, same, ?_⟩
  · rw [← List.reverse_reverse t.entries, whole]
    simp
  · intro other mem spells
    have differs := absent _ (List.mem_map_of_mem (List.mem_reverse.1 mem))
    simp [spells] at differs

/-- That entry is the last spelling, since the keys of a table ascend. -/
theorem lastSpelling_of_find?_normalizeKeys {t : NameTable α} {name : String} {value : α}
    (found : (normalizeKeys t).find? (normalizeName name) = some value) :
    ∃ key, t.LastSpelling name (key, value) := by
  obtain ⟨earlier, key, later, split, same, absent⟩ := exists_split_of_find?_normalizeKeys found
  have ascending := t.ascending
  rw [split, List.map_append, List.pairwise_append] at ascending
  refine ⟨key, by simp [split], same, ?_⟩
  intro other mem spells
  rw [split, List.mem_append, List.mem_cons] at mem
  rcases mem with before | rfl | after
  · have lower : other.1 < key := ascending.2.2 _ (List.mem_map_of_mem before) _ (by simp)
    exact String.not_lt.1 fun above => String.lt_irrefl _ (String.lt_trans lower above)
  · exact String.le_refl _
  · exact absurd spells (absent other after)

/-- With its keys in normal form, a table has a value for each name that one of its keys spells. -/
theorem find?_normalizeKeys_eq_none_iff {t : NameTable α} {name : String} :
    (normalizeKeys t).find? (normalizeName name) = none ↔
      ∀ entry ∈ t.entries, normalizeName entry.1 ≠ normalizeName name := by
  rw [normalizeKeys, NameTable.find?_ofList, ← List.map_reverse, List.lookup_eq_none_iff]
  constructor
  · intro absent entry mem spells
    have differs := absent _ (List.mem_map_of_mem (List.mem_reverse.2 mem))
    simp [spells] at differs
  · intro absent pair mem
    obtain ⟨entry, listed, rfl⟩ := List.mem_map.1 mem
    exact bne_iff_ne.2 (absent entry (List.mem_reverse.1 listed)).symm

/-- Each name in a table has a last spelling. -/
theorem exists_lastSpelling {t : NameTable α} {entry : String × α} (mem : entry ∈ t.entries) :
    ∃ last, t.LastSpelling entry.1 last := by
  cases found : (normalizeKeys t).find? (normalizeName entry.1) with
  | none => exact absurd rfl (find?_normalizeKeys_eq_none_iff.1 found entry mem)
  | some value =>
    obtain ⟨key, last⟩ := lastSpelling_of_find?_normalizeKeys found
    exact ⟨(key, value), last⟩

/-- With its keys in normal form, a table has for a name the value of its last spelling. -/
theorem Text.NameTable.LastSpelling.find?_normalizeKeys {t : NameTable α} {name : String}
    {entry : String × α} (last : t.LastSpelling name entry) :
    (normalizeKeys t).find? (normalizeName name) = some entry.2 := by
  cases found : (normalizeKeys t).find? (normalizeName name) with
  | none => exact absurd last.spells (find?_normalizeKeys_eq_none_iff.1 found entry last.mem)
  | some value =>
    obtain ⟨key, other⟩ := lastSpelling_of_find?_normalizeKeys found
    rw [last.unique other]

/-! ## Look-ups in rule tables -/

/-- The look-up finds under each name of the table, in any spelling, the searches of the last
spelling, and nothing under any other name. -/
structure ReadsLastSpelling (table : NameTable (List SearchRule))
    (lookup : String → List SearchRule) : Prop where
  /-- A name in the table has the searches of its last spelling. -/
  known : ∀ name entry, table.LastSpelling name entry → lookup name = entry.2
  /-- A name that is not in the table has none. -/
  unknown : ∀ name, (∀ entry ∈ table.entries, normalizeName entry.1 ≠ normalizeName name) →
    lookup name = []

/-- The look-up loses no rule of the table: it finds each search under the name that the table has
it under. -/
def KeepsRules (table : NameTable (List SearchRule)) (lookup : String → List SearchRule) : Prop :=
  ∀ entry ∈ table.entries, ∀ rule ∈ entry.2, rule ∈ lookup entry.1

/-- The searches of each name of the table are among those of its last spelling. -/
def SpellingsAgree (table : NameTable (List SearchRule)) : Prop :=
  ∀ entry ∈ table.entries, ∀ last, table.LastSpelling entry.1 last → ∀ rule ∈ entry.2,
    rule ∈ last.2

variable {table : NameTable (List SearchRule)} {lookup : String → List SearchRule}

/-- What is looked up in a table whose keys are in normal form is under the last spelling. -/
theorem readsLastSpelling_normalizeKeys (table : NameTable (List SearchRule)) :
    ReadsLastSpelling table fun name =>
      ((normalizeKeys table).find? (normalizeName name)).getD [] where
  known name entry last := by rw [last.find?_normalizeKeys, Option.getD_some]
  unknown name absent := by rw [find?_normalizeKeys_eq_none_iff.2 absent, Option.getD_none]

/-- Rules are lost exactly if a last spelling lacks them. -/
theorem ReadsLastSpelling.keepsRules_iff (reads : ReadsLastSpelling table lookup) :
    KeepsRules table lookup ↔ SpellingsAgree table := by
  constructor
  · intro keeps entry mem last isLast rule listed
    rw [← reads.known entry.1 last isLast]
    exact keeps entry mem rule listed
  · intro agree entry mem rule listed
    obtain ⟨last, isLast⟩ := exists_lastSpelling mem
    rw [reads.known entry.1 last isLast]
    exact agree entry mem last isLast rule listed

/-- The spellings of a table agree if no two of its names have one normal form. -/
theorem spellingsAgree_of_nodup
    (distinct : (table.entries.map fun entry => normalizeName entry.1).Nodup) :
    SpellingsAgree table := by
  intro entry mem last isLast rule listed
  rwa [← List.inj_on_of_nodup_map distinct isLast.mem mem isLast.spells] at listed

namespace SynergyRules

/-- Compiled, the searches of a keyword are those of its last spelling. -/
theorem readsLastSpelling_keywordRules (rules : SynergyRules) :
    ReadsLastSpelling rules.keywords rules.compile.keywordRules :=
  readsLastSpelling_normalizeKeys rules.keywords

/-- Compiled, the searches of a card type are those of its last spelling. -/
theorem readsLastSpelling_typeRules (rules : SynergyRules) :
    ReadsLastSpelling rules.types rules.compile.typeRules :=
  readsLastSpelling_normalizeKeys rules.types

/-- Compiled tables have for each keyword and each card type the searches of its last spelling. So
they lose no rule exactly if the spellings of each agree. -/
theorem compile_keepsRules_iff (rules : SynergyRules) :
    (ReadsLastSpelling rules.keywords rules.compile.keywordRules ∧
      ReadsLastSpelling rules.types rules.compile.typeRules) ∧
    (KeepsRules rules.keywords rules.compile.keywordRules ↔ SpellingsAgree rules.keywords) ∧
    (KeepsRules rules.types rules.compile.typeRules ↔ SpellingsAgree rules.types) := by
  have keywords := rules.readsLastSpelling_keywordRules
  have types := rules.readsLastSpelling_typeRules
  exact ⟨⟨keywords, types⟩, keywords.keepsRules_iff, types.keepsRules_iff⟩

/-- Of two spellings of a name in a table the first one loses its rule. -/
theorem compile_drops_rules_of_first_spelling :
    let rules : SynergyRules := {
      keywords := .ofList [
        ("Flying", [⟨"reach", "Blocks flyers"⟩]), ("flying", [⟨"flash", "Ambushes flyers"⟩])]
      types := .ofList [
        ("Artifact", [⟨"metalcraft", "Counts artifacts"⟩]),
        (" artifact", [⟨"affinity", "Cheaper with artifacts"⟩])] }
    ¬KeepsRules rules.keywords rules.compile.keywordRules ∧
      ¬KeepsRules rules.types rules.compile.typeRules := by
  unfold KeepsRules
  decide

/-- The built-in tables lose no rule. -/
theorem builtIn_keepsRules :
    KeepsRules builtIn.keywords builtIn.compile.keywordRules ∧
      KeepsRules builtIn.types builtIn.compile.typeRules := by
  constructor
  · have agree : SpellingsAgree builtIn.keywords := spellingsAgree_of_nodup (by decide)
    exact builtIn.readsLastSpelling_keywordRules.keepsRules_iff.2 agree
  · have agree : SpellingsAgree builtIn.types := spellingsAgree_of_nodup (by decide)
    exact builtIn.readsLastSpelling_typeRules.keepsRules_iff.2 agree

end SynergyRules

end Deckwright
