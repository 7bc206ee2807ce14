import Deckwright.Combo.Basic
import Deckwright.Proofs.FirstPerKey
import Deckwright.Proofs.Unicode.Caseless

/-!
# Distinct names of cards

A name is trimmed and then lower-cased. Its normal form is trimmed, since lower-casing puts no
blanks at the ends, and in lower case; so it is its own normal form. The normal form is empty for
blank names only.

The distinct names of a list are the first names of their normal forms, without those that are
blank or were seen before (`distinctNames_eq_filter`). They are the names at the places of first
mentions: a place is one if its name is not blank and no earlier name has the same normal form. So
each card of a combo keeps the spelling and the place of its first mention.
-/

namespace Deckwright

open Unicode

/-! ## Normal forms of names -/

/-- There are no characters in the name but blanks. -/
def IsBlankName (name : String) : Prop := ∀ c ∈ name.toList, isBlank c = true

instance (name : String) : Decidable (IsBlankName name) :=
  decidable_of_iff (name.toList.all isBlank = true) List.all_eq_true

/-- The normal form of a name begins and ends with no blank. -/
theorem isTrimmed_normalizeName (name : String) : IsTrimmed (normalizeName name).toList := by
  rw [normalizeName, String.toList_ofList]
  exact (isTrimmed_trimBlanks name.toList).lower

/-- A normal form is its own normal form. -/
theorem normalizeName_normalizeName (name : String) :
    normalizeName (normalizeName name) = normalizeName name := by
  have trimmed := (isTrimmed_normalizeName name).trimBlanks_eq
  rw [normalizeName, trimmed, normalizeName, String.toList_ofList, lower_lower]

example : normalizeName "\tİzmir\n" = "i̇zmir" ∧ normalizeName "i̇zmir" = "i̇zmir" := by
  decide +kernel

/-- Blank names have an empty normal form, and no others. -/
theorem normalizeName_eq_empty_iff (name : String) :
    normalizeName name = "" ↔ IsBlankName name := by
  rw [← String.toList_inj, normalizeName, String.toList_ofList, String.toList_empty,
    lower_eq_nil_iff, trimBlanks_eq_nil_iff]
  rfl

/-! ## Distinct names -/

/-- Distinct names are the first ones of their normal forms, if these are not empty and were not
seen before. -/
theorem distinctNames_eq_filter (seen names : List String) :
    distinctNames seen names = (firstPerKey normalizeName names).filter fun name =>
      normalizeName name ≠ "" ∧ normalizeName name ∉ seen := by
  induction names generalizing seen with
  | nil => rfl
  | cons first rest ih =>
    by_cases idle : normalizeName first = "" ∨ normalizeName first ∈ seen
    · have passed : ¬(normalizeName first ≠ "" ∧ normalizeName first ∉ seen) := by
        rintro ⟨shown, unseen⟩
        exact idle.elim shown unseen
      rw [distinctNames_cons_of_idle idle, ih, firstPerKey,
        List.filter_cons_of_neg (by simpa only [decide_eq_true_eq] using passed),
        List.filter_filter]
      refine List.filter_congr ?_
      intro later _
      -- A later name of this normal form is passed over too.
      by_cases same : normalizeName later = normalizeName first
      · simp only [same, passed, decide_false, Bool.false_and]
      · simp [same]
    · rw [distinctNames_cons_of_new idle, ih, firstPerKey,
        List.filter_cons_of_pos (by simpa only [decide_eq_true_eq, not_or] using idle),
        List.filter_filter]
      refine congrArg (List.cons first) (List.filter_congr ?_)
      intro later _
      rw [Bool.eq_iff_iff, Bool.and_eq_true]
      simp only [decide_eq_true_eq, List.mem_cons, not_or]
      rw [and_left_comm, and_comm (a := normalizeName later ≠ normalizeName first), and_assoc]

/-- The distinct names are some of the names, in their order. -/
theorem distinctNames_sublist (seen names : List String) :
    (distinctNames seen names).Sublist names := by
  rw [distinctNames_eq_filter]
  exact List.filter_sublist.trans (firstPerKey_sublist normalizeName names)

/-- No distinct name is blank or has a normal form that was seen before. -/
theorem fresh_of_mem_distinctNames {seen names : List String} {name : String}
    (mem : name ∈ distinctNames seen names) :
    normalizeName name ≠ "" ∧ normalizeName name ∉ seen := by
  rw [distinctNames_eq_filter] at mem
  exact of_decide_eq_true (List.mem_filter.1 mem).2

/-- Distinct names have different normal forms. -/
theorem nodup_map_distinctNames (seen names : List String) :
    ((distinctNames seen names).map normalizeName).Nodup := by
  rw [distinctNames_eq_filter]
  exact (nodup_map_firstPerKey normalizeName names).sublist (List.filter_sublist.map _)

/-- Each normal form that is not empty and was not seen before is that of a distinct name. -/
theorem mem_map_distinctNames {seen names : List String} {key : String}
    (mem : key ∈ names.map normalizeName) (shown : key ≠ "") (unseen : key ∉ seen) :
    key ∈ (distinctNames seen names).map normalizeName := by
  obtain ⟨name, kept, rfl⟩ := List.mem_map.1 (mem_map_firstPerKey.2 mem)
  rw [distinctNames_eq_filter]
  exact List.mem_map_of_mem (List.mem_filter.2 ⟨kept, decide_eq_true ⟨shown, unseen⟩⟩)

/-- The distinct names of distinct names are all of them. -/
theorem distinctNames_distinctNames (seen names : List String) :
    distinctNames seen (distinctNames seen names) = distinctNames seen names := by
  rw [distinctNames_eq_filter seen (distinctNames seen names),
    firstPerKey_eq_self (nodup_map_distinctNames seen names), List.filter_eq_self]
  intro name mem
  exact decide_eq_true (fresh_of_mem_distinctNames mem)

/-! ## First mentions -/

/-- The name stands at the place for the first time: it is not blank, and its normal form was
neither seen before nor is that of an earlier name. -/
structure IsFirstMention (seen names : List String) (place : Nat) (name : String) : Prop where
  /-- The name stands at the place. -/
  stands : names[place]? = some name
  /-- The name is not blank. -/
  shown : ¬IsBlankName name
  /-- The normal form was not seen before. -/
  unseen : normalizeName name ∉ seen
  /-- No earlier name has the same normal form. -/
  first : ∀ earlier ∈ names.take place, normalizeName earlier ≠ normalizeName name

/-- The first name of a list is mentioned for the first time if it is not passed over. -/
theorem exists_isFirstMention_zero_iff {seen rest : List String} {first : String} :
    (∃ name, IsFirstMention seen (first :: rest) 0 name) ↔
      ¬(normalizeName first = "" ∨ normalizeName first ∈ seen) := by
  rw [not_or, normalizeName_eq_empty_iff]
  constructor
  · rintro ⟨name, ⟨⟩, shown, unseen, -⟩
    exact ⟨shown, unseen⟩
  · rintro ⟨shown, unseen⟩
    exact ⟨first, rfl, shown, unseen, List.forall_mem_nil _⟩

/-- After the first name of a list, its normal form counts as seen. -/
theorem isFirstMention_succ_iff {seen rest : List String} {first name : String} {place : Nat} :
    IsFirstMention seen (first :: rest) (place + 1) name ↔
      IsFirstMention (normalizeName first :: seen) rest place name := by
  constructor
  · rintro ⟨stands, shown, unseen, new⟩
    rw [List.take_succ_cons, List.forall_mem_cons] at new
    refine ⟨stands, shown, ?_, new.2⟩
    rw [List.mem_cons, not_or]
    exact ⟨Ne.symm new.1, unseen⟩
  · rintro ⟨stands, shown, unseen, new⟩
    rw [List.mem_cons, not_or] at unseen
    refine ⟨stands, shown, unseen.2, ?_⟩
    rw [List.take_succ_cons, List.forall_mem_cons]
    exact ⟨Ne.symm unseen.1, new⟩

/-- A normal form that is empty or was seen already does not count as seen anew. -/
theorem isFirstMention_cons_seen_iff {seen names : List String} {key name : String} {place : Nat}
    (idle : key = "" ∨ key ∈ seen) :
    IsFirstMention (key :: seen) names place name ↔ IsFirstMention seen names place name := by
  constructor
  · rintro ⟨stands, shown, unseen, new⟩
    exact ⟨stands, shown, fun mem => unseen (List.mem_cons_of_mem key mem), new⟩
  · rintro ⟨stands, shown, unseen, new⟩
    refine ⟨stands, shown, ?_, new⟩
    rw [List.mem_cons, not_or]
    refine ⟨?_, unseen⟩
    rintro rfl
    exact idle.elim (fun blank => shown ((normalizeName_eq_empty_iff name).1 blank)) unseen

/-- The distinct names are those at the places of first mentions, in ascending order. -/
theorem exists_places_distinctNames (seen names : List String) :
    ∃ places : List Nat, places.Pairwise (· < ·) ∧
      (∀ place, place ∈ places ↔ ∃ name, IsFirstMention seen names place name) ∧
      distinctNames seen names = places.filterMap fun place => names[place]? := by
  induction names generalizing seen with
  | nil =>
    refine ⟨[], .nil, ?_, rfl⟩
    intro place
    refine iff_of_false List.not_mem_nil ?_
    rintro ⟨name, ⟨⟩, -⟩
  | cons name rest ih =>
    -- Behind the first name every place is one greater than in the rest.
    have shifted (places : List Nat) :
        (places.map (· + 1)).filterMap (fun place => (name :: rest)[place]?) =
          places.filterMap fun place => rest[place]? := List.filterMap_map
    by_cases idle : normalizeName name = "" ∨ normalizeName name ∈ seen
    · obtain ⟨places, ascend, mem_iff, kept⟩ := ih seen
      refine ⟨places.map (· + 1), ?_, ?_, ?_⟩
      · exact ascend.map _ fun _ _ => Nat.succ_lt_succ
      · intro place
        cases place with
        | zero =>
          refine iff_of_false (by simp) ?_
          rw [exists_isFirstMention_zero_iff, not_not]
          exact idle
        | succ place =>
          simp only [List.mem_map, Nat.add_right_cancel_iff, exists_eq_right, mem_iff,
            isFirstMention_succ_iff, isFirstMention_cons_seen_iff idle]
      · rw [distinctNames_cons_of_idle idle, kept, shifted]
    · obtain ⟨places, ascend, mem_iff, kept⟩ := ih (normalizeName name :: seen)
      refine ⟨0 :: places.map (· + 1), ?_, ?_, ?_⟩
      · refine List.pairwise_cons.2 ⟨?_, ascend.map _ fun _ _ => Nat.succ_lt_succ⟩
        intro place mem
        obtain ⟨earlier, -, rfl⟩ := List.mem_map.1 mem
        exact Nat.succ_pos earlier
      · intro place
        cases place with
        | zero =>
          exact iff_of_true List.mem_cons_self (exists_isFirstMention_zero_iff.2 idle)
        | succ place =>
          simp only [List.mem_cons, Nat.add_one_ne_zero, false_or, List.mem_map,
            Nat.add_right_cancel_iff, exists_eq_right, mem_iff, isFirstMention_succ_iff]
      · rw [distinctNames_cons_of_new idle, kept, List.filterMap_cons, shifted]
        rfl

namespace Combo

/-- Cards that are listed once stay as they are. -/
@[simp] theorem distinctCards_distinctCards (combo : Combo) :
    combo.distinctCards.distinctCards = combo.distinctCards :=
  congrArg (fun cards => { combo with cards := cards })
    (distinctNames_distinctNames [] combo.cards)

/-- Listing each card of a combo once keeps some of the names in order: none of them is blank, no
two of them have one normal form, and each normal form of a name that is not blank is kept. The
names that are kept are those at the places of first mentions. Doing so again changes nothing, and
nothing but the cards is changed. -/
theorem distinctCards_keeps_first_mentions (combo : Combo) :
    let kept := combo.distinctCards
    kept.cards.Sublist combo.cards ∧
    (∀ name ∈ kept.cards, ¬IsBlankName name) ∧
    (kept.cards.map normalizeName).Nodup ∧
    (∀ name ∈ combo.cards, ¬IsBlankName name →
      normalizeName name ∈ kept.cards.map normalizeName) ∧
    (∃ places : List Nat, places.Pairwise (· < ·) ∧
      (∀ place, place ∈ places ↔ ∃ name, IsFirstMention [] combo.cards place name) ∧
      kept.cards = places.filterMap fun place => combo.cards[place]?) ∧
    kept.distinctCards = kept ∧
    kept.id = combo.id ∧ kept.description = combo.description ∧
    kept.colorIdentity = combo.colorIdentity ∧ kept.effects = combo.effects := by
  intro kept
  refine ⟨distinctNames_sublist [] combo.cards, ?_, nodup_map_distinctNames [] combo.cards, ?_,
    exists_places_distinctNames [] combo.cards, combo.distinctCards_distinctCards, rfl, rfl, rfl,
    rfl⟩
  · intro name mem blank
    exact (fresh_of_mem_distinctNames mem).1 ((normalizeName_eq_empty_iff name).2 blank)
  · intro name mem shown
    have nonempty := mt (normalizeName_eq_empty_iff name).1 shown
    exact mem_map_distinctNames (List.mem_map_of_mem mem) nonempty List.not_mem_nil

end Combo

end Deckwright
