import Deckwright.Json.Reader
import Mathlib.Data.List.Forall2

/-!
# Records that are read in step

Two records whose fields have the same names and hold values of the same kinds are read from a text
in step: both readers refuse it with the same problem, or both accept it and leave the same rest.
What they make of the text may differ. It is related if the blank records are, and setting a field
on either side keeps the relation.
-/

namespace Deckwright.Json

variable {α β γ : Type} {R : α → β → Prop}

/-- Two results of reading agree: they are the same problem, or related values with the same rest
of the text. -/
inductive InStep (R : α → β → Prop) :
    Except Problem (α × List Token) → Except Problem (β × List Token) → Prop where
  /-- Both readers refuse the text. -/
  | refused (p : Problem) : InStep R (.error p) (.error p)
  /-- Both readers accept the text. -/
  | accepted {a : α} {b : β} (related : R a b) (rest : List Token) :
    InStep R (.ok (a, rest)) (.ok (b, rest))

/-- Results in step are one of the two. -/
theorem InStep.cases {result : Except Problem (α × List Token)}
    {result' : Except Problem (β × List Token)} (step : InStep R result result') :
    (∃ p, result = .error p ∧ result' = .error p) ∨
      ∃ a b rest, result = .ok (a, rest) ∧ result' = .ok (b, rest) ∧ R a b := by
  cases step with
  | refused p => exact .inl ⟨p, rfl, rfl⟩
  | accepted related rest => exact .inr ⟨_, _, rest, rfl, rfl, related⟩

/-- What one reader accepts as a whole, the other does, with a related value. -/
theorem readWhole_inStep {read : Reader α} {read' : Reader β}
    (step : ∀ ts, InStep R (read ts) (read' ts)) {text : String} {a : α}
    (accepted : readWhole read text = .ok a) : ∃ b, readWhole read' text = .ok b ∧ R a b := by
  rw [readWhole] at accepted ⊢
  rcases (step (tokens text.toList)).cases with ⟨p, result, _⟩ |
    ⟨a', b, rest, result, result', related⟩
  · rw [result] at accepted
    cases accepted
  · rw [result] at accepted
    rw [result']
    cases rest with
    | nil =>
      cases accepted
      exact ⟨b, rfl, related⟩
    | cons t rest => cases accepted

/-! ## Fields -/

/-- Two fields are one field of two kinds of records: they have one name, their absence means the
same, and they are read in step, as changes that keep the relation between the records. -/
structure Field.InStep (R : α → β → Prop) (field : Field α) (field' : Field β) : Prop where
  /-- The fields have one name. -/
  name : field'.name = field.name
  /-- Their absence means the same. -/
  absence : field'.absence = field.absence
  /-- They are read in step, and set in step. -/
  read : ∀ ts, Json.InStep (fun set set' => ∀ a b, R a b → R (set a) (set' b)) (field.read ts)
    (field'.read ts)

/-- Fields that hold values of one kind are in step if setting both to a value keeps the
relation. -/
theorem Field.inStep_of {set : γ → α → α} {set' : γ → β → β}
    (keeps : ∀ v a b, R a b → R (set v a) (set' v b)) (name : String) (absence : Absence)
    (read : Reader γ) : InStep R (.of name absence read set) (.of name absence read set') := by
  refine ⟨rfl, rfl, fun ts => ?_⟩
  simp only [Field.of, Reader.map]
  cases read ts with
  | error p => exact .refused p
  | ok result => exact .accepted (keeps result.1) result.2

/-- What is read after a field is read in step if it is for any related records. -/
theorem Field.InStep.andThen {field : Field α} {field' : Field β} (both : field.InStep R field')
    {next : α → List Token → Except Problem (α × List Token)}
    {next' : β → List Token → Except Problem (β × List Token)}
    (later : ∀ a b rest, R a b → Json.InStep R (next a rest) (next' b rest)) {a : α} {b : β}
    (related : R a b) (ts : List Token) :
    Json.InStep R
      (match field.read ts with
        | .error p => .error p
        | .ok (set, rest) => next (set a) rest)
      (match field'.read ts with
        | .error p => .error p
        | .ok (set', rest) => next' (set' b) rest) := by
  rcases (both.read ts).cases with ⟨p, refused, refused'⟩ | ⟨set, set', rest, read, read', sets⟩
  · rw [refused, refused']
    exact .refused p
  · rw [read, read']
    exact later (set a) (set' b) rest (sets a b related)

section Fields

variable {fields : List (Field α)} {fields' : List (Field β)}
  (inStep : List.Forall₂ (Field.InStep R) fields fields')

include inStep

/-- One field is missing on both sides, or none is. -/
theorem requireFields_inStep (given : List String) (a : α) (b : β) :
    (∃ p, requireFields given a fields = .error p ∧ requireFields given b fields' = .error p) ∨
      requireFields given a fields = .ok a ∧ requireFields given b fields' = .ok b := by
  induction inStep with
  | nil => exact .inr ⟨rfl, rfl⟩
  | cons head _ ih =>
    rw [requireFields, requireFields, head.name, head.absence]
    split
    · exact .inl ⟨_, rfl, rfl⟩
    · exact ih

/-- A name is that of fields in step, or of no field on either side. -/
theorem find?_inStep (name : String) :
    ((fields.find? fun field => field.name == name) = none ∧
        (fields'.find? fun field => field.name == name) = none) ∨
      ∃ field field', (fields.find? fun field => field.name == name) = some field ∧
        (fields'.find? fun field => field.name == name) = some field' ∧
        field.InStep R field' := by
  induction inStep with
  | nil => exact .inl ⟨rfl, rfl⟩
  | @cons field field' _ _ head _ ih =>
    rw [List.find?_cons, List.find?_cons, head.name]
    cases field.name == name with
    | true => exact .inr ⟨field, field', rfl, rfl, head⟩
    | false => exact ih

/-- Fields given in a map are read in step, whatever was read before. -/
theorem readFields_inStep (fuel : Nat) (first : Bool) (given : List String) {a : α} {b : β}
    (related : R a b) (ts : List Token) :
    InStep R (readFields fields fuel first given a ts)
      (readFields fields' fuel first given b ts) := by
  -- Both readers see the same keys, so they stop at the same places; only fields that are set
  -- change the records, and they do so in step.
  induction fuel generalizing first given a b ts with
  | zero => exact .refused _
  | succ fuel ih =>
    rw [readFields, readFields]
    rcases readKey first ts with p | ⟨_ | name, rest⟩
    · exact .refused p
    · rcases requireFields_inStep inStep given a b with ⟨p, missing, missing'⟩ | ⟨done, done'⟩
      · simp only [missing, missing']
        exact .refused p
      · simp only [done, done']
        exact .accepted related rest
    · rcases find?_inStep inStep name with ⟨unknown, unknown'⟩ |
        ⟨field, field', known, known', both⟩
      · -- A value of no field is passed over.
        simp only [unknown, unknown']
        rcases readColon rest with p | ⟨_, rest⟩
        · exact .refused p
        dsimp only
        rcases skipValue rest with p | ⟨_, rest⟩
        · exact .refused p
        exact ih false given related rest
      · simp only [known, known']
        split
        · exact .refused _
        rcases readColon rest with p | ⟨_, rest⟩
        · exact .refused p
        exact both.andThen (fun a b rest related => ih false (name :: given) related rest) related
          rest

/-- Fields given by their positions in a list are read in step. -/
theorem readPositions_inStep (wanted : String) (position : Nat) {a : α} {b : β} (related : R a b)
    (ts : List Token) :
    InStep R (readPositions wanted fields position a ts)
      (readPositions wanted fields' position b ts) := by
  induction inStep generalizing position a b ts with
  | nil =>
    rw [readPositions, readPositions]
    rcases readRecordEnd ts with p | ⟨_, rest⟩
    · exact .refused p
    · exact .accepted related rest
  | @cons field field' fields fields' head _ ih =>
    have item := head.andThen (fun a b rest related => ih (position + 1) related rest) related
    rcases ts with _ | ⟨t, rest⟩
    · exact .refused _
    by_cases ends : t = .closeList
    · subst ends
      rw [readPositions, readPositions, requireItem, requireItem, head.absence]
      split
      · exact .refused _
      · exact ih (position + 1) related _
    · simp only [readPositions]
      split
      · exact item (t :: rest)
      · -- After a comma the text ends, the list ends, or an item follows.
        split
        · exact .refused _
        · exact .refused _
        · exact item _
        · exact .refused _

end Fields

/-- Records are read in step if their fields are and the blank records are related. -/
theorem readRecord_inStep (typeName : String) {fields : List (Field α)} {fields' : List (Field β)}
    (inStep : List.Forall₂ (Field.InStep R) fields fields') {blank : α} {blank' : β}
    (related : R blank blank') (ts : List Token) :
    InStep R (readRecord typeName fields blank ts) (readRecord typeName fields' blank' ts) := by
  rcases ts with _ | ⟨t, rest⟩
  · exact .refused _
  cases t with
  | openMap => exact readFields_inStep inStep _ true [] related rest
  | openList =>
    rw [readRecord, readRecord, inStep.length_eq]
    exact readPositions_inStep inStep _ 0 related rest
  | _ => exact .refused _

end Deckwright.Json
