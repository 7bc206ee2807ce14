import Deckwright.Pattern.Track

/-!
# What a regular expression matches

A text is searched for all starts at once, with sets of positions packed into numbers. This module
says which parts of a text an expression matches, by its structure and for one start at a time
(`Regex.Spans`), and that the search finds these parts and no others. The one step that needs an
argument is a repetition without an upper bound: copies that stay where they are add nothing, so no
more copies count than the text has characters.
-/

namespace Deckwright.Pattern

open Unicode (CharSet)

/-! ## Steps in a row -/

/-- A number of steps in a row lead from one position to another. -/
def Copies (step : Nat → Nat → Prop) : (count : Nat) → Nat → Nat → Prop
  | 0, i, j => i = j
  | count + 1, i, j => ∃ k, step i k ∧ Copies step count k j

namespace Copies

variable {step : Nat → Nat → Prop}

/-- Steps in a row can be taken in two parts. -/
theorem add_iff (first second i j : Nat) :
    Copies step (first + second) i j ↔ ∃ k, Copies step first i k ∧ Copies step second k j := by
  induction first generalizing i with
  | zero =>
    rw [Nat.zero_add]
    constructor
    · intro all
      exact ⟨i, rfl, all⟩
    · rintro ⟨k, rfl, later⟩
      exact later
  | succ first ih =>
    rw [Nat.succ_add, Copies]
    constructor
    · rintro ⟨m, head, tail⟩
      obtain ⟨k, early, late⟩ := (ih m).1 tail
      exact ⟨k, ⟨m, head, early⟩, late⟩
    · rintro ⟨k, ⟨m, head, early⟩, late⟩
      exact ⟨m, head, (ih m).2 ⟨k, early, late⟩⟩

/-- Steps that never lead back go no further together than each of them. -/
theorem bounds {limit : Nat} (forward : ∀ i j, step i j → i ≤ j ∧ j ≤ max i limit) {count i j : Nat}
    (copies : Copies step count i j) : i ≤ j ∧ j ≤ max i limit := by
  induction count generalizing i with
  | zero =>
    obtain rfl : i = j := copies
    omega
  | succ count ih =>
    obtain ⟨k, head, tail⟩ := copies
    have := forward i k head
    have := ih tail
    omega

/-- If steps never lead back, those that stay where they are can be left out. -/
theorem exists_few (forward : ∀ i j, step i j → i ≤ j) {count i j : Nat}
    (copies : Copies step count i j) : ∃ few, i + few ≤ j ∧ Copies step few i j := by
  induction count generalizing i with
  | zero =>
    obtain rfl : i = j := copies
    exact ⟨0, Nat.le_refl i, rfl⟩
  | succ count ih =>
    obtain ⟨k, head, tail⟩ := copies
    obtain ⟨few, short, rest⟩ := ih tail
    have ahead := forward i k head
    by_cases stays : i = k
    · exact ⟨few, stays ▸ short, stays ▸ rest⟩
    · exact ⟨few + 1, by omega, k, head, rest⟩

end Copies

/-! ## Sets of positions -/

/-- The function takes a set of positions to the set of those that are a step away from it. -/
def Follows (move : Positions → Positions) (step : Nat → Nat → Prop) : Prop :=
  ∀ starts j, (move starts).testBit j = true ↔ ∃ i, starts.testBit i = true ∧ step i j

namespace Follows

variable {move : Positions → Positions} {step : Nat → Nat → Prop}

/-- Nothing is a step away from the empty set. -/
theorem zero (follows : Follows move step) : move 0 = 0 := by
  refine Nat.eq_of_testBit_eq fun j => ?_
  rw [Nat.zero_testBit, Bool.eq_false_iff, ne_eq, follows]
  rintro ⟨i, absurd, -⟩
  exact Bool.noConfusion ((Nat.zero_testBit i).symm.trans absurd)

/-- Two functions in a row follow two steps in a row. -/
theorem comp {next : Positions → Positions} {later : Nat → Nat → Prop}
    (follows : Follows move step) (followsLater : Follows next later) :
    Follows (fun starts => next (move starts)) fun i j => ∃ k, step i k ∧ later k j := by
  intro starts j
  rw [followsLater]
  constructor
  · rintro ⟨k, reached, tail⟩
    obtain ⟨i, started, head⟩ := (follows starts k).1 reached
    exact ⟨i, started, k, head, tail⟩
  · rintro ⟨i, started, k, head, tail⟩
    exact ⟨k, (follows starts k).2 ⟨i, started, head⟩, tail⟩

/-- A function may be skipped on the empty set. -/
theorem skip_empty (follows : Follows move step) (starts : Positions) :
    (if starts = 0 then 0 else move starts) = move starts := by
  split
  · rename_i empty
    rw [empty, follows.zero]
  · rfl

/-- A function applied a number of times follows as many steps. -/
theorem iterate (follows : Follows move step) (count : Nat) :
    Follows (Pattern.iterate move count) (Copies step count) := by
  induction count with
  | zero =>
    intro starts j
    exact ⟨fun started => ⟨j, started, rfl⟩, fun ⟨_, started, same⟩ => same ▸ started⟩
  | succ count ih =>
    intro starts j
    have unfolded : Pattern.iterate move (count + 1) starts =
        Pattern.iterate move count (move starts) := by
      have composed := follows.comp ih
      exact composed.skip_empty starts
    rw [unfolded]
    exact follows.comp ih starts j

/-- Spreading reaches what at most the given number of steps reach. Of the positions reached, only
fresh ones are stepped from, since the steps from the others are already accounted for. -/
theorem testBit_spread_iff (follows : Follows move step) (count : Nat) {reached fresh : Positions}
    (fresh_reached : ∀ i, fresh.testBit i = true → reached.testBit i = true)
    (settled : ∀ i j, reached.testBit i = true → fresh.testBit i = false → step i j →
      reached.testBit j = true) (j : Nat) :
    (spread move count reached fresh).testBit j = true ↔
      ∃ taken ≤ count, ∃ i, reached.testBit i = true ∧ Copies step taken i j := by
  induction count generalizing reached fresh with
  | zero =>
    constructor
    · intro found
      exact ⟨0, Nat.le_refl 0, j, found, rfl⟩
    · rintro ⟨taken, few, i, found, copies⟩
      obtain rfl : taken = 0 := Nat.le_zero.1 few
      obtain rfl : i = j := copies
      exact found
  | succ count ih =>
    have new_iff (k : Nat) : (move fresh ^^^ (move fresh &&& reached)).testBit k = true ↔
        (move fresh).testBit k = true ∧ reached.testBit k = false := by
      rw [Nat.testBit_xor, Nat.testBit_and]
      cases (move fresh).testBit k <;> cases reached.testBit k <;> simp
    -- A step from a position reached leads to one reached before or to a new one.
    have onward (i k : Nat) (found : reached.testBit i = true) (stepped : step i k) :
        reached.testBit k = true ∨
          (move fresh ^^^ (move fresh &&& reached)).testBit k = true := by
      cases known : reached.testBit k with
      | true => exact .inl rfl
      | false =>
        refine .inr ((new_iff k).2 ⟨?_, known⟩)
        cases unsettled : fresh.testBit i with
        | true => exact (follows fresh k).2 ⟨i, unsettled, stepped⟩
        | false => exact absurd (settled i k found unsettled stepped) (by simp [known])
    rw [spread]
    split
    · rename_i none
      have closed (taken i : Nat) (found : reached.testBit i = true)
          (copies : Copies step taken i j) : reached.testBit j = true := by
        induction taken generalizing i with
        | zero =>
          obtain rfl : i = j := copies
          exact found
        | succ taken more =>
          obtain ⟨k, head, tail⟩ := copies
          refine more k ((onward i k found head).resolve_right ?_) tail
          rw [none, Nat.zero_testBit]
          exact Bool.false_ne_true
      constructor
      · intro found
        exact ⟨0, Nat.zero_le _, j, found, rfl⟩
      · rintro ⟨taken, -, i, found, copies⟩
        exact closed taken i found copies
    · have joined_iff (k : Nat) :
          (reached ||| (move fresh ^^^ (move fresh &&& reached))).testBit k = true ↔
            reached.testBit k = true ∨
              (move fresh ^^^ (move fresh &&& reached)).testBit k = true := by
        rw [Nat.testBit_or, Bool.or_eq_true]
      rw [ih (fun i new => (joined_iff i).2 (.inr new)) ?_]
      · constructor
        · rintro ⟨taken, few, i, found, copies⟩
          rcases (joined_iff i).1 found with old | new
          · exact ⟨taken, Nat.le_succ_of_le few, i, old, copies⟩
          · obtain ⟨start, started, head⟩ := (follows fresh i).1 ((new_iff i).1 new).1
            exact ⟨taken + 1, Nat.succ_le_succ few, start, fresh_reached start started, i, head,
              copies⟩
        · rintro ⟨taken, few, i, found, copies⟩
          cases taken with
          | zero => exact ⟨0, Nat.zero_le _, i, (joined_iff i).2 (.inl found), copies⟩
          | succ taken =>
            obtain ⟨k, head, tail⟩ := copies
            exact ⟨taken, Nat.le_of_succ_le_succ few, k,
              (joined_iff k).2 (onward i k found head), tail⟩
      · intro i k found old stepped
        have known : reached.testBit i = true :=
          ((joined_iff i).1 found).resolve_right (by simp [old])
        exact (joined_iff k).2 (onward i k known stepped)

/-- Spreading from a set reaches what at most the given number of steps from it reach. -/
theorem spread (follows : Follows move step) (count : Nat) :
    Follows (fun starts => Pattern.spread move count starts starts) fun i j =>
      ∃ taken ≤ count, Copies step taken i j := by
  intro starts j
  rw [follows.testBit_spread_iff count (fun _ started => started)
    (fun i _ started stopped => absurd started (by simp [stopped]))]
  constructor
  · rintro ⟨taken, few, i, started, copies⟩
    exact ⟨i, started, taken, few, copies⟩
  · rintro ⟨i, started, taken, few, copies⟩
    exact ⟨taken, few, i, started, copies⟩

end Follows

/-! ## Parts of a text -/

/-- The character before a position of a text. -/
def charBefore (text : List Char) (i : Nat) : Option Char := if i = 0 then none else text[i - 1]?

/-- The expression matches the part of the text between two positions. -/
def Regex.Spans (text : List Char) : Regex → Nat → Nat → Prop
  | .empty, i, j => i = j
  | .set s, i, j => (∃ c, text[i]? = some c ∧ s.contains c.toNat = true) ∧ i + 1 = j
  | .look l, i, j => (i ≤ text.length ∧ l.test (charBefore text i) text[i]? = true) ∧ i = j
  | .capture body, i, j => body.Spans text i j
  | .seq first second, i, j => ∃ k, first.Spans text i k ∧ second.Spans text k j
  | .alt left right, i, j => left.Spans text i j ∨ right.Spans text i j
  | .repetition min max? body, i, j => ∃ extra, (∀ max, max? = some max → extra ≤ max - min) ∧
      Copies (body.Spans text) (min + extra) i j

namespace Regex

/-- A part that is matched ends no earlier than it begins, and within the text. -/
theorem Spans.bounds {text : List Char} {r : Regex} {i j : Nat} (spans : r.Spans text i j) :
    i ≤ j ∧ j ≤ max i text.length := by
  induction r generalizing i j with
  | empty =>
    obtain rfl : i = j := spans
    omega
  | set s =>
    obtain ⟨⟨c, there, -⟩, rfl⟩ := spans
    obtain ⟨inside, -⟩ := List.getElem?_eq_some_iff.1 there
    omega
  | look l =>
    obtain ⟨-, rfl⟩ := spans
    omega
  | capture body ih => exact ih spans
  | seq first second ihFirst ihSecond =>
    obtain ⟨k, head, tail⟩ := spans
    have := ihFirst head
    have := ihSecond tail
    omega
  | alt left right ihLeft ihRight => exact spans.elim ihLeft ihRight
  | repetition min max? body ih =>
    obtain ⟨extra, -, copies⟩ := spans
    exact copies.bounds fun _ _ => ih

/-- With no upper bound on the copies, those after the required ones need not be more than the text
has characters. -/
theorem exists_copies_le {text : List Char} {body : Regex} {max? : Option Nat} {min k j : Nat} :
    (∃ extra, (∀ max, max? = some max → extra ≤ max - min) ∧ Copies (body.Spans text) extra k j) ↔
      ∃ extra ≤ (match max? with
          | none => text.length + 1
          | some max => max - min), Copies (body.Spans text) extra k j := by
  cases max? with
  | some max => simp
  | none =>
    constructor
    · rintro ⟨extra, -, copies⟩
      obtain ⟨few, short, rest⟩ := copies.exists_few fun _ _ spans => spans.bounds.1
      have := rest.bounds fun _ _ spans => spans.bounds
      exact ⟨few, by simp only []; omega, rest⟩
    · rintro ⟨extra, -, copies⟩
      exact ⟨extra, by simp, copies⟩

/-- A run over a text takes positions to the ends of the parts that are matched from them. -/
theorem follows_run (text : List Char) (r : Regex) :
    Follows ((r.against text).run text.length) (r.Spans text) := by
  induction r with
  | empty =>
    intro starts j
    exact ⟨fun started => ⟨j, started, rfl⟩, fun ⟨_, started, same⟩ => same ▸ started⟩
  | set s =>
    intro starts j
    rw [against, Track.run, Nat.testBit_shiftLeft]
    cases j with
    | zero => simp [Spans]
    | succ i =>
      simp only [Nat.testBit_and, testBit_positionsWhere, Spans, Nat.add_right_cancel_iff,
        Nat.add_sub_cancel, Option.any_eq_true, Bool.and_eq_true, decide_eq_true_eq]
      constructor
      · rintro ⟨-, started, member⟩
        exact ⟨i, started, member, rfl⟩
      · rintro ⟨_, started, member, rfl⟩
        exact ⟨Nat.le_add_left 1 _, started, member⟩
  | look l =>
    intro starts j
    simp only [against, Track.run, Nat.testBit_and, testBit_positionsBetween, Spans,
      Bool.and_eq_true, decide_eq_true_eq]
    constructor
    · rintro ⟨started, place⟩
      exact ⟨j, started, place, rfl⟩
    · rintro ⟨_, started, place, rfl⟩
      exact ⟨started, place⟩
  | capture body ih => exact ih
  | seq first second ihFirst ihSecond =>
    intro starts j
    rw [against, Track.run, ihSecond.skip_empty]
    exact ihFirst.comp ihSecond starts j
  | alt left right ihLeft ihRight =>
    intro starts j
    rw [against, Track.run, Nat.testBit_or, Bool.or_eq_true, ihLeft, ihRight]
    simp only [Spans, and_or_left, exists_or]
  | repetition min max? body ih =>
    intro starts j
    rw [against, Track.run.eq_def]
    refine ((ih.iterate min).comp (ih.spread _) starts j).trans
      (exists_congr fun i => and_congr_right fun _ => ?_)
    simp only [Spans, Copies.add_iff]
    constructor
    · rintro ⟨k, required, reached⟩
      obtain ⟨extra, few, copies⟩ := exists_copies_le.2 reached
      exact ⟨extra, few, k, required, copies⟩
    · rintro ⟨extra, few, k, required, copies⟩
      exact ⟨k, required, exists_copies_le.1 ⟨extra, few, copies⟩⟩

/-- An expression matches in a text if it matches a part of it. -/
theorem matchesIn_iff (r : Regex) (text : List Char) :
    r.matchesIn text = true ↔ ∃ i j, i ≤ text.length ∧ r.Spans text i j := by
  have everywhere (i : Nat) : (Nat.pow 2 (text.length + 1) - 1).testBit i = true ↔
      i ≤ text.length := by
    rw [show Nat.pow 2 (text.length + 1) = 2 ^ (text.length + 1) from rfl,
      Nat.testBit_two_pow_sub_one, decide_eq_true_eq, Nat.lt_succ_iff]
  rw [matchesIn, bne_iff_ne]
  constructor
  · intro found
    obtain ⟨j, reached⟩ := Nat.exists_testBit_of_ne_zero found
    obtain ⟨i, started, spans⟩ := (r.follows_run text _ j).1 reached
    exact ⟨i, j, (everywhere i).1 started, spans⟩
  · rintro ⟨i, j, within, spans⟩ none
    have reached := (r.follows_run text _ j).2 ⟨i, (everywhere i).2 within, spans⟩
    rw [none, Nat.zero_testBit] at reached
    exact Bool.noConfusion reached

/-! ## Parts with what stands beside them -/

/-- The expression matches a part of a text, given what stands before and after it. -/
def Matches (r : Regex) (before part after : List Char) : Prop :=
  r.Spans (before ++ part ++ after) before.length (before.length + part.length)

/-- An expression matches in a text if the text can be cut around a part that it matches. -/
theorem matchesIn_iff_exists_matches (r : Regex) (text : List Char) :
    r.matchesIn text = true ↔
      ∃ before part after, text = before ++ part ++ after ∧ r.Matches before part after := by
  rw [matchesIn_iff]
  constructor
  · rintro ⟨i, j, within, spans⟩
    obtain ⟨forward, inside⟩ := spans.bounds
    rw [Nat.max_eq_right within] at inside
    have cut : text = text.take i ++ (text.drop i).take (j - i) ++ (text.drop i).drop (j - i) := by
      rw [List.append_assoc, List.take_append_drop, List.take_append_drop]
    refine ⟨_, _, _, cut, ?_⟩
    rw [Matches, ← cut, List.length_take, List.length_take, List.length_drop,
      Nat.min_eq_left within, Nat.min_eq_left (Nat.sub_le_sub_right inside i),
      Nat.add_sub_cancel' forward]
    exact spans
  · rintro ⟨before, part, after, rfl, spans⟩
    exact ⟨_, _, by simp only [List.length_append]; omega, spans⟩

variable {before part after : List Char}

/-- The empty text is matched everywhere. -/
theorem matches_empty_iff : Regex.empty.Matches before part after ↔ part = [] := by
  rw [Matches, Spans, ← List.length_eq_zero_iff]
  omega

/-- A set matches each of its members. -/
theorem matches_set_iff {s : CharSet} :
    (Regex.set s).Matches before part after ↔ ∃ c, part = [c] ∧ s.contains c.toNat = true := by
  rw [Matches, Spans, Nat.add_left_cancel_iff, eq_comm, List.length_eq_one_iff]
  constructor
  · rintro ⟨⟨c, there, member⟩, d, rfl⟩
    rw [List.append_assoc, List.getElem?_append_right (Nat.le_refl _), Nat.sub_self] at there
    obtain rfl : d = c := Option.some.inj there
    exact ⟨d, rfl, member⟩
  · rintro ⟨c, rfl, member⟩
    exact ⟨⟨c, by simp, member⟩, c, rfl⟩

/-- The character before a part is the last one of what stands before it. -/
theorem charBefore_append (before rest : List Char) :
    charBefore (before ++ rest) before.length = before.getLast? := by
  rw [charBefore, List.getLast?_eq_getElem?]
  split
  · rename_i none
    rw [List.length_eq_zero_iff.1 none]
    rfl
  · rename_i some
    rw [List.getElem?_append_left (by omega)]

/-- A position is matched by its neighbours. -/
theorem matches_look_iff {l : Look} :
    (Regex.look l).Matches before part after ↔
      part = [] ∧ l.test before.getLast? after.head? = true := by
  rw [Matches, Spans, List.append_assoc, charBefore_append,
    List.getElem?_append_right (Nat.le_refl _), Nat.sub_self, ← List.head?_eq_getElem?]
  constructor
  · rintro ⟨⟨-, place⟩, ends⟩
    obtain rfl : part = [] := List.length_eq_zero_iff.1 (by omega)
    exact ⟨rfl, place⟩
  · rintro ⟨rfl, place⟩
    exact ⟨⟨by simp, place⟩, rfl⟩

/-- One expression after another matches what can be cut into a part for each. -/
theorem matches_seq_iff {first second : Regex} :
    (Regex.seq first second).Matches before part after ↔
      ∃ head tail, part = head ++ tail ∧ first.Matches before head (tail ++ after) ∧
        second.Matches (before ++ head) tail after := by
  rw [Matches, Spans]
  constructor
  · rintro ⟨k, headSpans, tailSpans⟩
    have headBounds := headSpans.bounds
    have tailBounds := tailSpans.bounds
    have ends : (part.take (k - before.length)).length = k - before.length := by
      rw [List.length_take]
      omega
    have rest : (part.drop (k - before.length)).length =
        before.length + part.length - k := by
      rw [List.length_drop]
      omega
    refine ⟨part.take (k - before.length), part.drop (k - before.length),
      (List.take_append_drop _ _).symm, ?_, ?_⟩
    · rw [Matches, ends, Nat.add_sub_cancel' headBounds.1, List.append_assoc,
        ← List.append_assoc (part.take _), List.take_append_drop, ← List.append_assoc]
      exact headSpans
    · rw [Matches, List.length_append, ends, rest, Nat.add_sub_cancel' headBounds.1,
        Nat.add_sub_cancel' (by omega), List.append_assoc before, List.take_append_drop]
      exact tailSpans
  · rintro ⟨head, tail, rfl, headMatches, tailMatches⟩
    refine ⟨before.length + head.length, ?_, ?_⟩
    · simpa only [Matches, List.append_assoc] using headMatches
    · simpa only [Matches, List.append_assoc, List.length_append, Nat.add_assoc] using tailMatches

/-- One expression or another matches what either of them matches. -/
theorem matches_alt_iff {left right : Regex} :
    (Regex.alt left right).Matches before part after ↔
      left.Matches before part after ∨ right.Matches before part after := Iff.rfl

/-- Leaving out the empty text changes nothing. -/
theorem matches_andThen_iff {first second : Regex} :
    (first.andThen second).Matches before part after ↔
      (Regex.seq first second).Matches before part after := by
  unfold andThen
  split
  · rw [matches_seq_iff]
    constructor
    · intro found
      exact ⟨[], part, rfl, matches_empty_iff.2 rfl, by rwa [List.append_nil]⟩
    · rintro ⟨head, tail, rfl, none, found⟩
      obtain rfl := matches_empty_iff.1 none
      rwa [List.append_nil] at found
  · rw [matches_seq_iff]
    constructor
    · intro found
      exact ⟨part, [], (List.append_nil part).symm, found, matches_empty_iff.2 rfl⟩
    · rintro ⟨head, tail, rfl, found, none⟩
      obtain rfl := matches_empty_iff.1 none
      rwa [List.append_nil]
  · exact Iff.rfl

end Regex

end Deckwright.Pattern
