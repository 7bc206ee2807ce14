/-!
# Sets of code points

A set of code points is a list of closed intervals, ascending, with a gap between neighbours.
The order and the gaps belong to the type, so every set has one such list. Membership stops at
the first interval that ends at or after the code point, which keeps look-ups of small code
points short in the large tables of character properties. The main statements say which code
points each operation keeps.
-/

namespace Deckwright.Unicode

/-- The largest code point. -/
def maxCodePoint : Nat := 0x10FFFF

/-- A closed interval of code points. -/
structure Interval where
  /-- Least code point of the interval. -/
  first : Nat
  /-- Greatest code point of the interval. -/
  last : Nat
  deriving DecidableEq, Repr, Inhabited

namespace Interval

/-- The interval holds the code point. -/
def contains (i : Interval) (c : Nat) : Bool := i.first ≤ c && c ≤ i.last

/-- The part of one interval that lies in another; empty when first exceeds last. -/
def meet (i j : Interval) : Interval := ⟨max i.first j.first, min i.last j.last⟩

/-- An interval with no code point. -/
def isEmpty (i : Interval) : Bool := i.last < i.first

/-- The least interval that holds two. -/
def hull (i j : Interval) : Interval := ⟨min i.first j.first, max i.last j.last⟩

/-- An interval holds the code points between its ends, ends included. -/
theorem contains_iff (i : Interval) (c : Nat) : i.contains c = true ↔ i.first ≤ c ∧ c ≤ i.last := by
  simp [contains]

/-- The common part of two intervals holds what both hold. -/
theorem contains_meet (i j : Interval) (c : Nat) :
    (i.meet j).contains c = (i.contains c && j.contains c) := by
  rw [Bool.eq_iff_iff]
  simp only [Bool.and_eq_true, contains_iff, meet]
  omega

/-- An empty interval holds nothing. -/
theorem not_contains_of_isEmpty (i : Interval) (c : Nat) (empty : i.isEmpty = true) :
    i.contains c = false := by
  rw [Bool.eq_false_iff, ne_eq, contains_iff]
  simp only [isEmpty, decide_eq_true_eq] at empty
  omega

end Interval

/-! ## Separated intervals -/

/-- Intervals that ascend, none of them empty, with a gap between neighbours. -/
structure Separated (is : List Interval) : Prop where
  /-- No interval is empty. -/
  proper : ∀ i ∈ is, i.first ≤ i.last
  /-- Each ends before the gap to those after it. -/
  gapped : is.Pairwise fun i j => i.last + 1 < j.first

namespace Separated

instance (is : List Interval) : Decidable (Separated is) :=
  decidable_of_iff
    ((∀ i ∈ is, i.first ≤ i.last) ∧ is.Pairwise fun i j => i.last + 1 < j.first)
    ⟨fun h => ⟨h.1, h.2⟩, fun h => ⟨h.1, h.2⟩⟩

/-- No intervals are separated. -/
theorem nil : Separated [] := ⟨by simp, .nil⟩

/-- One interval is separated unless it is empty. -/
theorem single {i : Interval} (proper : i.first ≤ i.last) : Separated [i] :=
  ⟨by simpa using proper, List.pairwise_singleton _ _⟩

/-- Intervals are separated if the first is not empty, ends before the gap to the others, and the
others are separated. -/
theorem cons_iff {i : Interval} {is : List Interval} :
    Separated (i :: is) ↔
      i.first ≤ i.last ∧ (∀ j ∈ is, i.last + 1 < j.first) ∧ Separated is := by
  constructor
  · intro h
    have gapped := List.pairwise_cons.1 h.gapped
    exact ⟨h.proper i List.mem_cons_self, gapped.1,
      fun j hj => h.proper j (List.mem_cons_of_mem i hj), gapped.2⟩
  · rintro ⟨proper, ahead, rest⟩
    refine ⟨?_, List.pairwise_cons.2 ⟨ahead, rest.gapped⟩⟩
    intro j hj
    rcases List.mem_cons.1 hj with rfl | hj
    · exact proper
    · exact rest.proper j hj

end Separated

/-- Search an ascending list of intervals for a code point. -/
def holds (c : Nat) : List Interval → Bool
  | [] => false
  | i :: rest => if c < i.first then false else c ≤ i.last || holds c rest

/-- Searching separated intervals finds a code point exactly when one of them holds it. -/
theorem holds_eq_any {is : List Interval} (separated : Separated is) (c : Nat) :
    holds c is = is.any fun i => i.contains c := by
  induction is with
  | nil => rfl
  | cons i rest ih =>
    obtain ⟨-, ahead, tail⟩ := Separated.cons_iff.1 separated
    rw [List.any_cons, ← ih tail, holds]
    split
    · rename_i below
      have outside : holds c rest = false := by
        rw [ih tail, List.any_eq_false]
        intro j hj
        have := ahead j hj
        have := separated.proper i List.mem_cons_self
        rw [Interval.contains_iff]
        omega
      simp [outside, Interval.contains, Nat.not_le.2 below]
    · rename_i above
      simp [Interval.contains, Nat.not_lt.1 above]

/-- Insert an interval, joining it with every interval it overlaps or touches. -/
def insertInterval (i : Interval) : List Interval → List Interval
  | [] => [i]
  | j :: rest =>
    if i.last + 1 < j.first then i :: j :: rest
    else if j.last + 1 < i.first then j :: insertInterval i rest
    else insertInterval (i.hull j) rest

/-- Nothing begins earlier after an insertion than the first of what went into it. -/
theorem lt_first_of_mem_insertInterval {i k : Interval} {is : List Interval} {bound : Nat}
    (low : bound < i.first) (lows : ∀ j ∈ is, bound < j.first) (mem : k ∈ insertInterval i is) :
    bound < k.first := by
  induction is generalizing i with
  | nil =>
    rw [insertInterval, List.mem_singleton] at mem
    exact mem ▸ low
  | cons j rest ih =>
    have tail : ∀ l ∈ rest, bound < l.first := fun l hl => lows l (List.mem_cons_of_mem j hl)
    have head : bound < j.first := lows j List.mem_cons_self
    simp only [insertInterval] at mem
    split at mem
    · rcases List.mem_cons.1 mem with rfl | mem
      · exact low
      · exact lows k mem
    · split at mem
      · rcases List.mem_cons.1 mem with rfl | mem
        · exact head
        · exact ih low tail mem
      · refine ih ?_ tail mem
        simp only [Interval.hull]
        omega

/-- Inserting an interval that is not empty keeps intervals separated. -/
theorem separated_insertInterval {i : Interval} {is : List Interval}
    (proper : i.first ≤ i.last) (separated : Separated is) :
    Separated (insertInterval i is) := by
  induction is generalizing i with
  | nil => exact .single proper
  | cons j rest ih =>
    obtain ⟨first, ahead, tail⟩ := Separated.cons_iff.1 separated
    simp only [insertInterval]
    split
    · rename_i before
      refine Separated.cons_iff.2 ⟨proper, ?_, separated⟩
      intro k hk
      rcases List.mem_cons.1 hk with rfl | hk
      · exact before
      · have := ahead k hk
        omega
    · split
      · rename_i after
        exact Separated.cons_iff.2
          ⟨first, fun k hk => lt_first_of_mem_insertInterval after ahead hk, ih proper tail⟩
      · refine ih ?_ tail
        simp only [Interval.hull]
        omega

/-- An insertion adds the code points of its interval. -/
theorem any_insertInterval {i : Interval} {is : List Interval} (c : Nat)
    (proper : i.first ≤ i.last) (separated : Separated is) :
    ((insertInterval i is).any fun j => j.contains c) =
      (i.contains c || is.any fun j => j.contains c) := by
  induction is generalizing i with
  | nil => rfl
  | cons j rest ih =>
    obtain ⟨first, -, tail⟩ := Separated.cons_iff.1 separated
    simp only [insertInterval]
    split
    · simp only [List.any_cons]
    · split
      · rw [List.any_cons, ih proper tail, List.any_cons, Bool.or_left_comm]
      · have joined : (i.hull j).contains c = (i.contains c || j.contains c) := by
          rw [Bool.eq_iff_iff, Bool.or_eq_true]
          simp only [Interval.contains_iff, Interval.hull]
          omega
        rw [ih (by simp only [Interval.hull]; omega) tail, joined, List.any_cons, Bool.or_assoc]

/-! ## Sets -/

/-- A set of code points in its interval form. -/
structure CharSet where
  /-- Ascending intervals with a gap between neighbours. -/
  intervals : List Interval
  /-- The intervals are separated. -/
  separated : Separated intervals
  deriving DecidableEq, Repr

namespace CharSet

/-- The code point is in the set. -/
def contains (s : CharSet) (c : Nat) : Bool := holds c s.intervals

/-- A set holds what one of its intervals holds. -/
theorem contains_eq_any (s : CharSet) (c : Nat) :
    s.contains c = s.intervals.any fun i => i.contains c :=
  holds_eq_any s.separated c

/-- The empty set. -/
def empty : CharSet := ⟨[], .nil⟩

instance : Inhabited CharSet := ⟨empty⟩

/-- The empty set holds nothing. -/
@[simp] theorem contains_empty (c : Nat) : empty.contains c = false := rfl

/-- Add all code points of an interval. -/
def insert (s : CharSet) (i : Interval) : CharSet :=
  if proper : i.first ≤ i.last then
    ⟨insertInterval i s.intervals, separated_insertInterval proper s.separated⟩
  else s

/-- An insertion adds the code points of the interval and no others. -/
@[simp] theorem contains_insert (s : CharSet) (i : Interval) (c : Nat) :
    (s.insert i).contains c = (i.contains c || s.contains c) := by
  unfold insert
  split
  · rename_i proper
    rw [contains_eq_any, contains_eq_any, any_insertInterval c proper s.separated]
  · rename_i improper
    rw [i.not_contains_of_isEmpty c (by simpa [Interval.isEmpty] using improper), Bool.false_or]

/-- The set of all code points that lie in some interval of the list. Intervals are inserted
from the last to the first, each before those inserted already. -/
def ofIntervals (is : List Interval) : CharSet :=
  (is.mergeSort fun i j => i.first ≤ j.first).foldr (fun i s => s.insert i) empty

/-- Intervals inserted one after the other leave what one of them holds. -/
theorem contains_foldr_insert (is : List Interval) (c : Nat) :
    (is.foldr (fun i s => s.insert i) empty).contains c = is.any fun i => i.contains c := by
  induction is with
  | nil => rfl
  | cons i rest ih => rw [List.foldr_cons, contains_insert, ih, List.any_cons]

/-- A set made of intervals holds what one of them holds. -/
@[simp] theorem contains_ofIntervals (is : List Interval) (c : Nat) :
    (ofIntervals is).contains c = is.any fun i => i.contains c := by
  rw [ofIntervals, contains_foldr_insert, Bool.eq_iff_iff, List.any_eq_true, List.any_eq_true]
  simp only [List.mem_mergeSort]

/-- The set written as pairs of first and last code point. -/
def ofPairs (pairs : List (Nat × Nat)) : CharSet :=
  ofIntervals (pairs.map fun p => ⟨p.1, p.2⟩)

/-- The set of the listed code points. -/
def ofCodePoints (points : List Nat) : CharSet :=
  ofIntervals (points.map fun c => ⟨c, c⟩)

/-- The set of some code points holds these and no others. -/
@[simp] theorem contains_ofCodePoints (points : List Nat) (c : Nat) :
    (ofCodePoints points).contains c = points.contains c := by
  rw [ofCodePoints, contains_ofIntervals, List.any_map, List.contains_eq_any_beq]
  congr 1
  funext d
  rw [Bool.eq_iff_iff, Function.comp_apply, Interval.contains_iff, beq_iff_eq]
  constructor
  · rintro ⟨low, high⟩
    exact Nat.le_antisymm high low
  · rintro rfl
    exact ⟨Nat.le_refl c, Nat.le_refl c⟩

/-- The set of one code point. -/
def singleton (c : Nat) : CharSet := ⟨[⟨c, c⟩], .single (Nat.le_refl c)⟩

/-- The set of one code point holds that one. -/
@[simp] theorem contains_singleton (c d : Nat) : (singleton c).contains d = (c == d) := by
  rw [contains_eq_any, Bool.eq_iff_iff, beq_iff_eq]
  simp only [singleton, List.any_cons, List.any_nil, Bool.or_false, Interval.contains_iff]
  omega

/-- The set of all code points between two, ends included. -/
def range (first last : Nat) : CharSet := empty.insert ⟨first, last⟩

/-- The set of all code points. -/
def full : CharSet := ⟨[⟨0, maxCodePoint⟩], .single (Nat.zero_le _)⟩

/-- No code point is in the set. -/
def isEmpty (s : CharSet) : Bool := s.intervals.isEmpty

/-- Every member is an ASCII code point. -/
def isAscii (s : CharSet) : Bool := s.intervals.all fun i => i.last ≤ 0x7F

/-- Union of a list of sets. -/
def unions (sets : List CharSet) : CharSet := ofIntervals (sets.flatMap intervals)

/-- A union holds what one of its sets holds. -/
@[simp] theorem contains_unions (sets : List CharSet) (c : Nat) :
    (unions sets).contains c = sets.any fun s => s.contains c := by
  rw [unions, contains_ofIntervals, List.any_flatMap]
  congr 1
  funext s
  rw [contains_eq_any]

/-- Code points in at least one of two sets. -/
def union (s t : CharSet) : CharSet := unions [s, t]

/-- A union holds what one of its two sets holds. -/
@[simp] theorem contains_union (s t : CharSet) (c : Nat) :
    (s.union t).contains c = (s.contains c || t.contains c) := by
  simp [union]

/-! ## Complements -/

/-- Gaps of an ascending list of intervals at and above a code point. -/
def gaps (next : Nat) : List Interval → List Interval
  | [] => if next ≤ maxCodePoint then [⟨next, maxCodePoint⟩] else []
  | i :: rest =>
    if next < i.first then ⟨next, i.first - 1⟩ :: gaps (i.last + 1) rest
    else gaps (i.last + 1) rest

/-- Gaps begin at the code point from which they are sought, or above it. -/
theorem le_first_of_mem_gaps {next : Nat} {is : List Interval} {k : Interval}
    (separated : Separated is) (above : ∀ i ∈ is, next ≤ i.first) (mem : k ∈ gaps next is) :
    next ≤ k.first := by
  induction is generalizing next with
  | nil =>
    simp only [gaps] at mem
    split at mem
    · exact Nat.le_of_eq (congrArg Interval.first (List.mem_singleton.1 mem)).symm
    · simp at mem
  | cons i rest ih =>
    obtain ⟨proper, ahead, tail⟩ := Separated.cons_iff.1 separated
    have start : next ≤ i.first := above i List.mem_cons_self
    have later : ∀ j ∈ rest, i.last + 1 ≤ j.first := fun j hj => Nat.le_of_lt (ahead j hj)
    simp only [gaps] at mem
    split at mem
    · rcases List.mem_cons.1 mem with rfl | mem
      · exact Nat.le_refl next
      · have := ih tail later mem
        omega
    · have := ih tail later mem
      omega

/-- The gaps between separated intervals are separated. -/
theorem separated_gaps {next : Nat} {is : List Interval}
    (separated : Separated is) (above : ∀ i ∈ is, next ≤ i.first) :
    Separated (gaps next is) := by
  induction is generalizing next with
  | nil =>
    simp only [gaps]
    split
    · rename_i within
      exact .single within
    · exact .nil
  | cons i rest ih =>
    obtain ⟨proper, ahead, tail⟩ := Separated.cons_iff.1 separated
    have later : ∀ j ∈ rest, i.last + 1 ≤ j.first := fun j hj => Nat.le_of_lt (ahead j hj)
    simp only [gaps]
    split
    · rename_i gap
      refine Separated.cons_iff.2 ⟨by simp only []; omega, ?_, ih tail later⟩
      intro k hk
      have := le_first_of_mem_gaps tail later hk
      simp only []
      omega
    · exact ih tail later

/-- The gaps at and above a code point hold what the intervals do not. -/
theorem any_gaps {next : Nat} {is : List Interval} (separated : Separated is)
    (above : ∀ i ∈ is, next ≤ i.first) (c : Nat) (within : c ≤ maxCodePoint) :
    ((gaps next is).any fun k => k.contains c) =
      (decide (next ≤ c) && !is.any fun i => i.contains c) := by
  induction is generalizing next with
  | nil =>
    simp only [gaps]
    split
    · simp [Interval.contains, within]
    · rename_i beyond
      have : ¬next ≤ c := by omega
      simp [this]
  | cons i rest ih =>
    obtain ⟨proper, ahead, tail⟩ := Separated.cons_iff.1 separated
    have start : next ≤ i.first := above i List.mem_cons_self
    have later : ∀ j ∈ rest, i.last + 1 ≤ j.first := fun j hj => Nat.le_of_lt (ahead j hj)
    have beyond : (rest.any fun j => j.contains c) = true → i.last < c := by
      intro found
      obtain ⟨j, hj, holds⟩ := List.any_eq_true.1 found
      have := ahead j hj
      have := (Interval.contains_iff j c).1 holds
      omega
    simp only [gaps, List.any_cons]
    split
    · rw [List.any_cons, ih tail later, Bool.eq_iff_iff]
      cases found : rest.any fun j => j.contains c with
      | true =>
        have := beyond found
        simp only [Interval.contains, Bool.not_true, Bool.and_false, Bool.or_false, Bool.or_true,
          Bool.and_eq_true, decide_eq_true_eq, Bool.false_eq_true, iff_false]
        omega
      | false =>
        simp only [Interval.contains, Bool.not_false, Bool.and_true, Bool.or_false,
          Bool.or_eq_true, Bool.and_eq_true, decide_eq_true_eq, Bool.not_eq_true',
          Bool.and_eq_false_iff, decide_eq_false_iff_not]
        omega
    · rw [ih tail later, Bool.eq_iff_iff]
      cases found : rest.any fun j => j.contains c with
      | true => simp
      | false =>
        simp only [Interval.contains, Bool.not_false, Bool.and_true, Bool.or_false,
          Bool.and_eq_true, decide_eq_true_eq, Bool.not_eq_true', Bool.and_eq_false_iff,
          decide_eq_false_iff_not]
        omega

/-- Code points not in the set. -/
def complement (s : CharSet) : CharSet :=
  ⟨gaps 0 s.intervals, separated_gaps s.separated fun i _ => Nat.zero_le i.first⟩

/-- A complement holds the code points that its set does not hold. -/
theorem contains_complement (s : CharSet) (c : Nat) (within : c ≤ maxCodePoint) :
    s.complement.contains c = !s.contains c := by
  rw [contains_eq_any, contains_eq_any, complement,
    any_gaps s.separated (fun i _ => Nat.zero_le i.first) c within]
  simp

/-- Code points in both sets. -/
def intersection (s t : CharSet) : CharSet := (s.complement.union t.complement).complement

/-- An intersection holds what both of its sets hold. -/
theorem contains_intersection (s t : CharSet) (c : Nat) (within : c ≤ maxCodePoint) :
    (s.intersection t).contains c = (s.contains c && t.contains c) := by
  rw [intersection, contains_complement _ c within, contains_union,
    contains_complement _ c within, contains_complement _ c within]
  simp

/-- Code points in the first set and not in the second. -/
def difference (s t : CharSet) : CharSet := s.intersection t.complement

/-- A difference holds what its first set holds and its second does not. -/
theorem contains_difference (s t : CharSet) (c : Nat) (within : c ≤ maxCodePoint) :
    (s.difference t).contains c = (s.contains c && !t.contains c) := by
  rw [difference, contains_intersection _ _ c within, contains_complement _ c within]

/-- Code points in exactly one of two sets. -/
def symmetricDifference (s t : CharSet) : CharSet := (s.union t).difference (s.intersection t)

/-- A symmetric difference holds what exactly one of its sets holds. -/
theorem contains_symmetricDifference (s t : CharSet) (c : Nat) (within : c ≤ maxCodePoint) :
    (s.symmetricDifference t).contains c = (s.contains c != t.contains c) := by
  rw [symmetricDifference, contains_difference _ _ c within, contains_union,
    contains_intersection _ _ c within]
  cases s.contains c <;> cases t.contains c <;> rfl

/-! ## Run form -/

/-- Intervals from alternating numbers: code points skipped, then the extent beyond the first
member. Of the code points between two intervals the first does not count. -/
def ofRuns (start : Nat) : List Nat → List Interval
  | skipped :: extent :: rest =>
    ⟨start + skipped, start + skipped + extent⟩ :: ofRuns (start + skipped + extent + 2) rest
  | _ => []

/-- Runs begin where they are said to begin, or above. -/
theorem le_first_of_mem_ofRuns {start : Nat} {runs : List Nat} {i : Interval}
    (mem : i ∈ ofRuns start runs) : start ≤ i.first := by
  fun_induction ofRuns start runs with
  | case1 start skipped extent rest ih =>
    rcases List.mem_cons.1 mem with rfl | mem
    · exact Nat.le_add_right start skipped
    · have := ih mem
      omega
  | case2 => simp at mem

/-- Whatever the numbers are, the runs they mean are separated. -/
theorem separated_ofRuns (start : Nat) (runs : List Nat) : Separated (ofRuns start runs) := by
  fun_induction ofRuns start runs with
  | case1 start skipped extent rest ih =>
    refine Separated.cons_iff.2 ⟨Nat.le_add_right _ extent, ?_, ih⟩
    intro j hj
    exact le_first_of_mem_ofRuns hj
  | case2 => exact .nil

/-- The set of the given runs: for each interval, the number of code points skipped since the
interval before it, less the one that always lies between, and the number of members after its
first. -/
def ofRunList (runs : List Nat) : CharSet := ⟨ofRuns 0 runs, separated_ofRuns 0 runs⟩

/-- Value of a hexadecimal digit in lower case. -/
def digitValue (c : Char) : Nat :=
  if c ≤ '9' then c.toNat - '0'.toNat else c.toNat - 'a'.toNat + 10

/-- Read hexadecimal numbers separated by single spaces. -/
def readNumbers : List Char → Nat → List Nat
  | [], number => [number]
  | c :: rest, number =>
    if c = ' ' then number :: readNumbers rest 0
    else readNumbers rest (number * 16 + digitValue c)

/-- The set of the runs written in a text, in hexadecimal. -/
def ofRunText (text : String) : CharSet := ofRunList (readNumbers text.toList 0)

end CharSet

/-! ## Named sets

The tables of character properties keep each set in run form beside the names it answers to. A set
is read from its runs when it is asked for.
-/

/-- A set of code points in run form, with its names in lower case and without separators. -/
structure NamedSet where
  /-- Names of the set. -/
  names : List String
  /-- The members, as `CharSet.ofRunText` reads them. -/
  runs : String

namespace NamedSet

/-- The members of a named set. -/
def members (s : NamedSet) : CharSet := .ofRunText s.runs

/-- The set of the given name, if the table has one. -/
def find? (name : String) (table : List NamedSet) : Option CharSet :=
  (table.find? fun s => s.names.contains name).map members

/-- The union of the sets of the given names, passing over names the table does not have. -/
def gather (names : List String) (table : List NamedSet) : CharSet :=
  .unions (names.filterMap fun name => find? name table)

end NamedSet

end Deckwright.Unicode
