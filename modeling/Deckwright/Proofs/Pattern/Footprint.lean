import Deckwright.Pattern.Footprint
import Deckwright.Proofs.Unicode.CharSet
import Mathlib.Algebra.Order.BigOperators.Group.List
import Mathlib.Algebra.Order.Group.Nat
import Mathlib.Algebra.Ring.Nat

/-!
# Bounds on the memory of automata

The automaton for a set of characters reads sequences of byte ranges, of which it needs no more
than there are characters in each class of encodings. It has a state at most for each place in each
sequence: shared beginnings and shared continuations only make it smaller. So the memory for a set
is bounded by a multiple of the number of its characters.
-/

namespace Deckwright.Pattern

open Unicode

/-! ## Numbers of sequences -/

/-- The numbers between two need no more sequences than there are numbers. -/
theorem length_digitRanges_le (mark count : Nat) {first last : Nat} (ordered : first ≤ last) :
    (digitRanges mark count first last).length ≤ last + 1 - first := by
  induction count generalizing mark first last with
  | zero =>
    rw [digitRanges, List.length_singleton]
    omega
  | succ count ih =>
    have positive : 0 < Nat.pow 64 (count + 1) := Nat.pow_pos (by decide)
    simp only [digitRanges]
    generalize Nat.pow 64 (count + 1) = unit at positive ⊢
    have firstLess : first % unit < unit := Nat.mod_lt _ positive
    have lastLess : last % unit < unit := Nat.mod_lt _ positive
    have firstParts : unit * (first / unit) + first % unit = first := Nat.div_add_mod first unit
    have lastParts : unit * (last / unit) + last % unit = last := Nat.div_add_mod last unit
    have heads : first / unit ≤ last / unit := Nat.div_le_div_right ordered
    by_cases same : first / unit = last / unit
    · rw [if_pos same, List.length_map]
      rw [same] at firstParts
      have := ih 0x80 (show first % unit ≤ last % unit by omega)
      omega
    · rw [if_neg same, List.length_append, List.length_append]
      -- The numbers are those of the first head, whole units, and those of the last head.
      have low := ih 0x80 (show first % unit ≤ unit - 1 by omega)
      have high := ih 0x80 (Nat.zero_le (last % unit))
      generalize first % unit = firstTail, first / unit = firstHead at *
      generalize last % unit = lastTail, last / unit = lastHead at *
      obtain ⟨between, rfl⟩ : ∃ between, lastHead = firstHead + 1 + between :=
        Nat.exists_eq_add_of_le (by omega)
      have whole : unit * (firstHead + 1 + between) = unit * firstHead + unit + unit * between := by
        rw [Nat.mul_add, Nat.mul_add, Nat.mul_one]
      have some : between = 0 ∨ unit ≤ unit * between :=
        (Nat.eq_zero_or_pos between).imp_right (Nat.le_mul_of_pos_right unit)
      -- Each of the three parts may be absent.
      split <;> split <;> split <;>
        simp only [List.length_nil, List.length_map, List.length_singleton] <;> omega

/-- A set needs no more sequences than it has characters, in each class of encodings. -/
theorem length_byteRanges_le (s : CharSet) : (byteRanges s).length ≤ 5 * s.size := by
  have part (i j : Interval) (mark count : Nat) :
      (if (i.meet j).isEmpty then [] else
        digitRanges mark count (i.meet j).first (i.meet j).last).length ≤ i.size := by
    split
    · exact Nat.zero_le _
    · rename_i inhabited
      have ordered : (i.meet j).first ≤ (i.meet j).last := by
        simpa [Interval.isEmpty] using inhabited
      refine (length_digitRanges_le mark count ordered).trans ?_
      simp only [Interval.meet, Interval.size]
      omega
  rw [byteRanges, CharSet.size]
  induction s.intervals with
  | nil => exact Nat.le_refl _
  | cons i rest ih =>
    rw [List.flatMap_cons, List.length_append, totalSize, Nat.mul_add]
    refine Nat.add_le_add ?_ ih
    rw [List.length_flatMap]
    refine (List.sum_le_card_nsmul _ i.size ?_).trans (Nat.le_of_eq rfl)
    intro n mem
    obtain ⟨⟨domain, mark, count⟩, -, rfl⟩ := List.mem_map.1 mem
    exact part i domain mark count

/-! ## Numbers of states -/

/-- Sequences make no more groups than there are of them. -/
theorem length_groupByFirst_le (sequences : List ByteRanges) :
    (groupByFirst sequences).length ≤ sequences.length := by
  fun_induction groupByFirst sequences with
  | case1 => exact Nat.le_refl _
  | case2 rest ih => exact Nat.le_succ_of_le ih
  | case3 tail rest j tails groups grouped ih =>
    rw [grouped] at ih
    exact Nat.le_succ_of_le ih
  | case4 i tail rest j tails groups grouped apart ih =>
    rw [grouped] at ih
    exact Nat.succ_le_succ ih
  | case5 i tail rest grouped ih => exact Nat.succ_le_succ (Nat.zero_le _)

/-- The groups of sequences have no more sequences than there are. -/
theorem sum_length_groupByFirst_le (sequences : List ByteRanges) :
    ((groupByFirst sequences).map fun group => group.2.length).sum ≤ sequences.length := by
  fun_induction groupByFirst sequences with
  | case1 => exact Nat.le_refl _
  | case2 rest ih => exact Nat.le_succ_of_le ih
  | case3 tail rest j tails groups grouped ih =>
    rw [grouped] at ih
    simp only [List.map_cons, List.sum_cons, List.length_cons] at ih ⊢
    omega
  | case4 i tail rest j tails groups grouped apart ih =>
    rw [grouped] at ih
    rw [List.map_cons, List.sum_cons, List.length_singleton, List.length_cons]
    omega
  | case5 i tail rest grouped ih => exact Nat.le_add_left _ _

/-- A list without its repetitions is part of it. -/
theorem eraseDups_sublist {α : Type} [BEq α] [LawfulBEq α] (items : List α) :
    items.eraseDups.Sublist items := by
  induction size : items.length using Nat.strongRecOn generalizing items with
  | ind n ih =>
    cases items with
    | nil => exact .slnil
    | cons item rest =>
      rw [List.eraseDups_cons]
      have fewer : (rest.filter fun other => !other == item).length < n := by
        have := List.length_filter_le (fun other => !other == item) rest
        rw [← size, List.length_cons]
        omega
      exact ((ih _ fewer _ rfl).trans List.filter_sublist).cons_cons item

/-- The different lists of what follows the first bytes of the sequences. -/
def nextNodes (nodes : List (List ByteRanges)) : List (List ByteRanges) :=
  ((nodes.flatMap fun node => (groupByFirst node).map (·.2)).filter (· != [[]])).eraseDups

/-- What follows the first bytes is some of what the groups have. -/
theorem nextNodes_sublist (nodes : List (List ByteRanges)) :
    (nextNodes nodes).Sublist (nodes.flatMap fun node => (groupByFirst node).map (·.2)) :=
  (eraseDups_sublist _).trans List.filter_sublist

/-- There are no more different continuations than sequences. -/
theorem length_nextNodes_le (nodes : List (List ByteRanges)) :
    (nextNodes nodes).length ≤ (nodes.map List.length).sum := by
  refine (nextNodes_sublist nodes).length_le.trans ?_
  rw [List.length_flatMap]
  refine List.sum_le_sum ?_
  intro node _
  rw [List.length_map]
  exact length_groupByFirst_le node

/-- There are no more sequences after the first bytes than before. -/
theorem sum_length_nextNodes_le (nodes : List (List ByteRanges)) :
    ((nextNodes nodes).map List.length).sum ≤ (nodes.map List.length).sum := by
  refine (((nextNodes_sublist nodes).map List.length).sum_le_sum fun _ _ => Nat.zero_le _).trans ?_
  induction nodes with
  | nil => exact Nat.le_refl _
  | cons node rest ih =>
    rw [List.flatMap_cons, List.map_append, List.sum_append, List.map_map]
    exact Nat.add_le_add (sum_length_groupByFirst_le node) ih

/-- Memory for the state of a list of continuations. -/
def nodeBytes (node : List ByteRanges) : Nat :=
  stateBytes + transitionBytes * (groupByFirst node).length

/-- A state for each list, with a transition at most for each sequence. -/
theorem sum_nodeBytes_le (nodes : List (List ByteRanges)) :
    (nodes.map nodeBytes).sum ≤ 32 * nodes.length + 8 * (nodes.map List.length).sum := by
  induction nodes with
  | nil => exact Nat.le_refl _
  | cons node rest ih =>
    have groups := length_groupByFirst_le node
    simp only [List.map_cons, List.sum_cons, List.length_cons, nodeBytes, stateBytes,
      transitionBytes]
    omega

/-- With each byte come no more states and transitions than there are sequences. -/
theorem sum_nodeBytes_laterContinuations_le (depth : Nat) (nodes : List (List ByteRanges)) :
    ((laterContinuations depth nodes).map nodeBytes).sum ≤
      32 * nodes.length + 40 * (depth * (nodes.map List.length).sum) := by
  induction depth generalizing nodes with
  | zero => exact Nat.zero_le _
  | succ depth ih =>
    have split : laterContinuations (depth + 1) nodes =
        nodes ++ laterContinuations depth (nextNodes nodes) := rfl
    have here := sum_nodeBytes_le nodes
    have later := ih (nextNodes nodes)
    have fewer := length_nextNodes_le nodes
    have less := Nat.mul_le_mul_left depth (sum_length_nextNodes_le nodes)
    rw [split, List.map_append, List.sum_append, Nat.add_one_mul depth]
    omega

/-- Memory for a set read forwards. -/
theorem forwardBytes_le (s : CharSet) : forwardBytes s ≤ 64 + 160 * (byteRanges s).length := by
  have memory : forwardBytes s =
      32 + ((laterContinuations 4 [byteRanges s]).eraseDups.map nodeBytes).sum := rfl
  have some : ((laterContinuations 4 [byteRanges s]).eraseDups.map nodeBytes).sum ≤
      ((laterContinuations 4 [byteRanges s]).map nodeBytes).sum :=
    ((eraseDups_sublist _).map nodeBytes).sum_le_sum fun _ _ => Nat.zero_le _
  have all := sum_nodeBytes_laterContinuations_le 4 [byteRanges s]
  simp only [List.map_singleton, List.sum_singleton, List.length_singleton] at all
  omega

/-- There are no more beginnings of a length than sequences. -/
theorem beginnings_le (depth : Nat) (sequences : List ByteRanges) :
    beginnings depth sequences ≤ depth * sequences.length := by
  induction depth generalizing sequences with
  | zero => exact Nat.zero_le _
  | succ depth ih =>
    have each (groups : List (Interval × List ByteRanges)) :
        (groups.map fun group => 1 + beginnings depth group.2).sum ≤
          groups.length + depth * (groups.map fun group => group.2.length).sum := by
      induction groups with
      | nil => exact Nat.zero_le _
      | cons group rest later =>
        have := ih group.2
        simp only [List.map_cons, List.sum_cons, List.length_cons, Nat.mul_add]
        omega
    have here := each (groupByFirst sequences)
    have groups := length_groupByFirst_le sequences
    have tails := Nat.mul_le_mul_left depth (sum_length_groupByFirst_le sequences)
    rw [beginnings, ← List.sum_eq_foldr, Nat.add_one_mul depth]
    omega

/-- Memory for a set read backwards. -/
theorem backwardBytes_le (s : CharSet) : backwardBytes s ≤ 64 + 132 * (byteRanges s).length := by
  have few := beginnings_le 4 (byteRanges s)
  simp only [backwardBytes, stateBytes, branchBytes]
  omega

/-- A character has four bytes at most. -/
theorem encodedLength_le (c : Nat) : encodedLength c ≤ 4 := by
  rw [encodedLength]
  split
  · decide
  · split
    · decide
    · split <;> decide

/-- Memory for one character of a set. -/
theorem setBytes_le (backwards : Bool) (s : CharSet) :
    setBytes backwards s ≤ 128 + 800 * s.size := by
  have sequences := length_byteRanges_le s
  have forward := forwardBytes_le s
  have backward := backwardBytes_le s
  have intervals := s.length_intervals_le
  have chosen : (if backwards then backwardBytes s else forwardBytes s) ≤ 128 + 800 * s.size := by
    split <;> omega
  rw [setBytes]
  split
  · exact Nat.le_add_right_of_le (by decide)
  · split
    · rename_i first last single
      split
      · have := encodedLength_le first
        rw [stateBytes]
        omega
      · split
        · exact Nat.le_add_right_of_le (by decide)
        · exact chosen
    · split
      · rw [stateBytes, transitionBytes]
        omega
      · exact chosen

end Deckwright.Pattern
