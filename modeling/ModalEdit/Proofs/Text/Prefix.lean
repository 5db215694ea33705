import ModalEdit.Text.Cluster

/-! # Cutting the beginning of a text

Whether a cut is made depends only on what stands before it and on the next character.  So the
cuts inside the beginning of a text stay where they are, whatever comes to stand behind it:

* `split_joined_take`: the first positions of a text, taken alone, are cut as they were;
* `dropLast_split_prefix`: all positions but the last stay;
* `length_split_le_append`: a longer text has no fewer positions, although the last position of
  its beginning may take in some of what follows.
-/

namespace ModalEdit

namespace Lookback

theorem length_cut_le_append (b : Lookback) (cs ds : Text) :
    (b.cut cs).2.length ≤ (b.cut (cs ++ ds)).2.length := by
  -- The state is the same on both sides, so both cut before the same characters of `cs`.
  induction cs generalizing b with
  | nil => exact Nat.zero_le _
  | cons c cs ih =>
    rw [List.cons_append, cut, cut]
    split
    · exact ih _
    · exact Nat.succ_le_succ (ih _)

/-- The cluster being read, of which `tail` was read already, and those after it stay but for the last. -/
theorem dropLast_cut_prefix (b : Lookback) (head : Char) (tail cs ds : Text) :
    (⟨head, tail ++ (b.cut cs).1⟩ :: (b.cut cs).2 : List Cluster).dropLast <+:
      ⟨head, tail ++ (b.cut (cs ++ ds)).1⟩ :: (b.cut (cs ++ ds)).2 := by
  induction cs generalizing b head tail with
  | nil => exact List.nil_prefix
  | cons c cs ih =>
    rw [List.cons_append, cut, cut]
    split
    · have read := ih (b.next (.of c)) head (tail ++ [c])
      rw [List.append_assoc, List.append_assoc] at read
      exact read
    · rw [List.append_nil, List.dropLast_cons_cons]
      exact (List.prefix_cons_inj _).mpr (ih (start (.of c)) c [])

/-- What was read inside a cluster, with some of the clusters after it, is cut in the same way
    again. -/
theorem cut_joined_take (b : Lookback) (cs : Text) (n : Nat) :
    b.cut ((b.cut cs).1 ++ Cluster.joined ((b.cut cs).2.take n)) =
      ((b.cut cs).1, (b.cut cs).2.take n) := by
  induction cs generalizing b n with
  | nil => simp [cut]
  | cons c cs ih =>
    rw [cut]
    by_cases joined : b.joins (.of c) = true
    · simp only [joined, if_true, List.cons_append]
      rw [cut, if_pos joined, ih]
    · simp only [joined, Bool.false_eq_true, if_false, List.nil_append]
      cases n with
      | zero => rfl
      | succ n =>
        rw [List.take_succ_cons, Cluster.joined_cons, cut, if_neg joined, ih]

end Lookback

namespace Segmentation

theorem split_joined_take (s : Segmentation) (cs : Text) (n : Nat) :
    s.split (Cluster.joined ((s.split cs).take n)) = (s.split cs).take n := by
  cases s with
  | scalars => simp only [split, ← List.map_take, Cluster.joined_map_single]
  | clusters =>
    cases cs with
    | nil => simp [split, graphemes]
    | cons c cs =>
      cases n with
      | zero => rfl
      | succ n =>
        simp only [split, graphemes, List.take_succ_cons, Cluster.joined_cons,
          Lookback.cut_joined_take]

theorem dropLast_split_prefix (s : Segmentation) (cs ds : Text) :
    (s.split cs).dropLast <+: s.split (cs ++ ds) := by
  cases s with
  | scalars =>
    simp only [split, List.map_append]
    exact (List.dropLast_prefix _).trans (List.prefix_append _ _)
  | clusters =>
    cases cs with
    | nil => exact List.nil_prefix
    | cons c cs => exact Lookback.dropLast_cut_prefix (Lookback.start (.of c)) c [] cs ds

theorem length_split_le_append (s : Segmentation) (cs ds : Text) :
    (s.split cs).length ≤ (s.split (cs ++ ds)).length := by
  cases s with
  | scalars => simp [split]
  | clusters =>
    cases cs with
    | nil => exact Nat.zero_le _
    | cons c cs => exact Nat.succ_le_succ (Lookback.length_cut_le_append _ _ _)

end Segmentation

end ModalEdit
