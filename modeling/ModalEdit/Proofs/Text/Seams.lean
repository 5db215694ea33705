import Mathlib.Logic.Basic
import ModalEdit.Proofs.Text.Joining

/-! # Seams

Two texts put together are cut as each of them alone where the characters that meet do not join,
whatever stands before them (`split_append`).  A line break is such a place on both sides: nothing
joins a line feed that went before, and nothing but a carriage return is joined by one that follows.

What lies behind a cut is cut in the same way when it stands alone (`split_joined_drop`), as is
what lies before it.
-/

namespace ModalEdit

open Unicode (BreakClass)

/-- A cut is made between the two characters, whatever was read before them. -/
def Apart (c d : Char) : Prop := ∀ b : Lookback, b.last = .of c → b.joins (.of d) = false

theorem of_lineBreak : BreakClass.of lineBreak = .lineFeed := rfl

theorem of_carriageReturn : BreakClass.of '\r' = .carriageReturn := rfl

theorem eq_of_of_carriageReturn {c : Char} (same : BreakClass.of c = .carriageReturn) : c = '\r' := by
  -- No branch but the first one gives that class.
  simp only [BreakClass.of, BreakClass.ofCode, ite_eq_iff, reduceCtorEq, and_false, or_false,
    and_true] at same
  exact Char.toNat_inj.mp same

theorem of_space : BreakClass.of ' ' = .other := by decide

theorem apart_lineBreak (d : Char) : Apart lineBreak d := by
  intro b last
  rw [of_lineBreak] at last
  simp [Lookback.joins, last, BreakClass.standsAlone]

theorem apart_space_lineBreak : Apart ' ' lineBreak := by
  intro b last
  rw [of_space] at last
  simp [Lookback.joins, last, of_lineBreak, BreakClass.standsAlone]

theorem apart_space_carriageReturn : Apart ' ' '\r' := by
  intro b last
  rw [of_space] at last
  simp [Lookback.joins, last, of_carriageReturn, BreakClass.standsAlone]

namespace Lookback

theorem graphemes_joined_drop_cut (b : Lookback) (cs : Text) (n : Nat) :
    graphemes (Cluster.joined ((b.cut cs).2.drop n)) = (b.cut cs).2.drop n := by
  induction cs generalizing b n with
  | nil => simp [cut, graphemes]
  | cons c cs ih =>
    rw [cut]
    split
    · exact ih _ n
    · -- The first cluster kept is cut afresh; one that is dropped leaves the look-back of the next.
      cases n with
      | zero => simp [graphemes, cut_joined]
      | succ n => exact ih _ n

/-- Nothing joins a line feed. -/
theorem cut_fst_of_lineFeed {b : Lookback} (last : b.last = .lineFeed) (cs : Text) :
    (b.cut cs).1 = [] := by
  cases cs with
  | nil => rfl
  | cons c cs =>
    have apart : b.joins (.of c) = false := by simp [joins, last, BreakClass.standsAlone]
    rw [cut, apart]
    rfl

/-- A line feed joins a carriage return only. -/
theorem cut_fst_of_mem (b : Lookback) {cs : Text} (member : lineBreak ∈ (b.cut cs).1) :
    b.last = .carriageReturn ∧ (b.cut cs).1 = [lineBreak] := by
  induction cs generalizing b with
  | nil => cases member
  | cons c cs ih =>
    cases joined : b.joins (.of c) with
    | false => simp [cut, joined] at member
    | true =>
      simp only [cut, joined, if_true] at member ⊢
      by_cases feed : c = lineBreak
      · subst feed
        rw [cut_fst_of_lineFeed (b := b.next (.of lineBreak)) rfl]
        simp only [joins, of_lineBreak, BreakClass.standsAlone, Bool.or_true, if_true,
          Bool.and_eq_true, beq_iff_eq] at joined
        exact ⟨joined.1, rfl⟩
      · -- A later line feed would join a carriage return, and that joins nothing.
        have later := (List.mem_cons.mp member).resolve_left fun same => feed same.symm
        have before : BreakClass.of c = .carriageReturn := (ih _ later).1
        simp [joins, before, BreakClass.standsAlone] at joined

/-- What follows the first character of a cluster is read on from it. -/
theorem exists_tail_eq_of_mem_cut (b : Lookback) {cs : Text} {k : Cluster}
    (member : k ∈ (b.cut cs).2) : ∃ ds, k.tail = ((start (.of k.head)).cut ds).1 := by
  induction cs generalizing b with
  | nil => cases member
  | cons c cs ih =>
    rw [cut] at member
    split at member
    · exact ih _ member
    · rcases List.mem_cons.mp member with rfl | later
      · exact ⟨cs, rfl⟩
      · exact ih _ later

end Lookback

theorem exists_tail_eq {cs : Text} {k : Cluster} (member : k ∈ graphemes cs) :
    ∃ ds, k.tail = ((Lookback.start (.of k.head)).cut ds).1 := by
  cases cs with
  | nil => cases member
  | cons c cs =>
    rcases List.mem_cons.mp member with rfl | later
    · exact ⟨cs, rfl⟩
    · exact Lookback.exists_tail_eq_of_mem_cut _ later

theorem graphemes_append {cs ds : Text} (seam : ∀ c ∈ cs.getLast?, ∀ d ∈ ds.head?, Apart c d) :
    graphemes (cs ++ ds) = graphemes cs ++ graphemes ds := by
  cases cs with
  | nil => rfl
  | cons c cs =>
    cases ds with
    | nil => rw [List.append_nil, graphemes, List.append_nil]
    | cons d ds =>
      obtain ⟨l, final⟩ : ∃ l, (c :: cs).getLast? = some l := ⟨_, List.getLast?_cons⟩
      have last : ((Lookback.start (.of c)).after cs).last = .of l := by
        have here : (Lookback.start (.of c)).last = .of c := rfl
        rw [Lookback.last_after, here, ← lastClass_cons c cs (.of c), final]
        rfl
      exact graphemes_append_of_apart (seam l final d rfl _ last) ds

namespace Segmentation

theorem split_append (s : Segmentation) {cs ds : Text}
    (seam : ∀ c ∈ cs.getLast?, ∀ d ∈ ds.head?, Apart c d) :
    s.split (cs ++ ds) = s.split cs ++ s.split ds := by
  cases s with
  | scalars => exact List.map_append
  | clusters => exact graphemes_append seam

theorem split_joined_drop (s : Segmentation) (cs : Text) (n : Nat) :
    s.split (Cluster.joined ((s.split cs).drop n)) = (s.split cs).drop n := by
  cases s with
  | scalars => simp only [split, ← List.map_drop, Cluster.joined_map_single]
  | clusters =>
    cases cs with
    | nil => simp [split, graphemes]
    | cons c cs =>
      cases n with
      | zero => simp only [List.drop_zero, joined_split]
      | succ n => exact Lookback.graphemes_joined_drop_cut _ cs n

/-- A position that is read as a line break holds nothing else. -/
theorem chars_of_lead_lineBreak {s : Segmentation} {cs : Text} {k : Cluster}
    (member : k ∈ s.split cs) (lead : k.lead = lineBreak) :
    k.chars = [lineBreak] ∨ k.chars = ['\r', lineBreak] := by
  rw [Cluster.lead] at lead
  split at lead
  · next crossing =>
    right
    rw [Cluster.chars, crossing.1, crossing.2]
    rfl
  · left
    rw [Cluster.chars, lead]
    cases s with
    | scalars =>
      obtain ⟨c, _, rfl⟩ := List.mem_map.mp member
      rfl
    | clusters =>
      obtain ⟨ds, tail⟩ := exists_tail_eq member
      rw [tail, lead, Lookback.cut_fst_of_lineFeed of_lineBreak]

/-- A position that holds a line break is read as one. -/
theorem lead_of_mem_chars {s : Segmentation} {cs : Text} {k : Cluster} (member : k ∈ s.split cs)
    (inside : lineBreak ∈ k.chars) : k.lead = lineBreak := by
  rcases List.mem_cons.mp inside with head | behind
  · have other : k.head ≠ '\r' := head ▸ by decide
    rw [Cluster.lead, if_neg fun crossing => other crossing.1, head]
  · cases s with
    | scalars =>
      obtain ⟨c, _, rfl⟩ := List.mem_map.mp member
      cases behind
    | clusters =>
      obtain ⟨ds, tail⟩ := exists_tail_eq member
      rw [tail] at behind
      obtain ⟨last, feed⟩ := Lookback.cut_fst_of_mem _ behind
      rw [Cluster.lead, if_pos ⟨eq_of_of_carriageReturn last, tail.trans feed⟩]

end Segmentation

end ModalEdit
