import ModalEdit.Proofs.Text.Prefix

/-! # Texts that join

Two texts put together are cut as each of them alone, unless the second one begins with what belongs
to the position that the first one ends in (`Segmentation.Joins`).  Only single characters never do.

Whether they join depends on the whole position that the first text ends in, but on no more than the
first character of the second (`Segmentation.Joins.cons`).  If they do, the positions that the first text
had alone reach into the second (`Segmentation.Joins.exists_more`).
-/

namespace ModalEdit

open Unicode (BreakClass)

theorem lastClass_cons (c : Char) (cs : Text) (k : BreakClass) :
    ((c :: cs).getLast?.map BreakClass.of).getD k = (cs.getLast?.map BreakClass.of).getD (.of c) := by
  rw [List.getLast?_cons]
  cases cs.getLast? with
  | none => rfl
  | some _ => rfl

namespace Lookback

/-- What the next cut depends on behind a text that was read. -/
def after (b : Lookback) : Text → Lookback
  | [] => b
  | c :: cs => (if b.joins (.of c) then b.next (.of c) else start (.of c)).after cs

theorem last_after (b : Lookback) (cs : Text) :
    (b.after cs).last = (cs.getLast?.map BreakClass.of).getD b.last := by
  induction cs generalizing b with
  | nil => rfl
  | cons c cs ih =>
    have read : (if b.joins (.of c) then b.next (.of c) else start (.of c)).last = .of c := by
      split
      · rfl
      · rfl
    rw [after, ih, read, lastClass_cons]

/-- Cutting goes on from a seam as if nothing had been read before it. -/
theorem cut_append_of_apart (b : Lookback) {cs : Text} {d : Char}
    (apart : (b.after cs).joins (.of d) = false) (ds : Text) :
    b.cut (cs ++ d :: ds) = ((b.cut cs).1, (b.cut cs).2 ++ graphemes (d :: ds)) := by
  -- Both sides cut before the same characters of `cs`, and come to its end in the same state.
  induction cs generalizing b with
  | nil =>
    rw [after] at apart
    simp [cut, apart, graphemes]
  | cons c cs ih =>
    rw [after] at apart
    rw [List.cons_append, cut, cut]
    split
    · next joined =>
      rw [if_pos joined] at apart
      rw [ih (b.next (.of c)) apart]
    · next parted =>
      rw [if_neg parted] at apart
      rw [ih (start (.of c)) apart]
      rfl

/-- Where a character joins, the cluster that the first text ends in goes on behind it. -/
theorem joined_take_cut_of_joins (b : Lookback) {cs : Text} {d : Char}
    (joins : (b.after cs).joins (.of d) = true) (ds : Text) :
    (b.cut (cs ++ d :: ds)).1 ++
        Cluster.joined ((b.cut (cs ++ d :: ds)).2.take (b.cut cs).2.length) =
      cs ++ d :: (((b.after cs).next (.of d)).cut ds).1 := by
  -- No cluster begins at `d`, so that there are as many before it with it as without it.
  induction cs generalizing b with
  | nil =>
    rw [after] at joins
    simp [cut, joins, after]
  | cons c cs ih =>
    rw [after] at joins
    simp only [List.cons_append, cut, after]
    split
    · next joined =>
      rw [if_pos joined] at joins
      simp only [List.cons_append, ih (b.next (.of c)) joins]
    · next parted =>
      rw [if_neg parted] at joins
      simp only [List.length_cons, List.take_succ_cons, Cluster.joined_cons, List.nil_append,
        ih (start (.of c)) joins]

end Lookback

section

variable {c d : Char} {cs : Text}

theorem graphemes_append_of_apart (apart : ((Lookback.start (.of c)).after cs).joins (.of d) = false)
    (ds : Text) :
    graphemes (c :: cs ++ d :: ds) = graphemes (c :: cs) ++ graphemes (d :: ds) := by
  rw [List.cons_append, graphemes, Lookback.cut_append_of_apart _ apart]
  rfl

theorem joined_take_graphemes_of_joins
    (joins : ((Lookback.start (.of c)).after cs).joins (.of d) = true) (ds : Text) :
    Cluster.joined ((graphemes (c :: cs ++ d :: ds)).take (graphemes (c :: cs)).length) =
      c :: cs ++ d :: ((((Lookback.start (.of c)).after cs).next (.of d)).cut ds).1 := by
  have reaches := Lookback.joined_take_cut_of_joins (Lookback.start (.of c)) joins ds
  simp only [List.cons_append, graphemes, List.length_cons, List.take_succ_cons,
    Cluster.joined_cons, reaches]

end

namespace Segmentation

variable {s : Segmentation} {cs ds : Text}

/-- The second text begins with what belongs to the position that the first one ends in. -/
def Joins (s : Segmentation) (cs ds : Text) : Prop := s.split (cs ++ ds) ≠ s.split cs ++ s.split ds

instance (s : Segmentation) (cs ds : Text) : Decidable (s.Joins cs ds) :=
  inferInstanceAs (Decidable (_ ≠ _))

theorem split_append_of_not_joins (apart : ¬s.Joins cs ds) :
    s.split (cs ++ ds) = s.split cs ++ s.split ds := Decidable.not_not.mp apart

theorem not_joins_scalars (cs ds : Text) : ¬scalars.Joins cs ds := not_not_intro List.map_append

theorem not_joins_nil_left (s : Segmentation) (ds : Text) : ¬s.Joins [] ds := by
  apply not_not_intro
  cases s with
  | scalars => rfl
  | clusters => rfl

theorem not_joins_nil_right (s : Segmentation) (cs : Text) : ¬s.Joins cs [] := by
  have none : s.split [] = [] := split_eq_nil_iff.mpr rfl
  apply not_not_intro
  rw [none, List.append_nil, List.append_nil]

/-- Only the first character of the second text is asked for. -/
theorem joins_clusters_iff {c d : Char} :
    clusters.Joins (c :: cs) (d :: ds) ↔
      ((Lookback.start (.of c)).after cs).joins (.of d) = true := by
  constructor
  · intro differ
    apply Decidable.byContradiction
    intro apart
    exact differ (graphemes_append_of_apart ((Bool.not_eq_true _).mp apart) ds)
  · intro joins same
    -- Cut apart, as many positions as the first text has would hold that text and nothing else.
    have alone : Cluster.joined ((graphemes (c :: cs ++ d :: ds)).take (graphemes (c :: cs)).length) =
        c :: cs := by
      rw [show graphemes (c :: cs ++ d :: ds) = _ from same]
      exact (congrArg Cluster.joined List.take_left).trans (joined_graphemes _)
    rw [joined_take_graphemes_of_joins joins] at alone
    exact List.cons_ne_nil _ _ (List.append_right_eq_self.mp alone)

/-- A text joins whatever begins with a character that it joins. -/
theorem Joins.cons {d : Char} (joins : s.Joins cs (d :: ds)) (es : Text) : s.Joins cs (d :: es) := by
  cases s with
  | scalars => exact absurd joins (not_joins_scalars _ _)
  | clusters =>
    cases cs with
    | nil => exact absurd joins (not_joins_nil_left clusters _)
    | cons c cs => exact joins_clusters_iff.mpr (joins_clusters_iff.mp joins)

/-- The positions of the first of two texts that join take in some of the second. -/
theorem Joins.exists_more (joins : s.Joins cs ds) :
    ∃ more rest, more ≠ [] ∧ ds = more ++ rest ∧
      Cluster.joined ((s.split (cs ++ ds)).take (s.split cs).length) = cs ++ more := by
  cases s with
  | scalars => exact absurd joins (not_joins_scalars cs ds)
  | clusters =>
    cases cs with
    | nil => exact absurd joins (not_joins_nil_left clusters ds)
    | cons c cs =>
      cases ds with
      | nil => exact absurd joins (not_joins_nil_right clusters (c :: cs))
      | cons d ds =>
        let b := ((Lookback.start (.of c)).after cs).next (.of d)
        have reaches := joined_take_graphemes_of_joins (joins_clusters_iff.mp joins) ds
        refine ⟨d :: (b.cut ds).1, Cluster.joined (b.cut ds).2, List.cons_ne_nil _ _, ?_, reaches⟩
        rw [List.cons_append, b.cut_joined]

end Segmentation

end ModalEdit
