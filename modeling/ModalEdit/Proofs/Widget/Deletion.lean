import ModalEdit.Proofs.Widget.Proper
import ModalEdit.Proofs.Widget.Rope

/-! # Deleting a range

A deletion takes its two positions in any order and moves them into the text.  It takes out what lies
between them then and returns it (`deletion_law`).  Only equal positions count as an empty range, and
they are compared before they are moved.  Two different ones that are both at the end or behind it
leave nothing between them, and what is returned is an empty text.

To insert the removed text again where it was restores the text, unless what was before it and what was
behind it join once it is gone (`restoration_law`).  Then the place where it was lies inside a position,
which has taken in some of what followed, and it comes back behind that position (`TakesIn`).
-/

namespace ModalEdit.Widget

variable {w : Widget} {a b p : Nat}

/-! ## What is reported -/

theorem cut_of_ne (ne : a ≠ b) :
    w.cut a b =
      let first := min (min a b) w.len
      let last := min (max a b) w.len
      let rest := w.slice 0 first ++ w.slice last w.len
      (some (w.slice first last), w.withText (if rest.isEmpty then [' '] else rest)) := if_neg ne

theorem text_cut_of_not_between (filled : w.text ≠ [])
    (same : min (min a b) w.len = min (max a b) w.len) : (w.cut a b).2.text = w.text := by
  by_cases equal : a = b
  · rw [cut, if_pos equal]
  · have whole := slice_append_slice_len (Nat.min_le_right (max a b) w.len)
    rw [cut_of_ne equal]
    simp only [same, whole, text_withText, List.isEmpty_iff, if_neg filled]

/-- A deletion returns what it takes out, and it takes out what lies between its positions, once they
    are in order and inside the text.  It returns an empty text, instead of none, for two different
    positions that are both at the end or behind it. -/
theorem deletion_law (filled : w.text ≠ []) (a b : Nat) :
    let first := min (min a b) w.len
    let last := min (max a b) w.len
    let rest := w.slice 0 first ++ w.slice last w.len
    (first < last →
      (w.cut a b).1 = some (w.slice first last) ∧
        (w.cut a b).2.text = if rest.isEmpty then [' '] else rest) ∧
      (first = last →
        (w.cut a b).1 = (if a = b then none else some []) ∧ (w.cut a b).2.text = w.text) ∧
      ((w.cut a b).1 = some [] ↔ a ≠ b ∧ w.len ≤ a ∧ w.len ≤ b) := by
  intro first last rest
  have inside : last ≤ w.len := Nat.min_le_right _ _
  have between : first < last →
      (w.cut a b).1 = some (w.slice first last) ∧
        (w.cut a b).2.text = if rest.isEmpty then [' '] else rest := by
    intro lt
    rw [cut_of_ne (by omega)]
    exact ⟨rfl, rfl⟩
  have nothing : first = last → (w.cut a b).1 = if a = b then none else some [] := by
    intro same
    by_cases equal : a = b
    · rw [cut, if_pos equal, if_pos equal]
    · rw [cut_of_ne equal, if_neg equal]
      exact congrArg some (slice_of_le (Nat.le_of_eq same.symm))
  refine ⟨between, fun same => ⟨nothing same, text_cut_of_not_between filled same⟩, ?_⟩
  rcases Nat.lt_or_ge first last with lt | ge
  · -- Something lies between, so it is not an empty text that is returned.
    apply iff_of_false
    · rw [(between lt).1]
      exact fun empty => slice_ne_nil lt inside (Option.some.inj empty)
    · omega
  · rw [nothing (by omega)]
    by_cases equal : a = b
    · simp [equal]
    · simp only [if_neg equal, true_iff]
      omega

/-- From the second character to far behind the end, in reverse order. -/
theorem deletion_law_of_reversed_range :
    let w := Widget.ofText .scalars ['a', 'b', 'c']
    w.text ≠ [] ∧ (w.cut 7 1).1 = some ['b', 'c'] ∧ (w.cut 7 1).2.text = ['a'] := by
  intro w
  have filled : w.text ≠ [] := by decide
  obtain ⟨between, _, _⟩ := deletion_law filled 7 1
  have removed := between (by decide)
  exact ⟨filled, removed.1.trans (by decide), removed.2.trans (by decide)⟩

/-- So a deletion that takes out nothing does not always return none. -/
theorem not_always_none_for_nothing :
    ¬∀ w : Widget, w.segmentation = .scalars → w.text ≠ [] → ∀ a b : Nat,
      min (min a b) w.len = min (max a b) w.len → (w.cut a b).1 = none ∧ (w.cut a b).2.text = w.text := by
  intro none
  have reported := (none (.ofText .scalars ['a']) rfl (by decide) 1 2 (by decide)).1
  exact absurd reported (by decide)

/-! ## Inserting it again -/

/-- What is read, after an edit, from as many positions as there were before it. -/
theorem slice_zero_withText (hp : p ≤ w.len) (cs : Text) :
    (w.withText (w.slice 0 p ++ cs)).slice 0 p =
      Cluster.joined ((w.segmentation.split (w.slice 0 p ++ cs)).take
        (w.segmentation.split (w.slice 0 p)).length) := by
  rw [length_split_slice_zero hp]
  rfl

/-- All positions before an edit but the last stay as they were. -/
theorem slice_zero_pred_withText (hp : p ≤ w.len) (cs : Text) :
    (w.withText (w.slice 0 p ++ cs)).slice 0 (p - 1) = w.slice 0 (p - 1) := by
  have kept := w.segmentation.dropLast_split_prefix (w.slice 0 p) cs
  rw [List.prefix_iff_eq_take, List.length_dropLast, length_split_slice_zero hp, split_slice_zero,
    List.dropLast_eq_take, List.length_take_of_le hp, List.take_take,
    Nat.min_eq_left (Nat.sub_le p 1)] at kept
  exact congrArg Cluster.joined kept.symm

theorem not_joins_slices (hp : p ≤ w.len) :
    ¬w.segmentation.Joins (w.slice 0 p) (w.slice p w.len) := by
  apply not_not_intro
  rw [slice_append_slice_len hp, split_slice_zero, split_slice_len, List.take_append_drop, w.units_eq]

/-- Once what lies between two positions is gone, the position in front of them has taken in `more` of what
    followed, and the first of them lies behind it. -/
structure TakesIn (w : Widget) (a b : Nat) (more rest : Text) : Prop where
  ne_nil : more ≠ []
  followed : w.slice b w.len = more ++ rest
  before : (w.cut a b).2.slice 0 (a - 1) = w.slice 0 (a - 1)
  taken : (w.cut a b).2.slice (a - 1) a = w.slice (a - 1) a ++ more

theorem TakesIn.slice_zero {more rest : Text} (takes : w.TakesIn a b more rest) :
    (w.cut a b).2.slice 0 a = w.slice 0 a ++ more := by
  rw [← slice_append_slice (Nat.zero_le (a - 1)) (Nat.sub_le a 1), takes.before, takes.taken,
    ← List.append_assoc, slice_append_slice (Nat.zero_le (a - 1)) (Nat.sub_le a 1)]

section

variable (lt : a < b) (le : b ≤ w.len)

include lt le

theorem rest_ne_nil (some_left : b - a < w.len) : w.slice 0 a ++ w.slice b w.len ≠ [] := by
  intro empty
  obtain ⟨front, back⟩ := List.append_eq_nil_iff.mp empty
  by_cases before : 0 < a
  · exact slice_ne_nil before (by omega) front
  · exact slice_ne_nil (by omega) (Nat.le_refl _) back

theorem cut_of_some_left (some_left : b - a < w.len) :
    w.cut a b = (some (w.slice a b), w.withText (w.slice 0 a ++ w.slice b w.len)) := by
  rw [cut_of_ne (Nat.ne_of_lt lt)]
  simp only [Nat.min_eq_left (Nat.le_of_lt lt), Nat.max_eq_right (Nat.le_of_lt lt), Nat.min_eq_left le,
    Nat.min_eq_left (Nat.le_trans (Nat.le_of_lt lt) le), List.isEmpty_iff,
    if_neg (rest_ne_nil lt le some_left)]

section

variable (some_left : b - a < w.len)

include some_left

/-- What is inserted again comes behind what is read from as many positions as there were in front of it. -/
theorem text_insert_cut {more rest : Text} (front : (w.cut a b).2.slice 0 a = w.slice 0 a ++ more)
    (followed : w.slice b w.len = more ++ rest) (cs : Text) :
    ((w.cut a b).2.insert cs a .whole).text = w.slice 0 a ++ more ++ cs ++ rest := by
  have shortened := cut_of_some_left lt le some_left
  have fits : a ≤ (w.cut a b).2.len := by
    rw [shortened]
    exact le_len_withText (by omega) _
  have behind : (w.cut a b).2.slice a (w.cut a b).2.len = rest := by
    have whole := slice_append_slice_len fits
    rw [front, congrArg (fun x => x.2.text) shortened, text_withText, followed,
      ← List.append_assoc] at whole
    exact List.append_cancel_left whole
  rw [text_insert_of_le fits, front, behind]

/-- Where the rest is cut as before, the place where something was removed is found again. -/
theorem restored_of_not_joins
    (apart : ¬w.segmentation.Joins (w.slice 0 a) (w.slice b w.len)) :
    ((w.cut a b).2.insert (w.slice a b) a .whole).text = w.text := by
  have front : (w.cut a b).2.slice 0 a = w.slice 0 a ++ [] := by
    rw [cut_of_some_left lt le some_left, slice_zero_withText (by omega),
      Segmentation.split_append_of_not_joins apart, List.take_left, Segmentation.joined_split,
      List.append_nil]
  rw [text_insert_cut lt le some_left front (List.nil_append _).symm, List.append_nil,
    slice_append_slice (Nat.zero_le a) (Nat.le_of_lt lt), slice_append_slice_len le]

/-- Where the rest joins, the position that the text before it ends in takes in some of what followed. -/
theorem exists_takesIn (joins : w.segmentation.Joins (w.slice 0 a) (w.slice b w.len)) :
    ∃ more rest, w.TakesIn a b more rest := by
  have ha : a ≤ w.len := by omega
  obtain ⟨more, rest, ne_nil, followed, reaches⟩ := joins.exists_more
  let v := w.withText (w.slice 0 a ++ w.slice b w.len)
  have shortened : (w.cut a b).2 = v := congrArg Prod.snd (cut_of_some_left lt le some_left)
  have before : v.slice 0 (a - 1) = w.slice 0 (a - 1) := slice_zero_pred_withText ha _
  have front : w.slice 0 (a - 1) ++ v.slice (a - 1) a =
      w.slice 0 (a - 1) ++ (w.slice (a - 1) a ++ more) :=
    calc w.slice 0 (a - 1) ++ v.slice (a - 1) a
      _ = v.slice 0 a := by rw [← before, slice_append_slice (Nat.zero_le _) (Nat.sub_le a 1)]
      _ = w.slice 0 a ++ more := (slice_zero_withText ha _).trans reaches
      _ = w.slice 0 (a - 1) ++ (w.slice (a - 1) a ++ more) := by
        rw [← List.append_assoc, slice_append_slice (Nat.zero_le _) (Nat.sub_le a 1)]
  exact ⟨more, rest, ne_nil, followed, shortened ▸ before, shortened ▸ List.append_cancel_left front⟩

/-- Where the rest joins, the removed text comes back behind some of what had followed it. -/
theorem not_restored_of_joins (joins : w.segmentation.Joins (w.slice 0 a) (w.slice b w.len)) :
    ((w.cut a b).2.insert (w.slice a b) a .whole).text ≠ w.text := by
  have ha : a ≤ w.len := by omega
  obtain ⟨more, rest, takes⟩ := exists_takesIn lt le some_left joins
  obtain ⟨d, more', rfl⟩ := List.exists_cons_of_ne_nil takes.ne_nil
  rw [takes.followed] at joins
  intro same
  rw [text_insert_cut lt le some_left takes.slice_zero takes.followed, ← slice_append_slice_len ha,
    List.append_assoc, List.append_assoc] at same
  -- So what stood behind the text before it began with the same character, and would have joined it.
  apply not_joins_slices ha
  rw [← List.append_cancel_left same]
  exact joins.cons _

end

/-- What a deletion returns restores the text when it is inserted again where it was, unless what was
    before it and what was behind it join.  Then the position in front of it has taken in some of what
    followed, and it comes back behind that. -/
theorem restoration_law (some_left : b - a < w.len) :
    let removed := w.slice a b
    (w.cut a b).1 = some removed ∧
      (((w.cut a b).2.insert removed a .whole).text = w.text ↔
        ¬w.segmentation.Joins (w.slice 0 a) (w.slice b w.len)) ∧
      (w.segmentation.Joins (w.slice 0 a) (w.slice b w.len) →
        ∃ more rest, w.TakesIn a b more rest ∧
          ((w.cut a b).2.insert removed a .whole).text = w.slice 0 a ++ more ++ removed ++ rest) := by
  intro removed
  refine ⟨congrArg Prod.fst (cut_of_some_left lt le some_left), ⟨?_, ?_⟩, fun joins => ?_⟩
  · intro same joins
    exact not_restored_of_joins lt le some_left joins same
  · exact restored_of_not_joins lt le some_left
  · obtain ⟨more, rest, takes⟩ := exists_takesIn lt le some_left joins
    exact ⟨more, rest, takes, text_insert_cut lt le some_left takes.slice_zero takes.followed removed⟩

end

/-- The letter behind a carriage return comes back before a space.  Before a line feed it comes back behind
    the line break that the two make. -/
theorem restoration_law_of_carriageReturn :
    let w := Widget.ofText .clusters ['\r', 'a', ' ']
    let v := Widget.ofText .clusters ['\r', 'a', lineBreak]
    1 < 2 ∧ 2 ≤ w.len ∧ 2 - 1 < w.len ∧ (w.cut 1 2).1 = some ['a'] ∧
      ((w.cut 1 2).2.insert ['a'] 1 .whole).text = w.text ∧
      2 ≤ v.len ∧ 2 - 1 < v.len ∧ v.segmentation.Joins (v.slice 0 1) (v.slice 2 v.len) ∧
      ∃ more rest, v.TakesIn 1 2 more rest ∧
        ((v.cut 1 2).2.insert (v.slice 1 2) 1 .whole).text = ['\r'] ++ more ++ v.slice 1 2 ++ rest := by
  intro w v
  have le : 2 ≤ w.len := by decide
  have some_left : 2 - 1 < w.len := by decide
  obtain ⟨removed, restored, _⟩ := restoration_law (w := w) (Nat.lt_succ_self 1) le some_left
  have apart : ¬w.segmentation.Joins (w.slice 0 1) (w.slice 2 w.len) := by decide
  have le' : 2 ≤ v.len := by decide
  have some_left' : 2 - 1 < v.len := by decide
  obtain ⟨_, _, displaced⟩ := restoration_law (w := v) (Nat.lt_succ_self 1) le' some_left'
  have joins : v.segmentation.Joins (v.slice 0 1) (v.slice 2 v.len) := by decide
  exact ⟨Nat.lt_succ_self 1, le, some_left, removed.trans (by decide), restored.mpr apart, le', some_left',
    joins, displaced joins⟩

/-- Between a carriage return and a line feed it does not come back to its place. -/
theorem not_always_restored :
    ¬∀ w : Widget, w.segmentation = .clusters → ∀ a b : Nat, a < b → b ≤ w.len → b - a < w.len →
      ∃ removed, (w.cut a b).1 = some removed ∧
        ((w.cut a b).2.insert removed a .whole).text = w.text := by
  intro always
  obtain ⟨removed, reported, restored⟩ :=
    always (.ofText .clusters ['\r', 'a', lineBreak]) rfl 1 2 (by decide) (by decide) (by decide)
  have letter : removed = ['a'] := Option.some.inj (reported.symm.trans (by decide))
  rw [letter] at restored
  exact absurd restored (by decide)

end ModalEdit.Widget
