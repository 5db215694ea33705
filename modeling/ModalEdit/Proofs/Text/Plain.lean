import ModalEdit.Text.Cluster

/-! # Plain texts

Where user-perceived characters are single characters.  In a text of ASCII characters none of
which is a carriage return, no character joins the one before it, so both segmentations cut the
text into its characters.
-/

namespace ModalEdit

open Unicode (BreakClass)

/-! ## Characters -/

/-- An ASCII character other than a carriage return. -/
def PlainChar (c : Char) : Prop := c.toNat < 128 ∧ c ≠ '\r'

instance (c : Char) : Decidable (PlainChar c) := inferInstanceAs (Decidable (_ ∧ _))

/-- The classes of plain characters: those that neither join nor are joined. -/
def bareClasses : List BreakClass := [.control, .lineFeed, .other]

theorem ofCode_mem_bareClasses :
    ∀ n < 128, n ≠ 13 → BreakClass.ofCode n ∈ bareClasses := by
  decide +kernel

theorem PlainChar.class_mem {c : Char} (h : PlainChar c) : BreakClass.of c ∈ bareClasses := by
  apply ofCode_mem_bareClasses _ h.1
  intro same
  exact h.2 (Char.toNat_inj.mp same)

/-- Nothing that is bare joins anything that is bare. -/
theorem Lookback.joins_eq_false {b : Lookback} {k : BreakClass} (hb : b.last ∈ bareClasses)
    (hk : k ∈ bareClasses) : b.joins k = false := by
  obtain ⟨last, halfFlag, pictograph, conjunct⟩ := b
  simp only [bareClasses, List.mem_cons, List.not_mem_nil, or_false] at hb hk
  rcases hb with rfl | rfl | rfl <;> rcases hk with rfl | rfl | rfl <;> rfl

/-! ## Texts -/

def Text.Plain (cs : Text) : Prop := ∀ c ∈ cs, PlainChar c

instance (cs : Text) : Decidable cs.Plain := List.decidableBAll PlainChar cs

namespace Text.Plain

variable {cs ds : Text}

theorem append (hcs : cs.Plain) (hds : ds.Plain) : Text.Plain (cs ++ ds) := by
  intro c member
  rcases List.mem_append.mp member with left | right
  · exact hcs c left
  · exact hds c right

theorem of_subset (hcs : cs.Plain) (subset : ds ⊆ cs) : ds.Plain :=
  fun c member => hcs c (subset member)

end Text.Plain

theorem Lookback.cut_of_plain {b : Lookback} {cs : Text} (hb : b.last ∈ bareClasses)
    (hcs : cs.Plain) : b.cut cs = ([], cs.map Cluster.single) := by
  induction cs generalizing b with
  | nil => rfl
  | cons c cs ih =>
    have bare := (hcs c List.mem_cons_self).class_mem
    -- The next character begins a cluster of its own, and again a bare one stands before the rest.
    have apart : b.joins (.of c) = false := joins_eq_false hb bare
    have rest : Text.Plain cs := fun d member => hcs d (List.mem_cons_of_mem c member)
    rw [cut, apart, ih (b := .start (.of c)) bare rest]
    rfl

theorem graphemes_of_plain {cs : Text} (hcs : cs.Plain) : graphemes cs = cs.map Cluster.single := by
  cases cs with
  | nil => rfl
  | cons c cs =>
    have bare := (hcs c List.mem_cons_self).class_mem
    have rest : Text.Plain cs := fun d member => hcs d (List.mem_cons_of_mem c member)
    rw [graphemes, Lookback.cut_of_plain bare rest]
    rfl

theorem Segmentation.split_of_plain (s : Segmentation) {cs : Text} (hcs : cs.Plain) :
    s.split cs = cs.map Cluster.single := by
  cases s with
  | scalars => rfl
  | clusters => exact graphemes_of_plain hcs

end ModalEdit
