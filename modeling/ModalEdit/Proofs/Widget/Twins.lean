import ModalEdit.Proofs.Text.Plain
import ModalEdit.Widget

/-! # Twins

Two widgets with the same plain text and the same selection.  They may cut texts differently, but
they do not cut this one differently, so they answer every question alike; and after the same
operation with a plain text they are twins again.
-/

namespace ModalEdit.Widget

theorem slice_subset (w : Widget) (a b : Nat) : w.slice a b ⊆ w.text := by
  intro c member
  rw [slice, Cluster.joined, List.mem_flatMap] at member
  obtain ⟨k, hk, hc⟩ := member
  have whole : k ∈ w.units := List.mem_of_mem_take (List.mem_of_mem_drop hk)
  rw [w.units_eq] at whole
  rw [← w.segmentation.joined_split w.text, Cluster.joined]
  exact List.mem_flatMap.mpr ⟨k, whole, hc⟩

/-- The same plain text with the same selection, however it is cut. -/
structure Twins (v w : Widget) : Prop where
  text_eq : v.text = w.text
  selection_eq : v.selection = w.selection
  plain : v.text.Plain

namespace Twins

variable {v w : Widget}

theorem units_eq (h : Twins v w) : v.units = w.units := by
  rw [v.units_eq, w.units_eq, Segmentation.split_of_plain _ h.plain, h.text_eq,
    Segmentation.split_of_plain _ (h.text_eq ▸ h.plain)]

theorem len_eq (h : Twins v w) : v.len = w.len := congrArg List.length h.units_eq

theorem slice_eq (h : Twins v w) (a b : Nat) : v.slice a b = w.slice a b := by
  rw [slice, slice, h.units_eq]

theorem slice_plain (h : Twins v w) (a b : Nat) : (v.slice a b).Plain :=
  h.plain.of_subset (v.slice_subset a b)

theorem select (h : Twins v w) (a b : Nat) : Twins (v.select a b) (w.select a b) :=
  ⟨h.text_eq, by rw [selection_select, selection_select, h.len_eq], h.plain⟩

theorem setSelection (h : Twins v w) (a b : Nat) :
    Twins (v.setSelection a b) (w.setSelection a b) := ⟨h.text_eq, rfl, h.plain⟩

theorem focus (h : Twins v w) : Twins v.focus w.focus := ⟨h.text_eq, h.selection_eq, h.plain⟩

theorem withText (h : Twins v w) {cs : Text} (hcs : cs.Plain) :
    Twins (v.withText cs) (w.withText cs) := by
  refine ⟨rfl, ?_, hcs⟩
  simp only [Widget.withText, Segmentation.split_of_plain _ hcs, h.selection_eq]

theorem cut (h : Twins v w) (a b : Nat) : Twins (v.cut a b).2 (w.cut a b).2 := by
  simp only [Widget.cut, ← h.len_eq, ← h.slice_eq]
  split
  · exact h
  · apply h.withText
    split
    · exact by decide
    · exact (h.slice_plain _ _).append (h.slice_plain _ _)

theorem splice (h : Twins v w) {cs : Text} (hcs : cs.Plain) (p q : Nat) :
    Twins (v.withText (v.slice 0 p ++ cs ++ v.slice q v.len))
      (w.withText (w.slice 0 p ++ cs ++ w.slice q w.len)) := by
  rw [← h.slice_eq, ← h.slice_eq, ← h.len_eq]
  exact h.withText (((h.slice_plain _ _).append hcs).append (h.slice_plain _ _))

theorem insert (h : Twins v w) {cs : Text} (hcs : cs.Plain) (p : Nat) (placement : Placement) :
    Twins (v.insert cs p placement) (w.insert cs p placement) := by
  -- The new texts are plain as well, so they have the same length in positions.
  have spliced := h.splice hcs (min p v.len) (min p v.len)
  have len_eq := spliced.len_eq
  rw [h.len_eq] at spliced len_eq
  simp only [Widget.insert, h.len_eq, len_eq]
  apply focus
  cases placement with
  | whole => exact spliced.select _ _
  | before lineWise =>
    cases lineWise with
    | true => exact spliced.select _ _
    | false => exact spliced.select _ _
  | after lineWise =>
    cases lineWise with
    | true =>
      dsimp only
      split
      · exact spliced.select _ _
      · exact spliced.select _ _
    | false => exact spliced.select _ _

theorem typeOver (h : Twins v w) {cs : Text} (hcs : cs.Plain) :
    Twins (v.typeOver cs) (w.typeOver cs) := by
  simp only [Widget.typeOver, h.selection_eq, ← h.len_eq]
  generalize min w.selection.start v.len = start
  generalize max start (min w.selection.stop v.len) = stop
  have spliced := h.splice hcs start stop
  rw [← h.len_eq] at spliced
  rw [spliced.len_eq]
  exact spliced.setSelection _ _

end Twins

/-! ## Calls -/

inductive Call
  | select (a b : Nat)
  | setSelection (a b : Nat)
  | setText (cs : Text)
  | cut (a b : Nat)
  | insert (cs : Text) (p : Nat) (placement : Placement)
  | typeOver (cs : Text)
  | focus

def Call.text? : Call → Option Text
  | .setText cs | .insert cs _ _ | .typeOver cs => some cs
  | .select _ _ | .setSelection _ _ | .cut _ _ | .focus => none

def call (w : Widget) : Call → Widget
  | .select a b => w.select a b
  | .setSelection a b => w.setSelection a b
  | .setText cs => w.withText cs
  | .cut a b => (w.cut a b).2
  | .insert cs p placement => w.insert cs p placement
  | .typeOver cs => w.typeOver cs
  | .focus => w.focus

theorem Twins.call {v w : Widget} (h : Twins v w) (x : Call)
    (plain : ∀ cs, x.text? = some cs → cs.Plain) : Twins (v.call x) (w.call x) := by
  cases x with
  | select a b => exact h.select a b
  | setSelection a b => exact h.setSelection a b
  | setText cs => exact h.withText (plain cs rfl)
  | cut a b => exact h.cut a b
  | insert cs p placement => exact h.insert (plain cs rfl) p placement
  | typeOver cs => exact h.typeOver (plain cs rfl)
  | focus => exact h.focus

end ModalEdit.Widget
