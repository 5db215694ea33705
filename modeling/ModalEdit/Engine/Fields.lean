import ModalEdit.History
import ModalEdit.Mode
import ModalEdit.Timer

/-! # Fields

What the engine keeps for each editable field of a host: its modal state and its undo history.
The fields are told apart by the host's numbers for them, and one that was never used has
nothing kept for it.  `get?_put_self` and `get?_put_of_ne` are all that is needed to know of
the table.
-/

namespace ModalEdit

/-- What the engine keeps for a field. -/
structure Field where
  modal : ModalState := {}
  history : History
  deriving DecidableEq

/-- The fields used so far. -/
structure FieldTable where
  entries : List (FieldId × Field) := []
  deriving DecidableEq

namespace FieldTable

def get? (t : FieldTable) (f : FieldId) : Option Field := t.entries.lookup f

/-- Replaces the first entry of a field, or adds one at the end. -/
def putIn (f : FieldId) (x : Field) : List (FieldId × Field) → List (FieldId × Field)
  | [] => [(f, x)]
  | (g, y) :: rest => if f = g then (f, x) :: rest else (g, y) :: putIn f x rest

def put (t : FieldTable) (f : FieldId) (x : Field) : FieldTable := ⟨putIn f x t.entries⟩

@[simp] theorem get?_put_self (t : FieldTable) (f : FieldId) (x : Field) :
    (t.put f x).get? f = some x := by
  obtain ⟨entries⟩ := t
  simp only [put, get?]
  induction entries with
  | nil => simp [putIn]
  | cons p rest ih =>
    obtain ⟨g, y⟩ := p
    by_cases h : f = g
    · simp [putIn, h]
    · rw [putIn, if_neg h, List.lookup_cons, beq_false_of_ne h, ih]

theorem get?_put_of_ne (t : FieldTable) {f g : FieldId} (h : g ≠ f) (x : Field) :
    (t.put f x).get? g = t.get? g := by
  obtain ⟨entries⟩ := t
  simp only [put, get?]
  induction entries with
  | nil => rw [putIn, List.lookup_cons, beq_false_of_ne h]
  | cons p rest ih =>
    obtain ⟨k, y⟩ := p
    by_cases hk : f = k
    · subst hk
      rw [putIn, if_pos rfl, List.lookup_cons, List.lookup_cons, beq_false_of_ne h]
    · rw [putIn, if_neg hk, List.lookup_cons, List.lookup_cons, ih]

end FieldTable

end ModalEdit
