import ModalEdit.Text.Cluster

/-! # Undo history

The texts that a field had before its last changes, each with the caret position to return to.
The history is a stack with a limit: recording beyond the limit forgets the oldest entry.
-/

namespace ModalEdit

/-- A text to return to. -/
structure UndoEntry where
  position : Nat
  text : Text
  deriving DecidableEq

/-- The entries of one field, the newest first. -/
structure History where
  limit : Nat
  entries : List UndoEntry := []
  limit_pos : 0 < limit
  length_le : entries.length ≤ limit
  deriving DecidableEq

namespace History

/-- An empty history that keeps `limit` entries, or one if that is none. -/
def ofLimit (limit : Nat) : History where
  limit := max limit 1
  limit_pos := by omega
  length_le := Nat.zero_le _

def size (h : History) : Nat := h.entries.length

/-- The entries in the order in which they were recorded. -/
def oldestFirst (h : History) : List UndoEntry := h.entries.reverse

def record (h : History) (text : Text) (position : Nat) : History where
  limit := h.limit
  entries := (⟨position, text⟩ :: h.entries).take h.limit
  limit_pos := h.limit_pos
  length_le := by simp only [List.length_take]; omega

def pop? (h : History) : Option (UndoEntry × History) :=
  match he : h.entries with
  | [] => none
  | entry :: rest =>
    some (entry,
      { limit := h.limit
        entries := rest
        limit_pos := h.limit_pos
        length_le := by have := h.length_le; rw [he, List.length_cons] at this; omega })

theorem pop?_eq_none_iff {h : History} : h.pop? = none ↔ h.entries = [] := by
  unfold pop?
  split
  · next he => simp [he]
  · next he => simp [he]

theorem pop?_eq_some_iff {h h' : History} {entry : UndoEntry} :
    h.pop? = some (entry, h') ↔ h.entries = entry :: h'.entries ∧ h.limit = h'.limit := by
  obtain ⟨limit, entries, pos, le⟩ := h
  obtain ⟨limit', entries', pos', le'⟩ := h'
  cases entries with
  | nil => simp [pop?]
  | cons e rest =>
    simp only [pop?, Option.some.injEq, Prod.mk.injEq, History.mk.injEq, List.cons.injEq]
    constructor
    · rintro ⟨he, hl, hr⟩
      exact ⟨⟨he, hr⟩, hl⟩
    · rintro ⟨⟨he, hr⟩, hl⟩
      exact ⟨he, hl, hr⟩

/-- What was recorded last is taken first. -/
theorem pop?_record (h : History) (text : Text) (position : Nat) :
    ∃ h', (h.record text position).pop? = some (⟨position, text⟩, h') ∧
      h'.entries = h.entries.take (h.limit - 1) := by
  have hl := h.limit_pos
  have he : (h.record text position).entries =
      ⟨position, text⟩ :: h.entries.take (h.limit - 1) := by
    simp [record, List.take_cons hl]
  exact ⟨⟨h.limit, _, hl, by simp only [List.length_take]; omega⟩,
    pop?_eq_some_iff.mpr ⟨he, rfl⟩, rfl⟩

end History

end ModalEdit
