import Mathlib.Data.List.Induction
import ModalEdit.Proofs.Editor.VisualRestart
import ModalEdit.Proofs.Session.Modals

/-! # When the anchor of a visual selection is missing

Whatever a host does, a field with a visual cursor has an anchor, with one exception: a field that
gains the focus in visual mode loses its anchor but not the mode.  From then on it has none until the
mode is left or a step back puts one down (`UnanchoredSinceFocus`), and a motion that moves leaves a
cursor all the same (`anchor_law`).

Everything but the focus keeps an anchor: `ModalChanges` names what is done to the modal state of a
field between two focus events, and `ModalChanges.act` follows it through the acts of a host.
-/

namespace ModalEdit

open ModalState (Unanchored)

/-! ## Visual mode with an anchor -/

theorem ModalState.not_unanchored_of_anchor {s : ModalState} {p : Nat} (anchor : s.anchor = some p) :
    ¬s.Unanchored := by
  intro h
  cases anchor.symm.trans h.anchor

theorem ModalState.not_unanchored_switchMode (s : ModalState) {m : Mode} (other : m ≠ .visual) :
    ¬(s.switchMode m).Unanchored :=
  fun h => other ((s.mode_switchMode m).symm.trans h.visual)

/-- A field that has its anchor keeps it as long as it is not focused. -/
theorem anchored_changes : ModalChanges (¬·.Unanchored) where
  withCursor anchored _ _ h := anchored ⟨h.visual, h.anchor⟩
  withAnchor _ _ _ := ModalState.not_unanchored_of_anchor rfl
  toNormal {s} _ := s.not_unanchored_switchMode (by decide)
  toInsert {s} _ := s.not_unanchored_switchMode (by decide)
  beginVisual _ _ := ModalState.not_unanchored_of_anchor rfl
  setReplacing anchored _ h := anchored ⟨h.visual, h.anchor⟩

namespace Session

/-- A field was focused in visual mode, and has been without an anchor in that mode at all times
    since. -/
def UnanchoredSinceFocus (s : Session) (f : FieldId) (acts : List HostAct) : Prop :=
  ∃ before after, acts = before ++ .focus f :: after ∧
    ∀ later, later <+: after →
      ((s.run (before ++ .focus f :: later)).engine.fieldOrNew f).modal.Unanchored

variable {s : Session} {f : FieldId} {acts : List HostAct}

/-- By induction on the run from its last act. -/
theorem unanchoredSinceFocus_of_unanchored (begins : ¬(s.engine.fieldOrNew f).modal.Unanchored)
    (ends : ((s.run acts).engine.fieldOrNew f).modal.Unanchored) : s.UnanchoredSinceFocus f acts := by
  induction acts using List.reverseRecOn with
  | nil => exact absurd ends begins
  | append_singleton front a ih =>
    by_cases focused : a = .focus f
    · subst focused
      refine ⟨front, [], rfl, ?_⟩
      intro later initial
      rwa [List.prefix_nil.mp initial]
    · -- The anchor was missing before this act, since only the focus takes it away.
      have earlier : ((s.run front).engine.fieldOrNew f).modal.Unanchored := by
        apply Classical.byContradiction
        intro anchored
        rw [run_append] at ends
        exact anchored_changes.act focused anchored ends
      obtain ⟨before, after, rfl, since⟩ := ih earlier
      refine ⟨before, after ++ [a], by simp, ?_⟩
      intro later initial
      rcases List.prefix_concat_iff.mp initial with rfl | initial
      · simpa using ends
      · exact since later initial

/-! ## The law -/

/-- In every state that a host can bring about, a field with a visual cursor has an anchor, unless it
    was focused in visual mode and has been without an anchor in that mode ever since.  There, whatever
    widget shows the field, every motion that moves leaves a cursor, and no anchor unless it is a step
    back.  So the selection that it makes begins at the moving end and not where the one before it
    began. -/
theorem anchor_law {engine : Engine} (built : engine.Built) (first : Widget) (others : List Widget)
    (acts : List HostAct) (f : FieldId) :
    let s := start engine first others
    let modal := ((s.run acts).engine.fieldOrNew f).modal
    (modal.cursor.isSome → (modal.anchor = none ↔ s.UnanchoredSinceFocus f acts)) ∧
      (s.UnanchoredSinceFocus f acts →
        ∀ d : Editor, d.modal = modal →
          (∀ action ∈ Action.motions, ∀ count,
            d.run action count = d ∨
              (d.run action count).modal.cursor.isSome ∧
                ((d.run action count).modal.anchor.isSome ↔ action ∈ Action.stepsBack)) ∧
          ∀ action ∈ Action.reaches,
            d.run action 1 = d ∨
              ∃ k, (d.run action 1).modal.cursor = some k ∧
                (d.run action 1).widget.selection = .between d.movingEnd k (d.run action 1).len) := by
  intro s modal
  have tidy : modal.Tidy := ModalState.tidy_laws.run built first others acts f
  have begins : ¬(s.engine.fieldOrNew f).modal.Unanchored := by
    obtain ⟨config, keymap, register, _, rfl⟩ := built.eq_assemble
    intro h
    cases h.visual
  have ends : s.UnanchoredSinceFocus f acts → modal.Unanchored := by
    rintro ⟨before, after, rfl, since⟩
    exact since after (List.prefix_refl after)
  constructor
  · intro hasCursor
    have visual : modal.mode = .visual := by
      apply Classical.byContradiction
      intro other
      rw [(tidy.ends other).2] at hasCursor
      cases hasCursor
    exact ⟨fun missing => unanchoredSinceFocus_of_unanchored begins ⟨visual, missing⟩,
      fun since => (ends since).anchor⟩
  · intro since d shown
    have unanchored : d.modal.Unanchored := shown ▸ ends since
    exact ⟨fun action motion count => Editor.run_of_unanchored unanchored motion count,
      fun action reaches => Editor.selection_run_of_unanchored unanchored reaches⟩

/-- The field is focused again in visual mode.  The step forward behind that leaves a cursor and no
    anchor, and the next one selects from that cursor on. -/
theorem anchor_law_of_refocused_field :
    let w : Widget := { Widget.ofText .scalars ['a', 'b', 'c', 'd'] with selection := ⟨0, 2⟩ }
    let acts : List HostAct := [.key (.plain (.char 'v')), .focus 0, .key (.plain (.char 'l'))]
    let d : Editor :=
      { modal := { mode := .visual, cursor := some 2 }, widget := w, register := {},
        history := .ofLimit 1 }
    Engine.standard.Built ∧ d.modal = (((start .standard w []).run acts).engine.fieldOrNew 0).modal ∧
      (start .standard w []).UnanchoredSinceFocus 0 acts ∧
      (d.run .selectNextChar 1).widget.selection = ⟨2, 4⟩ := by
  intro w acts d
  have built : Engine.standard.Built := .inl rfl
  have shown : d.modal = (((start .standard w []).run acts).engine.fieldOrNew 0).modal := by decide
  have moved : (d.run .selectNextChar 1).modal.cursor = some 4 := by decide
  have law := anchor_law built w [] acts 0
  dsimp only at law
  rw [← shown] at law
  have since : (start .standard w []).UnanchoredSinceFocus 0 acts := (law.1 rfl).mp rfl
  have restarted := (law.2 since d rfl).2 .selectNextChar (by decide)
  refine ⟨built, shown, since, ?_⟩
  rcases restarted with same | ⟨k, there, selected⟩
  · rw [same] at moved
    cases moved
  · cases there.symm.trans moved
    exact selected.trans (by decide)

/-- So a field with a visual cursor does not always have an anchor. -/
theorem not_always_anchored :
    ¬∀ {engine : Engine}, engine.Built →
      ∀ (first : Widget) (others : List Widget) (acts : List HostAct) (f : FieldId),
        let modal := (((start engine first others).run acts).engine.fieldOrNew f).modal
        modal.cursor.isSome → modal.anchor.isSome := by
  intro anchored
  let w : Widget := { Widget.ofText .scalars ['a', 'b'] with selection := ⟨0, 1⟩ }
  have anchor := @anchored .standard (.inl rfl) w []
    [.key (.plain (.char 'v')), .focus 0, .key (.plain (.char 'l'))] 0 (by decide)
  exact absurd anchor (by decide)

end Session

end ModalEdit
