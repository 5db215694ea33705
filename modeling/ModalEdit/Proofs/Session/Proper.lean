import ModalEdit.Proofs.Session.Likeness
import ModalEdit.Proofs.Widget.Proper

/-! # Widgets stay proper

Whatever a host does with keys, clicks, timers and focus, a widget that had a text and a
selection inside it keeps having them.  Undoing is the one command that brings in a text from
elsewhere, so the invariant speaks of the saved texts too: none of them is empty.
-/

namespace ModalEdit.Session

/-- The operations of widgets keep a proper widget proper and never save an empty text. -/
theorem proper_laws :
    Likeness.TextLaws (· ≠ []) (fun _ => True) (· ≠ []) (fun v w => v = w ∧ v.Proper) where
  units_eq := by
    rintro v _ ⟨rfl, _⟩
    rfl
  selection_eq := by
    rintro v _ ⟨rfl, _⟩
    rfl
  saves := by
    rintro v _ ⟨rfl, proper⟩
    exact proper.text_ne_nil
  yanks _ _ _ := trivial
  blank := trivial
  lineBreak := trivial
  append_of _ _ := trivial
  dropFinalBreak _ := trivial
  select := by
    rintro v _ ⟨rfl, proper⟩ a b
    exact ⟨rfl, .select proper.text_ne_nil a b⟩
  cut := by
    rintro v _ ⟨rfl, proper⟩ a b
    exact ⟨rfl, proper.cut a b⟩
  insert := by
    rintro v _ ⟨rfl, proper⟩ cs _ p placement
    exact ⟨rfl, .insert proper.text_ne_nil cs p placement⟩
  withText := by
    rintro v _ ⟨rfl, proper⟩ cs nonempty
    exact ⟨rfl, proper.withText nonempty⟩
  typeOver := by
    rintro v _ ⟨rfl, proper⟩ cs nonempty
    exact ⟨rfl, proper.typeOver nonempty⟩

/-- Every act keeps the proper widgets of a session related to themselves, as proper ones. -/
theorem forall₂_proper_run {engine : Engine} (built : engine.Built) {first : Widget}
    {others : List Widget} (proper : ∀ w ∈ first :: others, w.Proper) (acts : List HostAct) :
    List.Forall₂ (fun v w => v = w ∧ v.Proper) ((start engine first others).run acts).widgets
      ((start engine first others).run acts).widgets := by
  have law := proper_laws.lawful
  have begin : Likeness.Sessions _ (start engine first others) (start engine first others) :=
    ⟨rfl, law.sound_of_built built (fun _ _ => trivial),
      List.forall₂_same.mpr fun w member => ⟨rfl, proper w member⟩, rfl, rfl⟩
  exact (law.run begin acts fun _ _ _ c _ _ => List.cons_ne_nil c []).widgets

theorem proper_widget_run {engine : Engine} (built : engine.Built) {first : Widget}
    {others : List Widget} (proper : ∀ w ∈ first :: others, w.Proper) (acts : List HostAct) :
    ((start engine first others).run acts).widget.Proper :=
  (List.forall₂_same.mp (forall₂_proper_run built proper acts) _ (List.get_mem _ _)).2

/-- In every run of a host on an engine that it made, with any settings and bindings, each
    widget that was proper at the start is proper after every act. -/
theorem widgets_proper_of_run {engine : Engine} (built : engine.Built) {first : Widget}
    {others : List Widget} (proper : ∀ w ∈ first :: others, w.Proper) (acts : List HostAct) :
    ∀ w ∈ ((start engine first others).run acts).widgets, w.Proper := by
  intro w member
  exact (List.forall₂_same.mp (forall₂_proper_run built proper acts) w member).2

/-- A mark that is typed behind a letter joins it: the text of three characters has two
    positions then, and the caret stays where it was. -/
theorem widgets_proper_of_typed_mark :
    let w : Widget := { segmentation := .clusters, text := ['a', 'b'], selection := ⟨1, 1⟩ }
    let acts := [.key (.plain (.char 'i')), .setClock 100000000, .poll,
      .key (.plain (.char '\u0301')), .type (.plain (.char '\u0301'))]
    Engine.standard.Built ∧ (∀ v ∈ [w], v.Proper) ∧
      ∀ v ∈ ((start .standard w []).run acts).widgets, v.Proper := by
  intro w acts
  have proper : ∀ v ∈ [w], v.Proper := by
    intro v member
    cases List.mem_singleton.mp member
    exact ⟨by decide, by decide, by decide⟩
  exact ⟨.inl rfl, proper, widgets_proper_of_run (.inl rfl) proper acts⟩

end ModalEdit.Session
