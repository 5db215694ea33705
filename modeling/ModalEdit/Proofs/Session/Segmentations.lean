import ModalEdit.Proofs.Session.Likeness
import ModalEdit.Proofs.Widget.Twins

/-! # Segmentations that cannot be told apart

A host that handles nothing but plain texts cannot tell from a session how its widgets cut their
texts.  `trace_startAs_eq` compares two sessions that differ in the segmentation of every widget:
after each step they have the same engine and show the same texts, positions and selections, and
each key is answered in the same way.

Besides what it reports to the engine, a host may call the current widget and write to the
register, in any order.
-/

namespace ModalEdit

/-! ## Steps -/

inductive HostStep
  | act (a : HostAct)
  | call (x : Widget.Call)
  | writeRegister (cs : Text)
  | setLineWise (lineWise : Bool)

/-- The text that a step brings in. -/
def HostStep.text? : HostStep → Option Text
  | .act (.type event) => event.typed?.map fun c => [c]
  | .act _ | .setLineWise _ => none
  | .call x => x.text?
  | .writeRegister cs => some cs

namespace Session

def step (s : Session) : HostStep → Session
  | .act a => s.act a
  | .call x => s.onWidget (·.call x)
  | .writeRegister cs => { s with engine := s.engine.writeRegister cs }
  | .setLineWise lineWise => { s with engine := s.engine.setLineWise lineWise }

def stepOutcome? (s : Session) : HostStep → Option KeyOutcome
  | .act a => s.outcome? a
  | .call _ | .writeRegister _ | .setLineWise _ => none

/-! ## What can be seen -/

/-- What can be seen of a widget, its segmentation and its focus count apart. -/
structure Face where
  text : Text
  units : List Cluster
  selection : Selection

structure View where
  engine : Engine
  faces : List Face
  current : Nat
  now : Nat

def face (w : Widget) : Face := ⟨w.text, w.units, w.selection⟩

def view (s : Session) : View := ⟨s.engine, s.widgets.map face, s.current, s.now⟩

/-- What the host is told and can see after each of some steps. -/
def trace (s : Session) : List HostStep → List (Option KeyOutcome × View)
  | [] => []
  | x :: steps => (s.stepOutcome? x, (s.step x).view) :: (s.step x).trace steps

theorem face_eq {v w : Widget} (h : v.Twins w) : face v = face w := by
  rw [face, face, h.text_eq, h.units_eq, h.selection_eq]

theorem faces_eq {vs ws : List Widget} (h : List.Forall₂ Widget.Twins vs ws) :
    vs.map face = ws.map face := by
  induction h with
  | nil => rfl
  | cons head _ ih => rw [List.map_cons, List.map_cons, face_eq head, ih]

/-! ## Plain sessions -/

/-- Sessions that differ in the segmentation of plain texts. -/
def plainly : Likeness := .ofTexts Text.Plain Text.Plain Text.Plain Widget.Twins

theorem plainly_laws : Likeness.TextLaws Text.Plain Text.Plain Text.Plain Widget.Twins where
  units_eq h := h.units_eq
  selection_eq h := h.selection_eq
  saves h := h.plain
  yanks h := h.slice_plain
  blank := by decide
  lineBreak := by decide
  append_of hcs hds := hcs.append hds
  dropFinalBreak hcs := hcs.of_subset (Editor.dropFinalBreak_subset _)
  select h := h.select
  cut h := h.cut
  insert h _ hcs := h.insert hcs
  withText h _ hcs := h.withText hcs
  typeOver h _ hcs := h.typeOver hcs

theorem plainly_lawful : plainly.Lawful := plainly_laws.lawful

section Steps

variable {s t : Session} (h : plainly.Sessions s t)

include h

theorem view_eq : s.view = t.view := by
  rw [view, view, h.engine_eq, faces_eq h.widgets, h.current_eq, h.now_eq]

theorem stepOutcome?_eq (x : HostStep) : s.stepOutcome? x = t.stepOutcome? x := by
  cases x with
  | act a => exact plainly_lawful.outcome?_eq h a
  | call x => rfl
  | writeRegister cs => rfl
  | setLineWise lineWise => rfl

theorem sessions_step {x : HostStep} (plain : ∀ cs, x.text? = some cs → cs.Plain) :
    plainly.Sessions (s.step x) (t.step x) := by
  cases x with
  | act a =>
    apply plainly_lawful.act h a
    rintro event c rfl typed
    exact plain [c] (by simp [HostStep.text?, typed])
  | call x =>
    have called : (s.widget.call x).Twins (t.widget.call x) := h.current.call x plain
    exact h.onWidget (f := (·.call x)) (g := (·.call x)) called
  | writeRegister cs =>
    refine ⟨congrArg (·.writeRegister cs) h.engine_eq, ⟨h.sound.field, ?_⟩, h.widgets,
      h.current_eq, h.now_eq⟩
    intro ds read
    exact Likeness.of_text?_write (plain cs rfl) read
  | setLineWise lineWise =>
    exact ⟨congrArg (·.setLineWise lineWise) h.engine_eq, ⟨h.sound.field, h.sound.register⟩,
      h.widgets, h.current_eq, h.now_eq⟩

theorem trace_eq {steps : List HostStep}
    (plain : ∀ x ∈ steps, ∀ cs, x.text? = some cs → cs.Plain) : s.trace steps = t.trace steps := by
  induction steps generalizing s t with
  | nil => rfl
  | cons x steps ih =>
    have next := sessions_step h (plain x List.mem_cons_self)
    rw [trace, trace, stepOutcome?_eq h, view_eq next,
      ih next fun y member => plain y (List.mem_cons_of_mem x member)]

end Steps

/-! ## From the start -/

def shown (segmentation : Segmentation) (text : Text) (selection : Selection) : Widget :=
  (Widget.ofText segmentation text).setSelection selection.start selection.stop

/-- A session whose widgets cut their texts in a given way. -/
def startAs (segmentation : Segmentation) (engine : Engine) (first : Text × Selection)
    (others : List (Text × Selection)) : Session :=
  start engine (shown segmentation first.1 first.2)
    (others.map fun x => shown segmentation x.1 x.2)

/-- As long as every text that enters a session is plain, a host is told and shown the same
    after every step, whether its widgets take characters or clusters for positions. -/
theorem trace_startAs_eq {engine : Engine} (built : engine.Built)
    (register : ∀ cs, engine.register.text? = some cs → cs.Plain) {first : Text × Selection}
    {others : List (Text × Selection)} (texts : ∀ x ∈ first :: others, x.1.Plain)
    {steps : List HostStep} (plain : ∀ x ∈ steps, ∀ cs, x.text? = some cs → cs.Plain) :
    (startAs .clusters engine first others).trace steps =
      (startAs .scalars engine first others).trace steps := by
  have twins : List.Forall₂ Widget.Twins
      ((first :: others).map fun x => shown .clusters x.1 x.2)
      ((first :: others).map fun x => shown .scalars x.1 x.2) := by
    rw [List.forall₂_map_left_iff, List.forall₂_map_right_iff, List.forall₂_same]
    exact fun x member => ⟨rfl, rfl, texts x member⟩
  have begin : plainly.Sessions (startAs .clusters engine first others)
      (startAs .scalars engine first others) :=
    ⟨rfl, plainly_lawful.sound_of_built built register, twins, rfl, rfl⟩
  exact trace_eq begin plain

/-- Typing, a paste of the register and an undo, in a text of two lines. -/
theorem trace_startAs_eq_of_paste :
    let register : Register := { clipboard := .memory (some ['x', 'y']) }
    let steps : List HostStep :=
      [.act (.key (.plain (.char 'p'))), .call (.insert ['!', '\n'] 1 .whole),
        .act (.key (.plain (.char 'u'))), .call (.typeOver ['z'])]
    let engine := Engine.assemble {} .standard register
    (startAs .clusters engine (['a', '\n', 'b'], ⟨0, 1⟩) []).trace steps =
      (startAs .scalars engine (['a', '\n', 'b'], ⟨0, 1⟩) []).trace steps := by
  intro register steps engine
  have built : engine.Built := .inr ⟨{}, .standard, [], register, rfl⟩
  apply trace_startAs_eq built
  · rintro cs ⟨⟩
    decide
  · intro x member
    cases List.mem_singleton.mp member
    decide
  · intro x member cs text
    simp only [steps, List.mem_cons, List.not_mem_nil, or_false] at member
    rcases member with rfl | rfl | rfl | rfl
    · nomatch text
    · cases text
      decide
    · nomatch text
    · cases text
      decide

end Session

end ModalEdit
