import ModalEdit.Editor.Run
import ModalEdit.Proofs.Editor.Deletion
import ModalEdit.Proofs.Editor.Resting

/-! # Counts are repetition

To run a command with a count is to run it so many times, as far as can be told (`repetition_law`).
That takes an argument, since the repeated command stops early.

A motion stops when selection, length, visual positions and history are as they were.  The text is
not compared, but a motion that changes the text makes it longer (`Moved`), so nothing has changed
but how often the focus was asked for, and no motion looks at that (`Refocused`).  So any motions with
counts are so many single steps (`refocused_runAll`).  A deletion stops after as many steps as there are
positions, and it has settled by then.
-/

namespace ModalEdit

/-- How many steps a motion takes.  What leads to a bound of the line or of the text is one step. -/
def Action.repeats (action : Action) (count : Nat) : Nat :=
  match action with
  | .lineHead | .lineTail | .firstLine | .lastLine => 1
  | _ => max count 1

/-- The single steps that motions with counts stand for. -/
def Action.steps (motions : List (Action × Nat)) : List Action :=
  motions.flatMap fun motion => List.replicate (motion.1.repeats motion.2) motion.1

namespace Editor

variable {d d' e : Editor}

/-! ## Motions -/

/-- The same editor but for requests for the focus. -/
def Refocused (d e : Editor) : Prop :=
  ∃ focusRequests, d = { e with widget := { e.widget with focusRequests := focusRequests } }

theorem refocused_equivalence : Equivalence Refocused where
  refl e := ⟨e.widget.focusRequests, rfl⟩
  symm {d e} same := by
    obtain ⟨_, rfl⟩ := same
    exact ⟨e.widget.focusRequests, rfl⟩
  trans same same' := by
    obtain ⟨_, rfl⟩ := same
    obtain ⟨_, rfl⟩ := same'
    exact ⟨_, rfl⟩

theorem Refocused.agrees (same : d.Refocused e) : d.Agrees e := by
  obtain ⟨focusRequests, rfl⟩ := same
  exact ⟨focusRequests, e.register, e.log, rfl⟩

theorem refocused_kept : KeptByMotions Refocused where
  alike same := by
    obtain ⟨_, rfl⟩ := same
    exact ⟨rfl, rfl, rfl, rfl, rfl⟩
  select same _ _ := by
    obtain ⟨_, rfl⟩ := same
    exact ⟨_, rfl⟩
  withCursor same _ _ := by
    obtain ⟨_, rfl⟩ := same
    exact ⟨_, rfl⟩
  withAnchor same _ _ := by
    obtain ⟨_, rfl⟩ := same
    exact ⟨_, rfl⟩
  fillLine same _ _ := by
    obtain ⟨_, rfl⟩ := same
    exact ⟨_, rfl⟩

/-- What a motion leaves of an editor: all but the selection, the visual positions, requests for the
    focus, and a text that it only makes longer. -/
structure Moved (e d : Editor) : Prop where
  segmentation_eq : d.widget.segmentation = e.widget.segmentation
  modal_eq : d.modal = { e.modal with anchor := d.modal.anchor, cursor := d.modal.cursor }
  register_eq : d.register = e.register
  history_eq : d.history = e.history
  log_eq : d.log = e.log
  text : d.widget.text = e.widget.text ∧ d.len = e.len ∨ e.len < d.len

theorem moved_kept (e : Editor) : KeptByMotions fun d d' => d = d' ∧ Moved e d where
  alike same := same.1 ▸ .refl _
  select same _ _ := by
    obtain ⟨rfl, m⟩ := same
    exact ⟨rfl, m.segmentation_eq, m.modal_eq, m.register_eq, m.history_eq, m.log_eq, m.text⟩
  withCursor same _ p := by
    obtain ⟨rfl, m⟩ := same
    refine ⟨rfl, m.segmentation_eq, ?_, m.register_eq, m.history_eq, m.log_eq, m.text⟩
    rw [withCursor, m.modal_eq]
  withAnchor same _ p := by
    obtain ⟨rfl, m⟩ := same
    refine ⟨rfl, m.segmentation_eq, ?_, m.register_eq, m.history_eq, m.log_eq, m.text⟩
    rw [withAnchor, m.modal_eq]
  fillLine {d d'} same p empty := by
    obtain ⟨rfl, m⟩ := same
    have longer := len_fillLine empty
    refine ⟨rfl, (Widget.segmentation_insert _ _ _ _).trans m.segmentation_eq, m.modal_eq,
      m.register_eq, m.history_eq, m.log_eq, .inr ?_⟩
    cases m.text with
    | inl same => omega
    | inr more => omega

theorem Moved.refl (e : Editor) : Moved e e := ⟨rfl, rfl, rfl, rfl, rfl, .inl ⟨rfl, rfl⟩⟩

/-- A motion that seems to change nothing has inserted nothing either. -/
theorem Moved.refocused (m : Moved e d) (same : e.unchanged d = true) : d.Refocused e := by
  simp only [unchanged, Bool.and_eq_true, decide_eq_true_eq, beq_iff_eq] at same
  obtain ⟨⟨⟨⟨selection, len⟩, anchor⟩, cursor⟩, _⟩ := same
  -- An inserted space would show in the length.
  have text : d.widget.text = e.widget.text := by
    cases m.text with
    | inl same => exact same.1
    | inr more => omega
  have widget : d.widget = { e.widget with focusRequests := d.widget.focusRequests } :=
    Widget.ext_text m.segmentation_eq text selection.symm rfl
  have modal : d.modal = e.modal := by rw [m.modal_eq, ← anchor, ← cursor]
  refine ⟨d.widget.focusRequests, ?_⟩
  rw [← widget, ← modal, ← m.register_eq, ← m.history_eq, ← m.log_eq]

/-- A command that is made of the steps of motions. -/
def IsMotion (command : Editor → Editor) : Prop :=
  ∀ {R : Editor → Editor → Prop}, KeptByMotions R → ∀ {d e}, R d e → R (command d) (command e)

theorem IsMotion.moved {command : Editor → Editor} (motion : IsMotion command) (e : Editor) :
    Moved e (command e) :=
  (motion (moved_kept e) ⟨rfl, .refl e⟩).2

theorem IsMotion.times {command : Editor → Editor} (motion : IsMotion command) (e : Editor)
    (count : Nat) : (e.times count command).Refocused (Nat.repeat command (max count 1) e) :=
  whileChanging_repeat refocused_equivalence (motion refocused_kept)
    (fun same => (motion.moved _).refocused same) _ e

theorem IsMotion.times_repeat {command : Editor → Editor} (motion : IsMotion command) (e : Editor)
    (count : Nat) :
    (e.times count command).Refocused (Nat.repeat (·.times 1 command) (max count 1) e) := by
  simp only [times_one]
  exact motion.times e count

/-! ## Motions with counts -/

section Counts

variable {action : Action} {steps : List Action}

/-- Runs actions with their counts. -/
def runAll (d : Editor) (actions : List (Action × Nat)) : Editor :=
  actions.foldl (fun d action => d.run action.1 action.2) d

/-- Runs actions one by one. -/
def runEach (d : Editor) (steps : List Action) : Editor :=
  steps.foldl (fun d action => d.run action 1) d

theorem runEach_append (d : Editor) (steps steps' : List Action) :
    d.runEach (steps ++ steps') = (d.runEach steps).runEach steps' :=
  List.foldl_append

theorem refocused_run_repeats (d : Editor) (motion : action ∈ Action.motions) (count : Nat) :
    (d.run action count).Refocused
      (d.runEach (List.replicate (action.repeats count) action)) := by
  have counted : ∀ {command : Editor → Editor}, IsMotion command →
      (d.times count command).Refocused (Nat.repeat (·.times 1 command) (max count 1) d) :=
    fun moves => moves.times_repeat d count
  rw [runEach, foldl_replicate]
  cases action with
  | selectNextChar => exact counted fun kept => kept.nextChar
  | selectPrevChar => exact counted fun kept => kept.prevChar
  | selectNextLine => exact counted fun kept => kept.nextLine
  | selectPrevLine => exact counted fun kept => kept.prevLine
  | nextWord => exact counted fun kept => kept.toNextWord
  | lineHead | lineTail | firstLine | lastLine => exact refocused_equivalence.refl _
  | _ => exact absurd motion (by decide)

theorem Refocused.runEach (same : d.Refocused d')
    (motions : ∀ action ∈ steps, action ∈ Action.motions) :
    (d.runEach steps).Refocused (d'.runEach steps) := by
  induction steps generalizing d d' with
  | nil => exact same
  | cons action steps ih =>
    have moved := refocused_kept.run same (motions action List.mem_cons_self) 1
    exact ih moved fun other member => motions other (List.mem_cons_of_mem action member)

theorem mem_motions_of_mem_steps {motions : List (Action × Nat)}
    (only : ∀ motion ∈ motions, motion.1 ∈ Action.motions) (member : action ∈ Action.steps motions) :
    action ∈ Action.motions := by
  obtain ⟨motion, there, repeated⟩ := List.mem_flatMap.mp member
  rw [List.eq_of_mem_replicate repeated]
  exact only motion there

/-- Motions with counts are as many single steps, as far as can be told. -/
theorem refocused_runAll {motions : List (Action × Nat)}
    (only : ∀ motion ∈ motions, motion.1 ∈ Action.motions) (d : Editor) :
    (d.runAll motions).Refocused (d.runEach (Action.steps motions)) := by
  induction motions generalizing d with
  | nil => exact refocused_equivalence.refl d
  | cons motion motions ih =>
    have rest : ∀ other ∈ motions, other.1 ∈ Action.motions := fun other member =>
      only other (List.mem_cons_of_mem motion member)
    have first := refocused_run_repeats d (only motion List.mem_cons_self) motion.2
    rw [Action.steps, List.flatMap_cons, runEach_append]
    exact refocused_equivalence.trans (ih rest _)
      (first.runEach fun _ member => mem_motions_of_mem_steps rest member)

end Counts

/-! ## Deletions of selections -/

theorem toNormal_of_normal (normal : e.modal.mode = .normal) : e.toNormal = e := by
  simp [toNormal, normal]

theorem modal_repeat_cutSelection (n : Nat) (e : Editor) :
    (Nat.repeat (fun e => e.cutSelection.2) n e).modal = e.modal := by
  induction n with
  | zero => rfl
  | succ n ih => exact ih

theorem modal_collect_cutSelection (h : e.Selects) (n : Nat) :
    (e.collect n false cutSelection).modal = e.modal := by
  have gathered := agrees_equivalence.trans (agrees_collect e n false cutSelection)
    (cutSelection_settling.gather _ h)
  rw [gathered.modal, modal_repeat_cutSelection]

theorem repeat_deleteSelection (normal : e.modal.mode = .normal) (n : Nat) :
    let d := Nat.repeat (·.collect 1 false cutSelection) n e
    Nat.repeat (·.deleteSelection 1) n e = d ∧ d.modal.mode = .normal := by
  induction n with
  | zero => exact ⟨rfl, normal⟩
  | succ n ih =>
    obtain ⟨same, normal⟩ := ih
    have still : (Nat.repeat (·.collect 1 false cutSelection) (n + 1) e).modal.mode = .normal := by
      rw [Nat.repeat, (agrees_collect_one _ false cutSelection).modal]
      exact normal
    refine ⟨?_, still⟩
    rw [Nat.repeat, same]
    exact toNormal_of_normal still

/-- In normal mode, going back to normal mode in between does not matter. -/
theorem deleteSelection_repeat (h : e.Selects) (normal : e.modal.mode = .normal) {n : Nat}
    (bounded : n ≤ maxCount) :
    (e.deleteSelection n).Agrees (Nat.repeat (·.deleteSelection 1) (max n 1) e) := by
  have still := (modal_collect_cutSelection h n).symm ▸ normal
  rw [deleteSelection, toNormal_of_normal still, (repeat_deleteSelection normal _).1]
  exact cutSelection_settling.collect bounded false h

/-! ## The law -/

/-- The actions that a count repeats in every state. -/
def repeated : List Action :=
  [.selectNextChar, .selectPrevChar, .selectNextLine, .selectPrevLine, .nextWord, .undo,
    .deleteLine, .deleteWord]

theorem run_repeat (rope : e.widget.segmentation = .scalars) {n : Nat} (bounded : n ≤ maxCount)
    {action : Action} (member : action ∈ repeated) :
    (e.run action n).Agrees (Nat.repeat (·.run action 1) (max n 1) e) := by
  have motions : ∀ {command : Editor → Editor}, IsMotion command →
      (e.times n command).Agrees (Nat.repeat (·.times 1 command) (max n 1) e) :=
    fun motion => (motion.times_repeat e n).agrees
  simp only [repeated, List.mem_cons, List.not_mem_nil, or_false] at member
  rcases member with rfl | rfl | rfl | rfl | rfl | rfl | rfl | rfl
  · exact motions fun k => k.nextChar
  · exact motions fun k => k.prevChar
  · exact motions fun k => k.nextLine
  · exact motions fun k => k.prevLine
  · exact motions fun k => k.toNextWord
  · show (e.times n undo).Agrees (Nat.repeat (·.times 1 undo) (max n 1) e)
    simp only [times_one]
    rw [times_undo]
    exact agrees_equivalence.refl _
  · exact cutLine_settling.collect bounded true rope
  · exact cutWord_settling.collect bounded false rope

/-- A count is repetition, although the repeated command stops early. -/
theorem repetition_law (rope : e.widget.segmentation = .scalars) {n : Nat} (bounded : n ≤ maxCount)
    {action : Action}
    (counted : action ∈ repeated ∨
      action = .deleteSelection ∧ e.modal.mode = .normal ∧
        e.widget.selection.start < e.widget.selection.stop ∧ e.widget.selection.stop ≤ e.len) :
    let d := e.run action n
    let d' := Nat.repeat (·.run action 1) (max n 1) e
    d.widget.text = d'.widget.text ∧ d.widget.selection = d'.widget.selection ∧
      d.modal = d'.modal ∧ d.history = d'.history := by
  intro d d'
  have agrees : d.Agrees d' := by
    cases counted with
    | inl member => exact run_repeat rope bounded member
    | inr selection =>
      obtain ⟨rfl, normal, something, inside⟩ := selection
      have selects : e.Selects :=
        ⟨rope, Nat.le_of_lt something, inside,
          fun nothing => absurd nothing (Nat.ne_of_lt something)⟩
      exact deleteSelection_repeat selects normal bounded
  obtain ⟨_, _, _, same⟩ := agrees
  rw [same]
  exact ⟨rfl, rfl, rfl, rfl⟩

/-- Five lines are deleted where there are two: the last deletions find a single space. -/
theorem repetition_law_past_the_end :
    let e : Editor :=
      { modal := {}, widget := .ofText .scalars ['a', lineBreak, 'b'], register := {},
        history := .ofLimit 1 }
    (e.run .deleteLine 5).widget.text = (Nat.repeat (·.run .deleteLine 1) 5 e).widget.text ∧
      (e.run .deleteLine 5).widget.text = [' '] := by
  intro e
  obtain ⟨text, _⟩ := @repetition_law e rfl 5 (by decide) .deleteLine (.inl (by decide))
  rw [Nat.max_eq_left (by decide)] at text
  exact ⟨text, by decide⟩

end Editor

end ModalEdit
