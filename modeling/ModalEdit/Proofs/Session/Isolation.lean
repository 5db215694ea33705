import ModalEdit.Proofs.Engine.History
import ModalEdit.Proofs.Engine.Timers
import ModalEdit.Proofs.Session.Acts

/-! # Fields keep to themselves

What a host reports concerns the field that has the focus.  Of another field a key and a click
change nothing, the focus only what is dropped when it arrives, and a timer only the mode, if it was
set for that field (`Engine.Isolates`).  So the history of a field changes by keys that are pressed
while it has the focus, and in no other way (`isolation_law`).

A timer may come due when the focus has long moved on.  That it finds its field nevertheless is due
to an invariant: every pending timer is for a field in use (`tended_run`).
-/

namespace ModalEdit

namespace Engine

/-- What becomes of a field that the reports of a host are not about. -/
structure Isolates (e : Engine) (f : FieldId) : Prop where
  keyDown : f ≠ e.active → ∀ w event now,
    (e.keyDown w event now).2.1.fieldOrNew f = e.fieldOrNew f
  click : f ≠ e.active → ∀ w, (e.click w).1.fieldOrNew f = e.fieldOrNew f
  focusElsewhere : ∀ g, f ≠ g → (e.focusChanged g).fieldOrNew f = e.fieldOrNew f
  /-- The focus itself keeps the mode and the history. -/
  focus : (e.focusChanged f).fieldOrNew f =
    { modal := { mode := (e.fieldOrNew f).modal.mode }, history := (e.fieldOrNew f).history }
  pollInserting : f ≠ e.active → ∀ w now,
    (∃ t ∈ e.timers.pending, t.due ≤ now ∧ t.Inserts f) →
    (e.pollTimers w now).2.1.fieldOrNew f = (e.fieldOrNew f).inserting
  pollOtherwise : f ≠ e.active → ∀ w now,
    (∀ t ∈ e.timers.pending, t.due ≤ now → ¬t.Inserts f) →
    (e.pollTimers w now).2.1.fieldOrNew f = e.fieldOrNew f
  /-- A repair of its caret goes away, and is as if it had never been set. -/
  repair : f ≠ e.active → ∀ t ∈ e.timers.pending, t.field = f → t.task = .repairAfterReplace →
    ∀ w now, t.due ≤ now → t ∉ (e.pollTimers w now).2.1.timers.pending ∧
      Relogged ((e.without t).pollTimers w now).2 (e.pollTimers w now).2

theorem Tended.isolates {e : Engine} (tended : e.Tended) (f : FieldId) : e.Isolates f where
  keyDown ne w event now := e.fieldOrNew_keyDown_of_ne f w event now ne
  click ne w := e.fieldOrNew_click_of_ne f w ne
  focusElsewhere g ne := e.fieldOrNew_focusChanged_of_ne g f ne
  focus := e.fieldOrNew_focusChanged_self f
  pollInserting ne w now inserts := by
    obtain ⟨t, pending, due, inserts⟩ := inserts
    rw [pollTimers_snd]
    refine fieldOrNew_fireAll_of_inserts (e := { e with timers := _ }) ne ?_ ?_
    · intro u member
      exact tended u (TimerQueue.mem_takeDue_fst.mp member).1
    · exact ⟨t, TimerQueue.mem_takeDue_fst.mpr ⟨pending, due⟩, inserts⟩
  pollOtherwise ne w now never := by
    rw [pollTimers_snd]
    refine fieldOrNew_fireAll_of_not_inserts (e := { e with timers := _ }) ne ?_
    intro t member
    obtain ⟨pending, due⟩ := TimerQueue.mem_takeDue_fst.mp member
    exact never t pending due
  repair ne t pending field task w now due := by
    have idle : e.IdleRepair t := ⟨field ▸ ne, task⟩
    exact ⟨not_mem_pending_pollTimers due, relogged_pollTimers_of_idleRepair idle pending due⟩

end Engine

namespace Session

variable {s : Session} {f : FieldId}

/-! ## Timers are for fields in use -/

theorem tends_act (s : Session) (a : HostAct) : s.engine.Tends (s.act a).engine := by
  cases a with
  | key event => exact .keyDown s.engine s.widget event s.now
  | poll => exact .pollTimers s.engine s.widget s.now
  | click => exact .click s.engine s.widget
  | focus f => exact .of_put rfl rfl
  | type event =>
    rw [act, type]
    split
    · exact .refl _
    · exact .refl _
  | useWidget _ => exact .refl _
  | setClock _ => exact .refl _

theorem tended_run (tended : s.engine.Tended) (acts : List HostAct) :
    (s.run acts).engine.Tended := by
  induction acts generalizing s with
  | nil => exact tended
  | cons a acts ih => exact ih ((s.tends_act a).tended tended)

/-! ## Histories -/

/-- The act is a key, and the field has the focus. -/
def PressesOn (s : Session) (f : FieldId) (a : HostAct) : Prop :=
  s.engine.active = f ∧ ∃ event, a = .key event

theorem historyOf_act_of_not_pressesOn {a : HostAct} (other : ¬s.PressesOn f a) :
    (s.act a).engine.historyOf f = s.engine.historyOf f := by
  cases a with
  | key event =>
    have ne : f ≠ s.engine.active := fun same => other ⟨same.symm, event, rfl⟩
    exact s.engine.historyOf_keyDown_of_ne s.widget event s.now ne
  | poll => exact s.engine.historyOf_pollTimers f s.widget s.now
  | click => exact s.engine.historyOf_click f s.widget
  | focus g => exact s.engine.historyOf_focusChanged g f
  | type event =>
    rw [act, type]
    split
    · rfl
    · rfl
  | useWidget _ => rfl
  | setClock _ => rfl

theorem exists_press_of_historyOf_ne {acts : List HostAct}
    (changed : (s.run acts).engine.historyOf f ≠ s.engine.historyOf f) :
    ∃ before event after, acts = before ++ .key event :: after ∧
      (s.run before).engine.active = f := by
  induction acts generalizing s with
  | nil => exact absurd rfl changed
  | cons a acts ih =>
    -- The first key that is pressed on the field will do.
    by_cases pressed : s.PressesOn f a
    · obtain ⟨active, event, rfl⟩ := pressed
      exact ⟨[], event, acts, rfl, active⟩
    · rw [run_cons, ← historyOf_act_of_not_pressesOn pressed] at changed
      obtain ⟨before, event, after, rfl, active⟩ := ih changed
      exact ⟨a :: before, event, after, rfl, active⟩

/-! ## The law -/

theorem isolation_law {engine : Engine} (built : engine.Built) (first : Widget)
    (others : List Widget) (acts : List HostAct) (f : FieldId) :
    let s := (start engine first others).run acts
    s.engine.Isolates f ∧
      ∀ later, (s.run later).engine.historyOf f ≠ s.engine.historyOf f →
        ∃ before event after, later = before ++ .key event :: after ∧
          (s.run before).engine.active = f := by
  intro s
  have atStart : (start engine first others).engine.Tended := by
    obtain ⟨config, keymap, register, _, rfl⟩ := built.eq_assemble
    intro t pending
    cases pending
  exact ⟨(tended_run atStart acts).isolates f, fun later => exists_press_of_historyOf_ne⟩

/-- A command that inserts, and the focus moves on before insert mode is entered. -/
theorem isolation_law_of_late_timer :
    let w := Widget.ofText .scalars ['a']
    let s := (start .standard w []).run [.key (.plain (.char 'i')), .focus 1]
    s.engine.active = 1 ∧ (s.engine.fieldOrNew 0).modal.mode = .normal ∧
      ((s.engine.pollTimers w (Time.ofMillis 100)).2.1.fieldOrNew 0).modal.mode = .insert := by
  intro w
  dsimp only
  have law := (isolation_law (.inl rfl) w [] [.key (.plain (.char 'i')), .focus 1] 0).1
  have inserted := law.pollInserting (by decide) w (Time.ofMillis 100)
    ⟨⟨Time.ofMillis 100, 0, .enterInsert⟩, by decide, by decide, rfl, rfl⟩
  refine ⟨by decide, by decide, ?_⟩
  rw [inserted]
  rfl

end Session

end ModalEdit
