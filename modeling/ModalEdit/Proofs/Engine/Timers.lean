import ModalEdit.Proofs.Editor.Saved
import ModalEdit.Proofs.Engine.Fields

/-! # Running timers

What the timers that are due do.  They leave the settings, the router and the focus alone
(`fireAll_fst`), and of a field that has not the focus they change nothing but its mode
(`fieldOrNew_fireAll_of_inserts`, `fieldOrNew_fireAll_of_not_inserts`).  A repair of the caret of
such a field does nothing at all (`relogged_pollTimers_of_idleRepair`).
-/

namespace ModalEdit

namespace TimerQueue

/-- The queue without one of its timers. -/
def erase (q : TimerQueue) (t : Timer) : TimerQueue where
  pending := q.pending.erase t
  inOrder := q.inOrder.sublist List.erase_sublist

/-- Of a timer that is due, the queue without it lacks no more than its place among those taken. -/
theorem takeDue_erase {q : TimerQueue} {t : Timer} {now : Nat} (pending : t ∈ q.pending)
    (due : t.due ≤ now) :
    ∃ before after, (q.takeDue now).1 = before ++ t :: after ∧
      (q.erase t).takeDue now = (before ++ after, (q.takeDue now).2) := by
  obtain ⟨before, after, _, split, erased⟩ := List.exists_erase_eq pending
  have fewer : (q.erase t).pending = before ++ after := erased
  refine ⟨before.filter (fun t => decide (t.due ≤ now)), after.filter (fun t => decide (t.due ≤ now)),
    ?_, ?_⟩
  · simp [takeDue, split, due]
  · simp [takeDue, fewer, split, due]

end TimerQueue

/-- Whether a timer is to switch a field to insert mode. -/
def Timer.Inserts (t : Timer) (f : FieldId) : Prop := t.field = f ∧ t.task = .enterInsert

/-- The field in insert mode, as a timer switches it. -/
def Field.inserting (x : Field) : Field :=
  { modal := { mode := .insert, replacing := x.modal.replacing }, history := x.history }

/-- The same editor but for the log. -/
def Editor.Relogged (d e : Editor) : Prop := ∃ log, e = { d with log := log }

theorem Editor.keptByMotions_relogged : KeptByMotions Relogged where
  alike same := by
    obtain ⟨log, rfl⟩ := same
    exact ⟨rfl, rfl, rfl, rfl, rfl⟩
  select same _ _ := by
    obtain ⟨log, rfl⟩ := same
    exact ⟨log, rfl⟩
  withCursor same _ _ := by
    obtain ⟨log, rfl⟩ := same
    exact ⟨log, rfl⟩
  withAnchor same _ _ := by
    obtain ⟨log, rfl⟩ := same
    exact ⟨log, rfl⟩
  fillLine same _ _ := by
    obtain ⟨log, rfl⟩ := same
    exact ⟨log, rfl⟩

theorem Editor.Relogged.switchMode {d e : Editor} (same : d.Relogged e) (m : Mode) :
    (d.switchMode m).Relogged (e.switchMode m) := by
  obtain ⟨log, rfl⟩ := same
  unfold Editor.switchMode
  split
  · exact ⟨log, rfl⟩
  · exact ⟨_, rfl⟩

namespace Engine

variable (e : Engine) (w : Widget)

/-- A timer moves no focus, and leaves the settings, the router and the other timers alone. -/
theorem fire_fst (t : Timer) :
    ∃ fields register log,
      (e.fire w t).1 = { e with fields := fields, register := register, log := log } := by
  unfold fire
  split
  · exact ⟨_, _, _, rfl⟩
  · cases t.task with
    | enterInsert => exact ⟨_, _, _, rfl⟩
    | repairAfterReplace =>
      dsimp only
      split
      · exact ⟨_, _, _, rfl⟩
      · exact ⟨_, _, _, rfl⟩

theorem fireAll_fst (due : List Timer) :
    ∃ fields register log,
      (e.fireAll w due).1 = { e with fields := fields, register := register, log := log } := by
  induction due generalizing e w with
  | nil => exact ⟨_, _, _, rfl⟩
  | cons t rest ih =>
    obtain ⟨fields, register, log, fired⟩ := e.fire_fst w t
    obtain ⟨fields', register', log', firedAll⟩ := ih (e.fire w t).1 (e.fire w t).2
    refine ⟨fields', register', log', ?_⟩
    rw [fireAll, firedAll, fired]

/-- A timer reads neither the settings nor the router nor the timers.  What it needs of a field is kept
    for it, or it does nothing. -/
theorem fire_with (config : Config) (router : Router) (timers : TimerQueue) (t : Timer) :
    { e with config := config, router := router, timers := timers }.fire w t =
      ({ (e.fire w t).1 with config := config, router := router, timers := timers },
        (e.fire w t).2) := by
  cases used : e.fields.get? t.field with
  | none => simp only [fire, used, Option.isNone_none, if_pos]
  | some x =>
    simp only [fire, used, Option.isNone_some, Bool.false_eq_true, if_false]
    cases t.task with
    | enterInsert => simp only [onField, editor, fieldOrNew, used, Option.getD_some, adopt]
    | repairAfterReplace =>
      by_cases focused : t.field = e.active
      · simp only [if_pos focused, onField, editor, fieldOrNew, used, Option.getD_some, adopt]
      · simp only [if_neg focused, emit]

theorem fireAll_with (config : Config) (router : Router) (timers : TimerQueue)
    (due : List Timer) :
    { e with config := config, router := router, timers := timers }.fireAll w due =
      ({ (e.fireAll w due).1 with config := config, router := router, timers := timers },
        (e.fireAll w due).2) := by
  induction due generalizing e w with
  | nil => rfl
  | cons t rest ih =>
    simp only [fireAll, fire_with]
    exact ih (e.fire w t).1 (e.fire w t).2

theorem fireAll_withTimers (timers : TimerQueue) (due : List Timer) :
    { e with timers := timers }.fireAll w due =
      ({ (e.fireAll w due).1 with timers := timers }, (e.fireAll w due).2) := by
  obtain ⟨fields, register, log, fired⟩ := e.fireAll_fst w due
  refine (e.fireAll_with w e.config e.router timers due).trans ?_
  rw [fired]

theorem active_fireAll (due : List Timer) : (e.fireAll w due).1.active = e.active := by
  obtain ⟨fields, register, log, fired⟩ := e.fireAll_fst w due
  rw [fired]

theorem fireAll_append (due later : List Timer) :
    e.fireAll w (due ++ later) = (e.fireAll w due).1.fireAll (e.fireAll w due).2 later := by
  induction due generalizing e w with
  | nil => rfl
  | cons t rest ih => exact ih (e.fire w t).1 (e.fire w t).2

theorem pollTimers_snd (now : Nat) :
    (e.pollTimers w now).2 =
      { e with timers := (e.timers.takeDue now).2 }.fireAll w (e.timers.takeDue now).1 := rfl

/-- The timers that are due fire as if the queue were not there, and the others are left. -/
theorem pollTimers_eq (now : Nat) :
    e.pollTimers w now =
      let fired := e.fireAll w (e.timers.takeDue now).1
      ((e.timers.takeDue now).1.length, { fired.1 with timers := (e.timers.takeDue now).2 },
        fired.2) :=
  congrArg (Prod.mk _) (e.fireAll_withTimers w _ _)

theorem pollTimers_of_due {now : Nat} (due : ∀ t ∈ e.timers.pending, t.due ≤ now) :
    (e.pollTimers w now).2 = { e with timers := {} }.fireAll w e.timers.pending := by
  rw [pollTimers_snd, TimerQueue.takeDue_of_due due]

theorem pollTimers_of_undue {now : Nat} (undue : ∀ t ∈ e.timers.pending, now < t.due) :
    (e.pollTimers w now).2 = (e, w) := by
  rw [pollTimers_snd, TimerQueue.takeDue_of_undue undue]
  rfl

theorem pollTimers_of_idle (idle : e.timers = {}) (now : Nat) :
    (e.pollTimers w now).2 = (e, w) :=
  e.pollTimers_of_undue w (by simp [idle])

/-! ## Fields in use -/

/-- Something is kept for a field. -/
def InUse (f : FieldId) : Prop := (e.fields.get? f).isSome = true

theorem inUse_onField_self (f : FieldId) (command : Editor → Editor) :
    (e.onField f w command).1.InUse f := by
  simp [InUse, onField, adopt]

variable {e w}

theorem InUse.known {f : FieldId} (used : e.InUse f) : ¬(e.fields.get? f).isNone = true := by
  simpa [InUse, Option.isSome_iff_ne_none] using used

/-- No field goes out of use, and the timers that are new are for fields in use. -/
structure Tends (e e' : Engine) : Prop where
  inUse : ∀ f, e.InUse f → e'.InUse f
  pending : ∀ t ∈ e'.timers.pending, t ∈ e.timers.pending ∨ e'.InUse t.field

namespace Tends

theorem refl (e : Engine) : e.Tends e := ⟨fun _ used => used, fun _ pending => .inl pending⟩

theorem trans {e e' e'' : Engine} (first : e.Tends e') (second : e'.Tends e'') : e.Tends e'' := by
  refine ⟨fun f used => second.inUse f (first.inUse f used), fun t pending => ?_⟩
  cases second.pending t pending with
  | inl before =>
    cases first.pending t before with
    | inl old => exact .inl old
    | inr used => exact .inr (second.inUse _ used)
  | inr used => exact .inr used

/-- Something is kept for one more field. -/
theorem of_put {e e' : Engine} {f : FieldId} {x : Field} (fields : e'.fields = e.fields.put f x)
    (timers : e'.timers = e.timers) : e.Tends e' := by
  refine ⟨fun g used => ?_, fun t pending => .inl (timers ▸ pending)⟩
  rw [InUse, fields]
  by_cases same : g = f
  · subst same
    simp
  · rw [FieldTable.get?_put_of_ne _ same]
    exact used

theorem onField (e : Engine) (f : FieldId) (w : Widget) (command : Editor → Editor) :
    e.Tends (e.onField f w command).1 := of_put rfl rfl

theorem defer (used : e.InUse f) (due : Nat) (task : Task) : e.Tends (e.defer due f task) := by
  refine ⟨fun _ used => used, fun t pending => ?_⟩
  cases TimerQueue.mem_pending_schedule.mp pending with
  | inl new => exact .inr (new ▸ used)
  | inr old => exact .inl old

theorem follow (e : Engine) (w : Widget) (route : Route) (now : Nat) :
    e.Tends (e.follow w route now).2.1 := by
  cases route with
  | text => exact onField e _ w _
  | escape => exact onField e _ w _
  | replace =>
    have marked := onField e e.active w Editor.beforeReplacing
    exact marked.trans (defer (e.inUse_onField_self w _ _) _ _)
  | dispatch d =>
    have performed := onField e e.active w (·.perform d)
    rw [Engine.follow, perform_eq, enterInsert]
    split
    · split
      · exact performed.trans (onField _ _ _ _)
      · exact performed.trans (defer (e.inUse_onField_self w _ _) _ _)
    · exact performed
  | passthrough | rejected | absorbed | unbound =>
    exact ⟨fun _ used => used, fun _ pending => .inl pending⟩

theorem keyDown (e : Engine) (w : Widget) (event : KeyEvent) (now : Nat) :
    e.Tends (e.keyDown w event now).2.1 := by
  obtain ⟨router, log, routed⟩ := (e.touch e.active).route_snd event now
  have touched : e.Tends ((e.touch e.active).route event now).2 := by
    rw [routed]
    exact of_put rfl rfl
  exact touched.trans (follow _ w _ now)

theorem click (e : Engine) (w : Widget) : e.Tends (e.click w).1 := by
  have touched : e.Tends (e.touch e.active) := of_put rfl rfl
  simp only [Engine.click]
  split
  · exact touched.trans (onField _ _ w _)
  · exact touched

theorem fire (e : Engine) (w : Widget) (t : Timer) : e.Tends (e.fire w t).1 := by
  unfold Engine.fire
  split
  · exact refl e
  · cases t.task with
    | enterInsert => exact onField e _ w _
    | repairAfterReplace =>
      dsimp only
      split
      · exact onField e _ w _
      · exact ⟨fun _ used => used, fun _ pending => .inl pending⟩

theorem fireAll (e : Engine) (w : Widget) (due : List Timer) : e.Tends (e.fireAll w due).1 := by
  induction due generalizing e w with
  | nil => exact refl e
  | cons t rest ih => exact (fire e w t).trans (ih _ _)

theorem pollTimers (e : Engine) (w : Widget) (now : Nat) : e.Tends (e.pollTimers w now).2.1 := by
  have taken : e.Tends { e with timers := (e.timers.takeDue now).2 } :=
    ⟨fun _ used => used, fun t pending => .inl (TimerQueue.mem_pending_takeDue_snd.mp pending).1⟩
  exact taken.trans (fireAll _ w _)

end Tends

/-- Every timer is for a field in use. -/
def Tended (e : Engine) : Prop := ∀ t ∈ e.timers.pending, e.InUse t.field

theorem Tends.tended {e e' : Engine} (h : e.Tends e') (tended : e.Tended) : e'.Tended := by
  intro t pending
  cases h.pending t pending with
  | inl old => exact h.inUse _ (tended t old)
  | inr used => exact used

/-! ## Timers of other fields -/

variable {f : FieldId}

theorem fieldOrNew_fire_of_inserts {t : Timer} (used : e.InUse t.field) (inserts : t.Inserts f) :
    (e.fire w t).1.fieldOrNew f = (e.fieldOrNew f).inserting := by
  obtain ⟨rfl, task⟩ := inserts
  rw [fire, if_neg used.known, task]
  show (e.onField t.field w (·.switchMode .insert)).1.fieldOrNew t.field = _
  rw [onField, fieldOrNew_adopt_self, Editor.modal_switchMode, Editor.history_switchMode,
    ModalState.switchMode_of_ne_visual _ (by decide)]
  rfl

theorem fieldOrNew_fire_of_not_inserts {t : Timer} (ne : f ≠ e.active) (other : ¬t.Inserts f) :
    (e.fire w t).1.fieldOrNew f = e.fieldOrNew f := by
  unfold fire
  split
  · rfl
  · cases task : t.task with
    | enterInsert =>
      have elsewhere : f ≠ t.field := fun same => other ⟨same.symm, task⟩
      exact e.fieldOrNew_onField_of_ne _ f w _ elsewhere
    | repairAfterReplace =>
      dsimp only
      split
      · next focused => exact e.fieldOrNew_onField_of_ne _ f w _ (focused ▸ ne)
      · rfl

theorem fieldOrNew_fireAll_of_not_inserts {due : List Timer} (ne : f ≠ e.active)
    (other : ∀ t ∈ due, ¬t.Inserts f) : (e.fireAll w due).1.fieldOrNew f = e.fieldOrNew f := by
  induction due generalizing e w with
  | nil => rfl
  | cons t rest ih =>
    obtain ⟨first, later⟩ := List.forall_mem_cons.mp other
    have active : (e.fire w t).1.active = e.active := active_fireAll e w [t]
    rw [fireAll, ih (active ▸ ne) later, fieldOrNew_fire_of_not_inserts ne first]

/-- To be switched to insert mode once more changes nothing. -/
theorem fieldOrNew_fireAll_of_inserts {due : List Timer} (ne : f ≠ e.active)
    (used : ∀ t ∈ due, e.InUse t.field) (inserts : ∃ t ∈ due, t.Inserts f) :
    (e.fireAll w due).1.fieldOrNew f = (e.fieldOrNew f).inserting := by
  induction due generalizing e w with
  | nil => simp at inserts
  | cons t rest ih =>
    have active : (e.fire w t).1.active = e.active := active_fireAll e w [t]
    obtain ⟨first, later⟩ := List.forall_mem_cons.mp used
    rw [fireAll]
    -- It is the last of the timers for the field that counts.
    by_cases again : ∃ u ∈ rest, u.Inserts f
    · rw [ih (active ▸ ne) (fun u member => (Tends.fire e w t).inUse _ (later u member)) again]
      by_cases now : t.Inserts f
      · rw [fieldOrNew_fire_of_inserts first now]
        rfl
      · rw [fieldOrNew_fire_of_not_inserts ne now]
    · have never : ∀ u ∈ rest, ¬u.Inserts f := fun u member now => again ⟨u, member, now⟩
      rw [fieldOrNew_fireAll_of_not_inserts (active ▸ ne) never]
      apply fieldOrNew_fire_of_inserts first
      obtain ⟨u, member, now⟩ := inserts
      cases member with
      | head => exact now
      | tail _ member => exact absurd now (never u member)

/-! ## Repairs that do nothing -/

/-- The same engine but for the log, and the same widget. -/
def Relogged (x y : Engine × Widget) : Prop := ∃ log, y = ({ x.1 with log := log }, x.2)

theorem relogged_onField (log : Log) {f : FieldId} {command : Editor → Editor}
    (kept : ∀ {d e : Editor}, d.Relogged e → (command d).Relogged (command e)) :
    Relogged (e.onField f w command) ({ e with log := log }.onField f w command) := by
  have same : (e.editor f w).Relogged ({ e with log := log }.editor f w) := ⟨log, rfl⟩
  obtain ⟨log', done⟩ := kept same
  refine ⟨log', ?_⟩
  rw [onField, done]
  rfl

theorem Relogged.fire {x y : Engine × Widget} (same : Relogged x y) (t : Timer) :
    Relogged (x.1.fire x.2 t) (y.1.fire y.2 t) := by
  obtain ⟨e, w⟩ := x
  obtain ⟨log, rfl⟩ := same
  dsimp only
  unfold Engine.fire
  split
  · exact ⟨log, rfl⟩
  · cases t.task with
    | enterInsert => exact relogged_onField log (·.switchMode .insert)
    | repairAfterReplace =>
      dsimp only
      split
      · exact relogged_onField log Editor.keptByMotions_relogged.prevChar
      · exact ⟨_, rfl⟩

theorem Relogged.fireAll {x y : Engine × Widget} (same : Relogged x y) (due : List Timer) :
    Relogged (x.1.fireAll x.2 due) (y.1.fireAll y.2 due) := by
  induction due generalizing x y with
  | nil => exact same
  | cons t rest ih => exact ih (same.fire t)

/-- A timer that is to repair the caret of a field that has not the focus. -/
structure IdleRepair (e : Engine) (t : Timer) : Prop where
  elsewhere : t.field ≠ e.active
  task_eq : t.task = .repairAfterReplace

theorem IdleRepair.fire {t : Timer} (idle : e.IdleRepair t) :
    Relogged (e, w) (e.fire w t) := by
  unfold Engine.fire
  split
  · exact ⟨_, rfl⟩
  · rw [idle.task_eq]
    dsimp only
    rw [if_neg idle.elsewhere]
    exact ⟨_, rfl⟩

/-- The engine without one of its timers. -/
def without (e : Engine) (t : Timer) : Engine := { e with timers := e.timers.erase t }

/-- Were the timer not there, all but the log would be the same. -/
theorem relogged_pollTimers_of_idleRepair {t : Timer} (idle : e.IdleRepair t)
    (pending : t ∈ e.timers.pending) {now : Nat} (due : t.due ≤ now) :
    Relogged ((e.without t).pollTimers w now).2 (e.pollTimers w now).2 := by
  obtain ⟨before, after, fires, fewer⟩ := TimerQueue.takeDue_erase pending due
  rw [pollTimers_snd, pollTimers_snd, without, fewer, fires, fireAll_append, fireAll_append]
  -- The timers before it find the same engine on both sides.
  refine Relogged.fireAll ?_ _
  apply IdleRepair.fire
  refine ⟨?_, idle.task_eq⟩
  rw [active_fireAll]
  exact idle.elsewhere

theorem not_mem_pending_pollTimers {t : Timer} {now : Nat} (due : t.due ≤ now) :
    t ∉ (e.pollTimers w now).2.1.timers.pending := by
  obtain ⟨fields, register, log, fired⟩ :=
    { e with timers := (e.timers.takeDue now).2 }.fireAll_fst w (e.timers.takeDue now).1
  rw [pollTimers, fired, TimerQueue.mem_pending_takeDue_snd]
  exact fun left => absurd left.2 (Nat.not_lt_of_le due)

end Engine

end ModalEdit
