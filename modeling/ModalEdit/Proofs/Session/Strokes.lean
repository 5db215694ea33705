import ModalEdit.Proofs.Engine.Focused
import ModalEdit.Proofs.Engine.History
import ModalEdit.Proofs.Router.Standard
import ModalEdit.Proofs.Session.Delay
import ModalEdit.Proofs.Session.Ledger
import ModalEdit.Proofs.Session.Routing

/-! # Strokes

A host that types on one field: it runs the timers whenever it likes, reports a key, and types the key into
the widget unless the engine keeps it (`Stroke`).  The clock may go either way.

While no timer is pending it makes no difference when the timers are run, and each stroke is told by its
route.  `focused_stroke_text` and the lemmas after it are the equations for what the host sees of the field.
A single pending timer runs when the host has come to its instant (`pollAt_of_pending`).

In normal mode with nothing under way (`AtRest`), the digits of a number make that number the pending count
under the standard keymap (`exists_focused_strokes_numeral`).

Whatever a host does, the settings and the keymap stay those that its engine was made with
(`configured_run`).
-/

namespace ModalEdit

/-- A key, the instant at which it is pressed, and the instants at which the timers were run since the key
    before it. -/
structure Stroke where
  polls : List Nat := []
  now : Nat
  event : KeyEvent

/-- An engine under some settings and a keymap. -/
structure Engine.Configured (e : Engine) (config : Config) (keymap : Keymap) : Prop where
  config_eq : e.config = config
  keymap_eq : e.router.keymap = keymap
  passthrough_eq : e.router.passthrough = config.passthrough
  limit_eq : ∀ f, (e.historyOf f).limit = max config.undoLimit 1

theorem Engine.Configured.stock {e : Engine} {config : Config} (configured : e.Configured config .standard)
    (unpassed : ∀ c, KeyCode.char c ∉ config.passthrough) : e.router.Stock :=
  ⟨configured.keymap_eq, fun c => configured.passthrough_eq ▸ unpassed c⟩

/-- Normal mode with nothing under way but a count or half a chord. -/
structure Focused.AtRest (x : Focused) : Prop where
  idle : x.timers = {}
  normal : x.field.modal.mode = .normal
  resting : x.field.modal.replacing = false

theorem Focused.AtRest.commands {x : Focused} (rest : x.AtRest) :
    x.field.modal.mode.isCommandMode = true := by
  rw [rest.normal]
  rfl

namespace Session

/-- Runs the timers at each of some instants. -/
def pollAt (s : Session) (instants : List Nat) : Session :=
  instants.foldl (fun s now => (s.setClock now).poll.2) s

def stroke (s : Session) (k : Stroke) : Session :=
  let pressed := ((s.pollAt k.polls).setClock k.now).keyDown k.event
  if pressed.1.suppress then pressed.2 else pressed.2.type k.event

def strokes (s : Session) (ks : List Stroke) : Session := ks.foldl stroke s

def focused (s : Session) : Focused := s.engine.focused s.widget

variable {s : Session}

theorem strokes_append (s : Session) (ks later : List Stroke) :
    s.strokes (ks ++ later) = (s.strokes ks).strokes later := List.foldl_append

/-- A stroke, told by what the engine does. -/
theorem stroke_eq (s : Session) (k : Stroke) :
    s.stroke k =
      let p := s.pollAt k.polls
      let after := p.engine.keyDown p.widget k.event k.now
      (p.setClock k.now).withState after.2.1 (afterKey after.2.2 after.1 k.event) :=
  type_withState _ _ _ _ _

/-- To press a key and run the timers behind it is a stroke and a poll. -/
theorem press_eq (s : Session) (event : KeyEvent) (gap : Nat) :
    (s.press event gap).2.2 =
      (s.stroke { now := s.now + gap, event := event }).pollAt [s.now + gap] := by
  rw [stroke_eq]
  exact congrArg (fun t : Session => t.poll.2) (type_withState (s.advance gap) _ _ _ event)

/-! ## Running the timers -/

/-- To run the timers is to do so on the engine and the widget. -/
theorem poll_setClock {now : Nat} {e : Engine} {w : Widget}
    (polled : (s.engine.pollTimers s.widget now).2 = (e, w)) :
    (s.setClock now).poll.2.engine = e ∧ (s.setClock now).poll.2.widget = w :=
  ⟨congrArg Prod.fst polled, (widget_withState _ _ _).trans (congrArg Prod.snd polled)⟩

theorem pollAt_of_idle (idle : s.engine.timers = {}) (instants : List Nat) :
    (s.pollAt instants).engine = s.engine ∧ (s.pollAt instants).widget = s.widget := by
  induction instants generalizing s with
  | nil => exact ⟨rfl, rfl⟩
  | cons now instants ih =>
    obtain ⟨engine, widget⟩ := poll_setClock (s.engine.pollTimers_of_idle s.widget idle now)
    have rest := ih (s := (s.setClock now).poll.2) (engine ▸ idle)
    rw [engine, widget] at rest
    exact rest

/-- A timer waits through the instants before it is due, and fires at the first one from then on. -/
theorem pollAt_of_pending {t : Timer} (pending : s.engine.timers = .schedule {} t) {instants : List Nat}
    (due : ∃ now ∈ instants, t.due ≤ now) :
    (s.pollAt instants).engine = { (s.engine.fire s.widget t).1 with timers := {} } ∧
      (s.pollAt instants).widget = (s.engine.fire s.widget t).2 := by
  -- On the instants up to the first that is late enough; behind it the queue is empty.
  induction instants generalizing s with
  | nil => simp at due
  | cons now instants ih =>
    by_cases fires : t.due ≤ now
    · have fired : (s.engine.pollTimers s.widget now).2 =
          ({ (s.engine.fire s.widget t).1 with timers := {} }, (s.engine.fire s.widget t).2) := by
        rw [Engine.pollTimers_of_due _ _ (by simp [pending, fires]), Engine.fireAll_withTimers, pending]
        rfl
      obtain ⟨engine, widget⟩ := poll_setClock fired
      have rest := pollAt_of_idle (s := (s.setClock now).poll.2) (by rw [engine]) instants
      rw [engine, widget] at rest
      exact rest
    · have waits : (s.engine.pollTimers s.widget now).2 = (s.engine, s.widget) :=
        Engine.pollTimers_of_undue _ _ (by simpa [pending] using fires)
      have later : ∃ now ∈ instants, t.due ≤ now := by simpa [fires] using due
      obtain ⟨engine, widget⟩ := poll_setClock waits
      have rest := ih (s := (s.setClock now).poll.2) (engine ▸ pending) later
      rw [engine, widget] at rest
      exact rest

/-! ## One stroke -/

section Stroke

variable {x : Focused} (seen : s.focused = x) (idle : x.timers = {}) {k : Stroke} {route : Route}
  {r : Router}

include seen idle

theorem engine_stroke (k : Stroke) :
    (s.stroke k).engine = (s.engine.keyDown s.widget k.event k.now).2.1 := by
  obtain ⟨engine, widget⟩ := pollAt_of_idle (s := s) (congrArg Focused.timers seen |>.trans idle) k.polls
  rw [stroke_eq]
  dsimp only
  rw [engine, widget]
  rfl

theorem widget_stroke (k : Stroke) :
    (s.stroke k).widget =
      afterKey (s.engine.keyDown s.widget k.event k.now).2.2
        (s.engine.keyDown s.widget k.event k.now).1 k.event := by
  obtain ⟨engine, widget⟩ := pollAt_of_idle (s := s) (congrArg Focused.timers seen |>.trans idle) k.polls
  rw [stroke_eq]
  dsimp only
  rw [engine, widget, widget_withState]

/-- What a stroke leaves to be seen is told by its route. -/
theorem exists_focused_stroke (routed : x.router.route k.event k.now x.field.modal = (route, r)) :
    ∃ e : Engine, e.focused x.widget = { x with router := r } ∧
      (s.stroke k).focused =
        { (e.follow x.widget route k.now).2.1.focused (e.follow x.widget route k.now).2.2 with
          widget := afterKey (e.follow x.widget route k.now).2.2
            (e.follow x.widget route k.now).1 k.event } := by
  have routed' : s.engine.router.route k.event k.now s.engine.activeField.modal = (route, r) := by
    rw [← routed, ← seen]
    rfl
  obtain ⟨e, down, same⟩ := Engine.exists_keyDown_focused s.widget k.now routed'
  have shown : s.widget = x.widget := congrArg Focused.widget seen
  refine ⟨e, ?_, ?_⟩
  · rw [same, ← seen]
    rfl
  · rw [focused, engine_stroke seen idle, widget_stroke seen idle, down, shown]
    rfl

/-- A character of a text is saved before and typed after. -/
theorem focused_stroke_text (routed : x.router.route k.event k.now x.field.modal = (.text, r)) {c : Char}
    (typed : k.event.typed? = some c) :
    (s.stroke k).focused =
      ({ x with router := r } : Focused).edited
        (x.field.history.record x.widget.text (x.widget.caret - 1)) (x.widget.typeOver [c]) := by
  obtain ⟨e, same, done⟩ := exists_focused_stroke seen idle routed
  have field : e.activeField = x.field := congrArg Focused.field same
  rw [done, e.focused_follow_text, same, field, Engine.follow_text, afterKey, typed]
  rfl

/-- The character that takes the place of another one is typed, and the caret is put right later. -/
theorem focused_stroke_replace (routed : x.router.route k.event k.now x.field.modal = (.replace, r))
    {c : Char} (typed : k.event.typed? = some c) :
    (s.stroke k).focused =
      ((({ x with router := r } : Focused).withModal { x.field.modal with replacing := false }).edited
        (x.field.history.record x.widget.text x.widget.caret) (x.widget.typeOver [c])).defer
        (k.now + x.config.replaceRepairDelay) .repairAfterReplace := by
  obtain ⟨e, same, done⟩ := exists_focused_stroke seen idle routed
  have field : e.activeField = x.field := congrArg Focused.field same
  have config : e.config = x.config := congrArg Focused.config same
  rw [done, e.focused_follow_replace, same, field, config, Engine.follow_replace, afterKey, typed]
  rfl

theorem exists_focused_stroke_escape
    (routed : x.router.route k.event k.now x.field.modal = (.escape, r))
    (untyped : k.event.typed? = none) :
    ∃ v, (s.stroke k).focused =
      (({ x with router := r } : Focused).withModal
        (if x.field.modal.mode = .normal then x.field.modal
        else x.field.modal.switchMode .normal)).edited x.field.history v := by
  obtain ⟨e, same, done⟩ := exists_focused_stroke seen idle routed
  have field : e.activeField = x.field := congrArg Focused.field same
  obtain ⟨v, followed⟩ := e.exists_focused_follow_escape x.widget k.now
  have kept : (s.stroke k).focused =
      (e.follow x.widget .escape k.now).2.1.focused (e.follow x.widget .escape k.now).2.2 := by
    rw [done, afterKey, untyped]
    rfl
  exact ⟨v, by rw [kept, followed, same, field]⟩

theorem focused_stroke_absorbed (routed : x.router.route k.event k.now x.field.modal = (.absorbed, r)) :
    (s.stroke k).focused = { x with router := r } := by
  obtain ⟨e, same, done⟩ := exists_focused_stroke seen idle routed
  rw [done]
  exact same

theorem focused_stroke_insert {name : String} {count : Nat}
    (routed : x.router.route k.event k.now x.field.modal =
      (.dispatch ⟨name, .insert, count, false⟩, r))
    (delayed : x.config.modeSwitchDelay ≠ 0) :
    (s.stroke k).focused =
      (({ x with router := r } : Focused).edited x.field.history
        (x.widget.select x.widget.caret x.widget.caret)).defer
        (k.now + x.config.modeSwitchDelay) .enterInsert := by
  obtain ⟨e, same, done⟩ := exists_focused_stroke seen idle routed
  have field : e.activeField = x.field := congrArg Focused.field same
  have config : e.config = x.config := congrArg Focused.config same
  rw [← config] at delayed
  -- The key is kept from the widget, so that nothing is typed.
  have kept : (s.stroke k).focused =
      (e.follow x.widget (.dispatch ⟨name, .insert, count, false⟩) k.now).2.1.focused
        (e.follow x.widget (.dispatch ⟨name, .insert, count, false⟩) k.now).2.2 := done
  rw [kept, e.focused_follow_insert _ _ _ _ delayed, same, field, config]

theorem focused_stroke_replaceChar {name : String} {count : Nat}
    (routed : x.router.route k.event k.now x.field.modal =
      (.dispatch ⟨name, .replaceChar, count, false⟩, r)) :
    (s.stroke k).focused =
      ({ x with router := r } : Focused).withModal { x.field.modal with replacing := true } := by
  obtain ⟨e, same, done⟩ := exists_focused_stroke seen idle routed
  have field : e.activeField = x.field := congrArg Focused.field same
  rw [done, e.focused_follow_replaceChar, same, field]
  rfl

theorem text_stroke_undo {name : String} {count : Nat}
    (routed : x.router.route k.event k.now x.field.modal = (.dispatch ⟨name, .undo, count, false⟩, r))
    {entry : UndoEntry} (saved : x.field.history.entries[max count 1 - 1]? = some entry) :
    (s.stroke k).widget.text = entry.text := by
  obtain ⟨e, same, done⟩ := exists_focused_stroke seen idle routed
  have field : e.activeField = x.field := congrArg Focused.field same
  have shown : (s.stroke k).widget =
      (e.follow x.widget (.dispatch ⟨name, .undo, count, false⟩) k.now).2.2 :=
    congrArg Focused.widget done
  have steps : (Route.dispatch ⟨name, .undo, count, false⟩).undoSteps = max count 1 := by
    simp [Route.undoSteps]
  rw [shown]
  apply e.text_follow_of_undo x.widget rfl
  · rw [steps]
    omega
  · rw [steps, ← saved, ← field]
    rfl

/-- What a stroke puts off is for the field that has the focus, which is in use by then. -/
theorem tended_stroke (k : Stroke) : (s.stroke k).engine.Tended := by
  have tended : s.engine.Tended := by
    intro t pending
    have none : s.engine.timers = {} := (congrArg Focused.timers seen).trans idle
    rw [none] at pending
    exact absurd pending List.not_mem_nil
  rw [engine_stroke seen idle]
  exact (Engine.Tends.keyDown s.engine s.widget k.event k.now).tended tended

end Stroke

/-! ## Timers of the field -/

section Pending

variable {x : Focused} (seen : s.focused = x) (tended : s.engine.Tended) {due : Nat}
  {instants : List Nat} (late : ∃ now ∈ instants, due ≤ now)

include seen tended late

theorem focused_pollAt {task : Task} (pending : x.timers = .schedule {} ⟨due, x.active, task⟩) :
    (s.engine.InUse s.engine.active) ∧ (s.pollAt instants).focused =
      { (s.engine.fire x.widget ⟨due, s.engine.active, task⟩).1.focused
          (s.engine.fire x.widget ⟨due, s.engine.active, task⟩).2 with timers := {} } := by
  subst seen
  have waiting : s.engine.timers = .schedule {} ⟨due, s.engine.active, task⟩ := pending
  obtain ⟨engine, widget⟩ := pollAt_of_pending waiting late
  refine ⟨tended ⟨due, s.engine.active, task⟩ (by rw [waiting]; exact List.mem_singleton_self _), ?_⟩
  rw [focused, engine, widget]
  rfl

theorem focused_pollAt_enterInsert (pending : x.timers = .schedule {} ⟨due, x.active, .enterInsert⟩) :
    (s.pollAt instants).focused =
      ({ x with timers := {} } : Focused).withModal (x.field.modal.switchMode .insert) := by
  obtain ⟨used, fired⟩ := focused_pollAt seen tended late pending
  subst seen
  rw [fired, Engine.focused_fire_enterInsert _ used]
  rfl

theorem exists_focused_pollAt_repair (normal : x.field.modal.mode = .normal)
    (pending : x.timers = .schedule {} ⟨due, x.active, .repairAfterReplace⟩) :
    ∃ d : Editor, d.modal = x.field.modal ∧ d.widget = x.widget ∧
      (s.pollAt instants).focused =
        ({ x with timers := {} } : Focused).edited x.field.history d.prevChar.widget := by
  obtain ⟨used, fired⟩ := focused_pollAt seen tended late pending
  subst seen
  refine ⟨s.engine.editor s.engine.active s.widget, rfl, rfl, ?_⟩
  rw [fired]
  exact congrArg (fun x : Focused => { x with timers := {} })
    (Engine.focused_fire_repair _ used due normal)

end Pending

/-! ## At rest -/

section AtRest

variable (stock : s.focused.router.Stock) (rest : s.focused.AtRest) {k : Stroke}

include stock rest

theorem exists_focused_stroke_digit {d : Nat} (single : d < 10)
    (counts : d ≠ 0 ∨ s.focused.router.count.isSome = true)
    (event : k.event = .plain (.char d.digitChar)) :
    ∃ previous, (s.stroke k).focused =
      { s.focused with
        router := { s.focused.router with
          previous := previous
          count := some (Router.pushDigit s.focused.router.count d) } } := by
  obtain ⟨previous, routed⟩ := stock.route_digit rest.commands rest.resting single counts k.now
  rw [← event] at routed
  exact ⟨previous, focused_stroke_absorbed rfl rest.idle routed⟩

/-- The digits of a number make it the count. -/
theorem exists_focused_strokes_numeral (uncounted : s.focused.router.count = none) {n : Nat} (pos : 0 < n)
    {ks : List Stroke}
    (events : ks.map Stroke.event = (Nat.toDigits 10 n).map fun c => .plain (.char c)) :
    ∃ previous, (s.strokes ks).focused =
      { s.focused with
        router := { s.focused.router with
          previous := previous, count := some (min n maxCount) } } := by
  -- On the digits before the last one, which spell a tenth of the number.
  induction n using Nat.strongRecOn generalizing ks with
  | ind n ih =>
    by_cases single : n < 10
    · rw [Nat.toDigits_of_lt_base single, List.map_singleton, List.map_eq_singleton_iff] at events
      obtain ⟨k, rfl, event⟩ := events
      obtain ⟨previous, pressed⟩ :=
        exists_focused_stroke_digit stock rest single (.inl (Nat.ne_of_gt pos)) event
      refine ⟨previous, pressed.trans ?_⟩
      rw [uncounted, Router.pushDigit, Option.getD_none, Nat.zero_mul, Nat.zero_add]
    · rw [Nat.toDigits_eq_if (by decide), if_neg single, List.map_append, List.map_eq_append_iff]
        at events
      obtain ⟨front, last, rfl, before, final⟩ := events
      rw [List.map_singleton, List.map_eq_singleton_iff] at final
      obtain ⟨k, rfl, event⟩ := final
      obtain ⟨previous, pressed⟩ := ih (n / 10) (by omega) (by omega) before
      have stock' : (s.strokes front).focused.router.Stock := by
        rw [pressed]
        exact stock.withMemory _ _
      have rest' : (s.strokes front).focused.AtRest := by
        rw [pressed]
        exact ⟨rest.idle, rest.normal, rest.resting⟩
      have counting : (s.strokes front).focused.router.count = some (min (n / 10) maxCount) := by
        rw [pressed]
      obtain ⟨previous', pressed'⟩ := exists_focused_stroke_digit stock' rest'
        (Nat.mod_lt n (by decide)) (.inr (by rw [counting]; rfl)) event
      refine ⟨previous', ?_⟩
      rw [strokes_append]
      refine pressed'.trans ?_
      rw [counting, pressed, Router.pushDigit_tenth]

end AtRest

/-! ## The settings stay -/

theorem config_act (s : Session) (a : HostAct) : (s.act a).engine.config = s.engine.config := by
  cases a with
  | key event => exact s.engine.config_keyDown s.widget event s.now
  | poll => exact s.engine.config_pollTimers s.widget s.now
  | type event =>
    rw [act, type]
    split
    · rfl
    · rfl
  | click => exact s.engine.config_click s.widget
  | focus _ | useWidget _ | setClock _ => rfl

theorem configured_run (config : Config) (keymap : Keymap) (register : Register) (first : Widget)
    (others : List Widget) (acts : List HostAct) :
    ((start (.assemble config keymap register) first others).run acts).engine.Configured config keymap where
  config_eq := by
    -- On the acts: none of them touches the settings.
    have kept (s : Session) : (s.run acts).engine.config = s.engine.config := by
      induction acts generalizing s with
      | nil => rfl
      | cons a acts ih => rw [run_cons, ih, config_act]
    exact kept _
  keymap_eq := by
    rw [router_run, Router.keymap_run]
    rfl
  passthrough_eq := by
    rw [router_run, Router.passthrough_run]
    rfl
  limit_eq f := limit_run acts

end Session

end ModalEdit
