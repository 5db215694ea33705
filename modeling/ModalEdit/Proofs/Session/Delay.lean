import ModalEdit.Proofs.Engine.Timers
import ModalEdit.Proofs.Session.Acts

/-! # The delay of insert mode

The command that begins an insertion enters insert mode at once, or leaves that to a timer.  A host
that waits for the timers after each key cannot tell the difference (`delay_law`): with any delay
its session is, after every turn, the one that it would be without, but for the setting itself.

Between a key and the timers the two sessions do differ.  What is compared there is what the timers
make of the two engines (`SettlesAs`).
-/

namespace ModalEdit

namespace Engine

/-- The engine with another delay of insert mode. -/
def withDelay (e : Engine) (d : Nat) : Engine :=
  { e with config := { e.config with modeSwitchDelay := d } }

variable (e : Engine) (d : Nat) (w : Widget)

/-! ## Steps that do not look at the delay -/

theorem route_withDelay (event : KeyEvent) (now : Nat) :
    (e.withDelay d).route event now =
      ((e.route event now).1, (e.route event now).2.withDelay d) := by
  simp only [route]
  split
  · next debug =>
    rw [if_pos (show e.config.debug = true from debug)]
    rfl
  · next debug =>
    rw [if_neg (show ¬e.config.debug = true from debug)]
    rfl

theorem fireAll_withDelay (due : List Timer) :
    (e.withDelay d).fireAll w due = ((e.fireAll w due).1.withDelay d, (e.fireAll w due).2) := by
  obtain ⟨fields, register, log, fired⟩ := e.fireAll_fst w due
  refine (e.fireAll_with w { e.config with modeSwitchDelay := d } e.router e.timers due).trans ?_
  rw [withDelay, fired]

theorem pollTimers_withDelay (now : Nat) :
    ((e.withDelay d).pollTimers w now).2 =
      ((e.pollTimers w now).2.1.withDelay d, (e.pollTimers w now).2.2) :=
  fireAll_withDelay { e with timers := (e.timers.takeDue now).2 } d w _

/-! ## Waiting for the timers -/

/-- Two engines with the widgets that they leave.  The widgets are the same, and once the timers
    have run, whatever the host does to the widget before, nothing is left to them and the one
    engine is the other with a delay. -/
structure SettlesAs (d now : Nat) (x x' : Engine × Widget) : Prop where
  widget_eq : x'.2 = x.2
  poll_eq : ∀ w, (x'.1.pollTimers w now).2 =
    ((x.1.pollTimers w now).2.1.withDelay d, (x.1.pollTimers w now).2.2)
  idle : ∀ w, (x.1.pollTimers w now).2.1.timers = {}

theorem SettlesAs.of_due {now : Nat} (due : ∀ t ∈ e.timers.pending, t.due ≤ now) :
    SettlesAs d now (e, w) (e.withDelay d, w) := by
  refine ⟨rfl, fun w => e.pollTimers_withDelay d w now, fun w => ?_⟩
  rw [pollTimers_of_due e w due]
  obtain ⟨fields, register, log, fired⟩ := { e with timers := {} }.fireAll_fst w e.timers.pending
  rw [fired]

/-- Insert mode without a delay. -/
def insertNow (e : Engine) (w : Widget) : Engine × Widget :=
  e.onField e.active w (·.switchMode .insert)

/-- A change of modes does not read the widget. -/
theorem insertNow_eq (v : Widget) : e.insertNow v = ((e.insertNow w).1, v) := by
  by_cases same : (e.fieldOrNew e.active).modal.mode = .insert
  · simp [insertNow, onField, Editor.switchMode, editor, same, adopt]
  · simp [insertNow, onField, Editor.switchMode, editor, same, adopt, Editor.emit]

variable {e d w}

/-- An engine without the delay, and with no timer pending. -/
structure AtOnce (e : Engine) : Prop where
  idle : e.timers = {}
  undelayed : e.config.modeSwitchDelay = 0

variable {now pause : Nat}

theorem pollTimers_inserting (idle : e.timers = {}) (used : e.InUse e.active)
    (patient : d ≤ pause) (v : Widget) :
    ({ e with timers := .schedule {} ⟨now + d, e.active, .enterInsert⟩ }.pollTimers v (now + pause)).2 =
      e.insertNow v := by
  rw [pollTimers_of_due _ _ (by simp [patient]), TimerQueue.pending_schedule_empty, ← idle]
  simp [fireAll, fire, Option.isSome_iff_ne_none.mp used, insertNow]

theorem settlesAs_enterInsert (atOnce : e.AtOnce) (used : e.InUse e.active)
    (patient : d ≤ pause) :
    SettlesAs d (now + pause) (e.enterInsert w now) ((e.withDelay d).enterInsert w now) := by
  have entered : e.enterInsert w now = e.insertNow w := if_pos atOnce.undelayed
  have idle : (e.insertNow w).1.timers = {} := atOnce.idle
  rw [entered]
  by_cases zero : d = 0
  · have same : (e.withDelay d).enterInsert w now =
        ((e.insertNow w).1.withDelay d, (e.insertNow w).2) := if_pos zero
    rw [same]
    exact .of_due (e.insertNow w).1 d _ (by simp [idle])
  -- Until the timer runs, the one engine is in insert mode and the other is not.
  · have deferred : (e.withDelay d).enterInsert w now =
        ({ e with timers := .schedule {} ⟨now + d, e.active, .enterInsert⟩ }.withDelay d, w) := by
      refine (if_neg zero).trans ?_
      simp [defer, withDelay, TimerQueue.schedule, atOnce.idle]
    rw [deferred]
    refine ⟨?_, fun v => ?_, fun v => ?_⟩
    · rw [insertNow_eq e w]
    · rw [pollTimers_withDelay, pollTimers_inserting atOnce.idle used patient,
        pollTimers_of_idle _ _ idle, insertNow_eq e w v]
    · rw [pollTimers_of_idle _ _ idle, idle]

/-! ## A key and what follows it -/

theorem settlesAs_perform (atOnce : e.AtOnce) (c : Dispatch) (patient : d ≤ pause) :
    SettlesAs d (now + pause) (e.perform w c now) ((e.withDelay d).perform w c now) := by
  rw [perform_eq, perform_eq]
  split
  · exact settlesAs_enterInsert ⟨atOnce.idle, atOnce.undelayed⟩ (e.inUse_onField_self w _ _) patient
  · exact .of_due (e.onField e.active w (·.perform c)).1 d _ (by simp [onField, adopt, atOnce.idle])

theorem settlesAs_follow (atOnce : e.AtOnce) (route : Route) (patient : d ≤ pause)
    (repaired : e.config.replaceRepairDelay ≤ pause) :
    ((e.withDelay d).follow w route now).1 = (e.follow w route now).1 ∧
      SettlesAs d (now + pause) (e.follow w route now).2
        ((e.withDelay d).follow w route now).2 := by
  have idle : ∀ t ∈ e.timers.pending, t.due ≤ now + pause := by simp [atOnce.idle]
  cases route with
  | dispatch c => exact ⟨rfl, settlesAs_perform atOnce c patient⟩
  | replace =>
    refine ⟨rfl, .of_due (e.follow w .replace now).2.1 d _ ?_⟩
    simp [follow_replace, defer, onField, adopt, TimerQueue.schedule, atOnce.idle, repaired]
  | text => exact ⟨rfl, .of_due (e.onField e.active w Editor.beforeTyping).1 d _ idle⟩
  | escape => exact ⟨rfl, .of_due (e.onField e.active w Editor.toNormal).1 d _ idle⟩
  | rejected => exact ⟨rfl, .of_due (e.emit (.compositionRejected e.mode)) d _ idle⟩
  | passthrough | absorbed | unbound => exact ⟨rfl, .of_due e d _ idle⟩

theorem keyDown_withDelay (atOnce : e.AtOnce) (w : Widget) (event : KeyEvent) (now : Nat)
    (patient : d ≤ pause) (repaired : e.config.replaceRepairDelay ≤ pause) :
    ((e.withDelay d).keyDown w event now).1 = (e.keyDown w event now).1 ∧
      SettlesAs d (now + pause) (e.keyDown w event now).2
        ((e.withDelay d).keyDown w event now).2 := by
  obtain ⟨router, log, routed⟩ := (e.touch e.active).route_snd event now
  have same : (e.withDelay d).keyDown w event now =
      (((e.touch e.active).route event now).2.withDelay d).follow w
        ((e.touch e.active).route event now).1 now :=
    congrArg (fun x : Route × Engine => x.2.follow w x.1 now)
      ((e.touch e.active).route_withDelay d event now)
  rw [same, keyDown]
  apply settlesAs_follow ⟨?_, ?_⟩ _ patient ?_
  · rw [routed]
    exact atOnce.idle
  · rw [routed]
    exact atOnce.undelayed
  · rw [routed]
    exact repaired

/-! ## The settings stay -/

theorem config_follow (e : Engine) (w : Widget) (route : Route) (now : Nat) :
    (e.follow w route now).2.1.config = e.config := by
  cases route with
  | dispatch c =>
    rw [follow, perform_eq, enterInsert]
    split
    · split
      · rfl
      · rfl
    · rfl
  | text | replace | escape | passthrough | rejected | absorbed | unbound => rfl

theorem config_keyDown (e : Engine) (w : Widget) (event : KeyEvent) (now : Nat) :
    (e.keyDown w event now).2.1.config = e.config := by
  obtain ⟨router, log, routed⟩ := (e.touch e.active).route_snd event now
  rw [keyDown, config_follow, routed]
  rfl

theorem config_pollTimers (e : Engine) (w : Widget) (now : Nat) :
    (e.pollTimers w now).2.1.config = e.config := by
  obtain ⟨fields, register, log, fired⟩ :=
    { e with timers := (e.timers.takeDue now).2 }.fireAll_fst w (e.timers.takeDue now).1
  rw [pollTimers, fired]

theorem config_click (e : Engine) (w : Widget) : (e.click w).1.config = e.config := by
  simp only [click]
  split
  · rfl
  · rfl

end Engine

/-! ## A patient host -/

/-- What a host that waits for the timers does: it reports a key at some instant, types it unless
    the engine keeps it, and runs the timers after a pause, or it reports a field that gained the
    focus, or it shows another widget. -/
inductive HostTurn
  | press (event : KeyEvent) (now pause : Nat)
  | focus (f : FieldId)
  | useWidget (i : Nat)

/-- The pause after a key is no shorter than either delay. -/
def HostTurn.Patient (switchDelay repairDelay : Nat) : HostTurn → Prop
  | .press _ _ pause => switchDelay ≤ pause ∧ repairDelay ≤ pause
  | .focus _ | .useWidget _ => True

namespace Session

def turn (s : Session) : HostTurn → Session
  | .press event now pause =>
    let pressed := (s.setClock now).keyDown event
    let typed := if pressed.1.suppress then pressed.2 else pressed.2.type event
    (typed.advance pause).poll.2
  | .focus f => s.focusField f
  | .useWidget i => s.useWidget i

def turns (s : Session) (ts : List HostTurn) : Session := ts.foldl turn s

/-- The session with another delay of insert mode. -/
def withDelay (s : Session) (d : Nat) : Session := { s with engine := s.engine.withDelay d }

theorem engine_withDelay (s : Session) (d : Nat) :
    (s.withDelay d).engine = s.engine.withDelay d := rfl

theorem widget_withDelay (s : Session) (d : Nat) : (s.withDelay d).widget = s.widget := rfl

/-- The widget once the host has dealt with a key. -/
def afterKey (w : Widget) (outcome : KeyOutcome) (event : KeyEvent) : Widget :=
  if outcome.suppress then w
  else
    match event.typed? with
    | none => w
    | some c => w.typeOver [c]

theorem type_withState (s : Session) (e : Engine) (w : Widget) (outcome : KeyOutcome)
    (event : KeyEvent) :
    (if outcome.suppress then s.withState e w else (s.withState e w).type event) =
      s.withState e (afterKey w outcome event) := by
  unfold type afterKey
  split
  · rfl
  · cases event.typed? with
    | none => rfl
    | some c =>
      show (s.withState e w).withState e ((s.withState e w).widget.typeOver [c]) = _
      rw [withState_withState, widget_withState]

theorem poll_withState (s : Session) (e : Engine) (w : Widget) :
    (s.withState e w).poll.2 =
      s.withState (e.pollTimers w s.now).2.1 (e.pollTimers w s.now).2.2 := by
  show (s.withState e w).withState _ _ = _
  rw [withState_withState, widget_withState]
  rfl

/-- A turn with a key, told by what the engine does. -/
theorem turn_press (s : Session) (event : KeyEvent) (now pause : Nat) :
    s.turn (.press event now pause) =
      let after := s.engine.keyDown s.widget event now
      let polled := (after.2.1.pollTimers (afterKey after.2.2 after.1 event) (now + pause)).2
      (s.setClock (now + pause)).withState polled.1 polled.2 := by
  have typed := type_withState (s.setClock now) (s.engine.keyDown s.widget event now).2.1
    (s.engine.keyDown s.widget event now).2.2 (s.engine.keyDown s.widget event now).1 event
  exact (congrArg (fun t : Session => (t.advance pause).poll.2) typed).trans
    (poll_withState (s.setClock (now + pause)) _ _)

variable {s : Session} {d : Nat}

theorem turn_withDelay (atOnce : s.engine.AtOnce) {t : HostTurn}
    (patient : t.Patient d s.engine.config.replaceRepairDelay) :
    (s.withDelay d).turn t = (s.turn t).withDelay d ∧ (s.turn t).engine.AtOnce ∧
      (s.turn t).engine.config = s.engine.config := by
  cases t with
  | press event now pause =>
    obtain ⟨outcome_eq, settles⟩ :=
      Engine.keyDown_withDelay atOnce s.widget event now patient.1 patient.2
    have config : (s.turn (.press event now pause)).engine.config = s.engine.config := by
      rw [turn_press]
      exact (Engine.config_pollTimers _ _ _).trans (s.engine.config_keyDown _ _ _)
    refine ⟨?_, ⟨?_, config ▸ atOnce.undelayed⟩, config⟩
    -- The host may have typed since the key, but it typed the same into both widgets.
    · rw [turn_press, turn_press, engine_withDelay, widget_withDelay]
      dsimp only
      rw [outcome_eq, settles.widget_eq, settles.poll_eq]
      rfl
    · rw [turn_press]
      exact settles.idle _
  | focus f => exact ⟨rfl, ⟨atOnce.idle, atOnce.undelayed⟩, rfl⟩
  | useWidget i => exact ⟨rfl, ⟨atOnce.idle, atOnce.undelayed⟩, rfl⟩

theorem turns_withDelay (atOnce : s.engine.AtOnce) {ts : List HostTurn}
    (patient : ∀ t ∈ ts, t.Patient d s.engine.config.replaceRepairDelay) :
    (s.withDelay d).turns ts = (s.turns ts).withDelay d ∧ (s.turns ts).engine.AtOnce := by
  induction ts generalizing s with
  | nil => exact ⟨rfl, atOnce⟩
  | cons t ts ih =>
    obtain ⟨first, rest⟩ := List.forall_mem_cons.mp patient
    obtain ⟨same, still, config⟩ := turn_withDelay atOnce first
    rw [← config] at rest
    show ((s.withDelay d).turn t).turns ts = ((s.turn t).turns ts).withDelay d ∧ _
    rw [same]
    exact ih still rest

end Session

/-! ## The law -/

/-- No setting is refused for its delay of insert mode, and no binding. -/
theorem Engine.build?_withDelay (config : Config) (keymap : Keymap)
    (extra : List (Trigger × Binding)) (register : Register) (d : Nat) :
    Engine.build? { config with modeSwitchDelay := d } keymap extra register =
      (Engine.build? config keymap extra register).map (·.withDelay d) := by
  have faults : { config with modeSwitchDelay := d }.fault? = config.fault? := rfl
  unfold Engine.build?
  rw [faults]
  cases config.fault? with
  | some error => rfl
  | none =>
    cases keymap.bindAll extra with
    | error error => rfl
    | ok whole => rfl

/-- The delay of insert mode makes no difference to a host that waits for the timers. -/
theorem delay_law {config : Config} {keymap : Keymap} {extra : List (Trigger × Binding)}
    {register : Register} {d : Nat} {e e' : Engine}
    (built : Engine.build? { config with modeSwitchDelay := 0 } keymap extra register = .ok e)
    (built' : Engine.build? { config with modeSwitchDelay := d } keymap extra register = .ok e')
    (first : Widget) (others : List Widget) {ts : List HostTurn}
    (patient : ∀ t ∈ ts, t.Patient d config.replaceRepairDelay) :
    let s := (Session.start e first others).turns ts
    let s' := (Session.start e' first others).turns ts
    s'.widgets = s.widgets ∧ (∀ f, s'.engine.fieldOrNew f = s.engine.fieldOrNew f) ∧
      s'.engine.register = s.engine.register ∧ s'.engine.router = s.engine.router ∧
      s.engine.timers.pending = [] ∧ s'.engine.timers.pending = [] := by
  intro s s'
  obtain ⟨_, whole, e_eq⟩ := Engine.eq_assemble_of_build? built
  have e'_eq : e' = e.withDelay d := by
    have delayed := Engine.build?_withDelay { config with modeSwitchDelay := 0 } keymap extra
      register d
    rw [built] at delayed
    exact Except.ok.inj (built'.symm.trans delayed)
  have atOnce : (Session.start e first others).engine.AtOnce := by
    subst e_eq
    exact ⟨rfl, rfl⟩
  have repair : (Session.start e first others).engine.config.replaceRepairDelay =
      config.replaceRepairDelay := by
    subst e_eq
    rfl
  rw [← repair] at patient
  obtain ⟨same, settled⟩ := Session.turns_withDelay atOnce patient
  have s'_eq : s' = s.withDelay d := by
    rw [← same]
    subst e'_eq
    rfl
  have idle : s.engine.timers.pending = [] := congrArg TimerQueue.pending settled.idle
  rw [s'_eq]
  exact ⟨rfl, fun f => rfl, rfl, rfl, idle, idle⟩

/-- A command that inserts, a character typed, the way back, and a character replaced. -/
def insertionTurns : List HostTurn :=
  ['i', 'x'].map (fun c => .press (.plain (.char c)) 0 (Time.ofMillis 100)) ++
    [.press (.plain .esc) 0 (Time.ofMillis 100), .focus 1] ++
    ['r', 'z'].map (fun c => .press (.plain (.char c)) 0 (Time.ofMillis 100))

theorem delay_law_of_insertion :
    let start := fun e : Engine => Session.start e (.ofText .scalars ['a']) []
    let s := (start (.assemble { modeSwitchDelay := 0 } .standard {})).turns insertionTurns
    let s' := (start .standard).turns insertionTurns
    (∀ f, s'.engine.fieldOrNew f = s.engine.fieldOrNew f) ∧ s'.widgets = s.widgets ∧
      s.widget.text = ['z', 'a'] := by
  intro start s s'
  have patient : ∀ t ∈ insertionTurns,
      t.Patient (Time.ofMillis 100) ({} : Config).replaceRepairDelay := by
    simp [insertionTurns, HostTurn.Patient]
    decide
  obtain ⟨widgets, fields, _⟩ := @delay_law {} .standard [] {} (Time.ofMillis 100) _ _ rfl rfl
    (.ofText .scalars ['a']) [] insertionTurns patient
  exact ⟨fields, widgets, by decide⟩

end ModalEdit
