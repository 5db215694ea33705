import Mathlib.Data.List.Forall2
import ModalEdit.Proofs.Editor.Kept
import ModalEdit.Proofs.Engine.Fields
import ModalEdit.Proofs.Session.Acts

/-! # Likenesses of sessions

Two sessions with the same engine may show widgets that are not the same but alike, while what
the engine keeps satisfies some invariant.  A `Likeness` names the relation between the widgets
and the invariants.  If the steps of commands and the few steps of the engine keep it
(`Lawful`), then every run keeps it (`Lawful.run`), and the host is told the same on both sides
(`Lawful.outcome?_eq`).

`Likeness.ofTexts` is the case where the invariants speak of texts only, and then it is enough
to look at the operations of widgets (`TextLaws.lawful`).
-/

namespace ModalEdit

/-- What two sessions have in common: what holds of each field that is kept, of the register, of
    the texts that commands yank and of those that the host types, and how the widgets are
    related. -/
structure Likeness where
  field : Field → Prop
  register : Register → Prop
  yanked : Text → Prop
  typed : Text → Prop
  widget : Widget → Widget → Prop

namespace Likeness

/-- Two editors that differ in their widgets at most, and these are alike. -/
structure Editors (L : Likeness) (d e : Editor) : Prop where
  modal_eq : d.modal = e.modal
  history_eq : d.history = e.history
  register_eq : d.register = e.register
  log_eq : d.log = e.log
  widget : L.widget d.widget e.widget
  field : L.field { modal := d.modal, history := d.history }
  register : L.register d.register

/-- What an engine keeps satisfies the invariants. -/
structure Sound (L : Likeness) (e : Engine) : Prop where
  field : ∀ f, L.field (e.fieldOrNew f)
  register : L.register e.register

/-- The same engine, with widgets that are alike. -/
structure Lent (L : Likeness) (x y : Engine × Widget) : Prop where
  engine_eq : x.1 = y.1
  sound : L.Sound x.1
  widget : L.widget x.2 y.2

/-- Two sessions that differ in their widgets at most, and these are alike. -/
structure Sessions (L : Likeness) (s t : Session) : Prop where
  engine_eq : s.engine = t.engine
  sound : L.Sound s.engine
  widgets : List.Forall₂ L.widget s.widgets t.widgets
  current_eq : s.current = t.current
  now_eq : s.now = t.now

/-- All steps keep a likeness. -/
structure Lawful (L : Likeness) : Prop where
  commands : Editor.KeptByUndo L.yanked L.Editors
  fresh : ∀ n, L.field { history := .ofLimit n }
  refocus : ∀ {x}, L.field x → L.field { x with modal := x.modal.resetTransient }
  toInsertMode : ∀ {d e}, L.Editors d e →
    L.Editors (d.switchMode .insert) (e.switchMode .insert)
  doneReplacing : ∀ {d e}, L.Editors d e →
    L.Editors { d with modal := { d.modal with replacing := false } }
      { e with modal := { e.modal with replacing := false } }
  record : ∀ {d e}, L.Editors d e → ∀ p,
    L.Editors (d.record d.widget.text p) (e.record e.widget.text p)
  type : ∀ {v w}, L.widget v w → ∀ {cs}, L.typed cs → L.widget (v.typeOver cs) (w.typeOver cs)

variable {L : Likeness}

/-! ## Engines -/

theorem Editors.emit {d e : Editor} (h : L.Editors d e) (event : Event) :
    L.Editors (d.emit event) (e.emit event) :=
  { h with log_eq := by simp only [Editor.emit, h.log_eq] }

theorem Editors.withWidget {d e : Editor} (h : L.Editors d e) {v w : Widget}
    (alike : L.widget v w) : L.Editors { d with widget := v } { e with widget := w } :=
  { h with widget := alike }

namespace Sound

variable {e : Engine}

theorem emit (h : L.Sound e) (event : Event) : L.Sound (e.emit event) := ⟨h.field, h.register⟩

theorem defer (h : L.Sound e) (due : Nat) (f : FieldId) (task : Task) :
    L.Sound (e.defer due f task) := ⟨h.field, h.register⟩

theorem touch (h : L.Sound e) (f : FieldId) : L.Sound (e.touch f) :=
  ⟨fun g => by rw [Engine.fieldOrNew_touch]; exact h.field g, h.register⟩

theorem route (h : L.Sound e) (event : KeyEvent) (now : Nat) :
    L.Sound (e.route event now).2 := by
  obtain ⟨router, log, routed⟩ := e.route_snd event now
  rw [routed]
  exact ⟨h.field, h.register⟩

theorem editor (h : L.Sound e) {v w : Widget} (alike : L.widget v w) (f : FieldId) :
    L.Editors (e.editor f v) (e.editor f w) :=
  ⟨rfl, rfl, rfl, rfl, alike, h.field f, h.register⟩

theorem onField (h : L.Sound e) {f : FieldId} {v w : Widget} {command command' : Editor → Editor}
    (done : L.Editors (command (e.editor f v)) (command' (e.editor f w))) :
    L.Lent (e.onField f v command) (e.onField f w command') := by
  refine ⟨?_, ⟨?_, done.register⟩, done.widget⟩
  · simp only [Engine.onField, Engine.adopt, done.modal_eq, done.history_eq, done.register_eq,
      done.log_eq]
  · intro g
    -- The other fields are as they were.
    by_cases same : g = f
    · subst same
      simpa [Engine.onField] using done.field
    · simpa [Engine.onField, Engine.fieldOrNew_adopt_of_ne _ _ _ _ same] using h.field g

end Sound

namespace Lawful

variable (law : L.Lawful) {e : Engine} {v w : Widget}

include law

theorem focusChanged (h : L.Sound e) (f : FieldId) : L.Sound (e.focusChanged f) := by
  refine ⟨?_, h.register⟩
  intro g
  by_cases same : g = f
  · subst same
    rw [Engine.fieldOrNew_focusChanged_self]
    exact law.refocus (h.field g)
  · rw [Engine.fieldOrNew_focusChanged_of_ne _ _ _ same]
    exact h.field g

theorem editorPerform {d e : Editor} (h : L.Editors d e) (x : Dispatch) :
    L.Editors (d.perform x) (e.perform x) := by
  have saved : L.Editors (if x.recordsUndo then d.record d.widget.text d.caret else d)
      (if x.recordsUndo then e.record e.widget.text e.caret else e) := by
    rw [← (law.commands.alike h).caret]
    split
    · exact law.record h _
    · exact h
  exact law.commands.run (saved.emit _) x.action x.count

theorem beforeTyping {d e : Editor} (h : L.Editors d e) :
    L.Editors d.beforeTyping e.beforeTyping := by
  simp only [Editor.beforeTyping, ← (law.commands.alike h).caret]
  exact law.record h _

theorem beforeReplacing {d e : Editor} (h : L.Editors d e) :
    L.Editors d.beforeReplacing e.beforeReplacing := by
  simp only [Editor.beforeReplacing, ← (law.commands.alike h).caret]
  exact law.record (law.doneReplacing h) _

theorem enterInsert {x y : Engine × Widget} (h : L.Lent x y) (now : Nat) :
    L.Lent (x.1.enterInsert x.2 now) (y.1.enterInsert y.2 now) := by
  obtain ⟨engine_eq, sound, widget⟩ := h
  rw [← engine_eq]
  unfold Engine.enterInsert
  split
  · exact sound.onField (law.toInsertMode (sound.editor widget _))
  · exact ⟨rfl, sound.defer _ _ _, widget⟩

theorem perform (h : L.Sound e) (alike : L.widget v w) (d : Dispatch) (now : Nat) :
    L.Lent (e.perform v d now) (e.perform w d now) := by
  have done : L.Lent (e.onField e.active v (·.perform d)) (e.onField e.active w (·.perform d)) :=
    h.onField (law.editorPerform (h.editor alike _) d)
  rw [Engine.perform_eq, Engine.perform_eq]
  split
  · exact law.enterInsert done now
  · exact done

/-- Whatever a key is routed to, the host is told the same, and what it lent stays alike. -/
theorem follow (h : L.Sound e) (alike : L.widget v w) (route : Route) (now : Nat) :
    (e.follow v route now).1 = (e.follow w route now).1 ∧
      L.Lent (e.follow v route now).2 (e.follow w route now).2 := by
  have start := h.editor alike e.active
  cases route with
  | passthrough => exact ⟨rfl, rfl, h, alike⟩
  | text => exact ⟨rfl, h.onField (law.beforeTyping start)⟩
  | replace =>
    obtain ⟨engine_eq, sound, widget⟩ := h.onField (law.beforeReplacing start)
    exact ⟨rfl, congrArg (Engine.defer · _ _ _) engine_eq, sound.defer _ _ _, widget⟩
  | rejected => exact ⟨rfl, rfl, h.emit _, alike⟩
  | escape => exact ⟨rfl, h.onField (law.commands.toKeptByModes.toNormal start)⟩
  | absorbed => exact ⟨rfl, rfl, h, alike⟩
  | unbound => exact ⟨rfl, rfl, h, alike⟩
  | dispatch d => exact ⟨rfl, law.perform h alike d now⟩

theorem keyDown (h : L.Sound e) (alike : L.widget v w) (event : KeyEvent) (now : Nat) :
    (e.keyDown v event now).1 = (e.keyDown w event now).1 ∧
      L.Lent (e.keyDown v event now).2 (e.keyDown w event now).2 :=
  law.follow ((h.touch e.active).route event now) alike _ now

theorem click (h : L.Sound e) (alike : L.widget v w) : L.Lent (e.click v) (e.click w) := by
  have touched := h.touch e.active
  simp only [Engine.click]
  split
  · exact touched.onField (law.commands.toKeptByModes.placeCaret (touched.editor alike _))
  · exact ⟨rfl, touched, alike⟩

theorem fire (h : L.Sound e) (alike : L.widget v w) (t : Timer) :
    L.Lent (e.fire v t) (e.fire w t) := by
  unfold Engine.fire
  split
  · exact ⟨rfl, h, alike⟩
  · cases t.task with
    | enterInsert => exact h.onField (law.toInsertMode (h.editor alike _))
    | repairAfterReplace =>
      dsimp only
      split
      · exact h.onField (law.commands.toKeptByMotions.prevChar (h.editor alike _))
      · exact ⟨rfl, h.emit _, alike⟩

theorem fireAll (h : L.Sound e) (alike : L.widget v w) (due : List Timer) :
    L.Lent (e.fireAll v due) (e.fireAll w due) := by
  induction due generalizing e v w with
  | nil => exact ⟨rfl, h, alike⟩
  | cons t rest ih =>
    -- Each timer finds the engine that the one before it left.
    obtain ⟨engine_eq, sound, widget⟩ := law.fire h alike t
    simp only [Engine.fireAll, ← engine_eq]
    exact ih sound widget

theorem pollTimers (h : L.Sound e) (alike : L.widget v w) (now : Nat) :
    (e.pollTimers v now).1 = (e.pollTimers w now).1 ∧
      L.Lent (e.pollTimers v now).2 (e.pollTimers w now).2 :=
  ⟨rfl, law.fireAll (e := { e with timers := (e.timers.takeDue now).2 })
    ⟨h.field, h.register⟩ alike _⟩

end Lawful

/-! ## Sessions -/

theorem forall₂_set {R : Widget → Widget → Prop} {vs ws : List Widget}
    (h : List.Forall₂ R vs ws) (i : Nat) {v w : Widget} (related : R v w) :
    List.Forall₂ R (vs.set i v) (ws.set i w) := by
  induction h generalizing i with
  | nil => exact .nil
  | cons head tail ih =>
    cases i with
    | zero => exact .cons related tail
    | succ i => exact .cons head (ih i)

namespace Sessions

variable {s t : Session}

theorem current (h : L.Sessions s t) : L.widget s.widget t.widget := by
  have bound : s.current < t.widgets.length := h.current_eq ▸ t.current_lt
  have at_index := h.widgets.get s.current_lt bound
  simpa [Session.widget, h.current_eq] using at_index

theorem withState (h : L.Sessions s t) {x y : Engine × Widget} (lent : L.Lent x y) :
    L.Sessions (s.withState x.1 x.2) (t.withState y.1 y.2) := by
  refine ⟨lent.engine_eq, lent.sound, ?_, h.current_eq, h.now_eq⟩
  simp only [Session.withState, h.current_eq]
  exact forall₂_set h.widgets _ lent.widget

theorem onWidget (h : L.Sessions s t) {f g : Widget → Widget}
    (done : L.widget (f s.widget) (g t.widget)) : L.Sessions (s.onWidget f) (t.onWidget g) :=
  h.withState (x := (s.engine, f s.widget)) (y := (t.engine, g t.widget))
    ⟨h.engine_eq, h.sound, done⟩

theorem useWidget (h : L.Sessions s t) (i : Nat) : L.Sessions (s.useWidget i) (t.useWidget i) := by
  refine ⟨h.engine_eq, h.sound, h.widgets, ?_, h.now_eq⟩
  simp only [Session.useWidget, h.widgets.length_eq]

end Sessions

/-- The host types only what the likeness allows. -/
def Types (L : Likeness) (a : HostAct) : Prop :=
  ∀ event c, a = .type event → event.typed? = some c → L.typed [c]

namespace Lawful

variable (law : L.Lawful) {s t : Session}

include law

theorem keyDownSession (h : L.Sessions s t) (event : KeyEvent) :
    (s.keyDown event).1 = (t.keyDown event).1 ∧
      L.Sessions (s.keyDown event).2 (t.keyDown event).2 := by
  obtain ⟨outcome, lent⟩ := law.keyDown h.sound h.current event s.now
  simp only [Session.keyDown, ← h.engine_eq, ← h.now_eq]
  exact ⟨outcome, h.withState lent⟩

theorem act (h : L.Sessions s t) (a : HostAct) (types : L.Types a) :
    L.Sessions (s.act a) (t.act a) := by
  cases a with
  | key event => exact (law.keyDownSession h event).2
  | type event =>
    simp only [Session.act, Session.type]
    cases typed : event.typed? with
    | none => exact h
    | some c => exact h.onWidget (law.type h.current (types event c rfl typed))
  | poll =>
    have lent := (law.pollTimers h.sound h.current s.now).2
    simp only [Session.act, Session.poll, ← h.engine_eq, ← h.now_eq]
    exact h.withState lent
  | click =>
    have lent := law.click h.sound h.current
    simp only [Session.act, Session.click, ← h.engine_eq]
    exact h.withState lent
  | focus f =>
    exact ⟨congrArg (Engine.focusChanged · f) h.engine_eq, law.focusChanged h.sound f, h.widgets,
      h.current_eq, h.now_eq⟩
  | useWidget i => exact h.useWidget i
  | setClock now => exact ⟨h.engine_eq, h.sound, h.widgets, h.current_eq, rfl⟩

theorem outcome?_eq (h : L.Sessions s t) (a : HostAct) : s.outcome? a = t.outcome? a := by
  cases a with
  | key event => exact congrArg some (law.keyDownSession h event).1
  | _ => rfl

theorem run (h : L.Sessions s t) (acts : List HostAct) (types : ∀ a ∈ acts, L.Types a) :
    L.Sessions (s.run acts) (t.run acts) := by
  induction acts generalizing s t with
  | nil => exact h
  | cons a acts ih =>
    exact ih (law.act h a (types a List.mem_cons_self))
      (fun b member => types b (List.mem_cons_of_mem _ member))

theorem sound_of_built {e : Engine} (built : e.Built) (register : L.register e.register) :
    L.Sound e := by
  obtain ⟨config, keymap, r, _, rfl⟩ := built.eq_assemble
  exact ⟨fun _ => law.fresh config.undoLimit, register⟩

end Lawful

/-! ## Invariants of texts -/

/-- The likeness with one invariant of all saved texts, and one of the text in the register. -/
def ofTexts (saved yanked typed : Text → Prop) (widget : Widget → Widget → Prop) :
    Likeness where
  field x := ∀ entry ∈ x.history.entries, saved entry.text
  register r := ∀ cs, r.text? = some cs → yanked cs
  yanked := yanked
  typed := typed
  widget := widget

/-- What makes a likeness of texts lawful: facts about the operations of widgets. -/
structure TextLaws (saved yanked typed : Text → Prop) (widget : Widget → Widget → Prop) :
    Prop where
  units_eq : ∀ {v w}, widget v w → v.units = w.units
  selection_eq : ∀ {v w}, widget v w → v.selection = w.selection
  saves : ∀ {v w}, widget v w → saved v.text
  yanks : ∀ {v w}, widget v w → ∀ a b, yanked (v.slice a b)
  blank : yanked [' ']
  lineBreak : yanked [lineBreak]
  append_of : ∀ {cs ds}, yanked cs → yanked ds → yanked (cs ++ ds)
  dropFinalBreak : ∀ {cs}, yanked cs → yanked (Editor.dropFinalBreak cs)
  select : ∀ {v w}, widget v w → ∀ a b, widget (v.select a b) (w.select a b)
  cut : ∀ {v w}, widget v w → ∀ a b, widget (v.cut a b).2 (w.cut a b).2
  insert : ∀ {v w}, widget v w → ∀ {cs}, yanked cs → ∀ p placement,
    widget (v.insert cs p placement) (w.insert cs p placement)
  withText : ∀ {v w}, widget v w → ∀ {cs}, saved cs → widget (v.withText cs) (w.withText cs)
  typeOver : ∀ {v w}, widget v w → ∀ {cs}, typed cs → widget (v.typeOver cs) (w.typeOver cs)

section OfTexts

variable {saved yanked typed : Text → Prop} {W : Widget → Widget → Prop} {d e : Editor}

/-- Such a likeness does not look at the modal state, and the log is not part of it. -/
theorem Editors.withModal (h : (ofTexts saved yanked typed W).Editors d e) (m : ModalState) :
    (ofTexts saved yanked typed W).Editors { d with modal := m } { e with modal := m } :=
  { h with modal_eq := rfl }

theorem Editors.withHistory (h : (ofTexts saved yanked typed W).Editors d e) {x : History}
    (all : ∀ entry ∈ x.entries, saved entry.text) :
    (ofTexts saved yanked typed W).Editors { d with history := x } { e with history := x } :=
  { h with history_eq := rfl, field := all }

theorem Editors.withRegister (h : (ofTexts saved yanked typed W).Editors d e) {r : Register}
    (allowed : ∀ cs, r.text? = some cs → yanked cs) :
    (ofTexts saved yanked typed W).Editors { d with register := r } { e with register := r } :=
  { h with register_eq := rfl, register := allowed }

theorem Editors.switchMode (h : (ofTexts saved yanked typed W).Editors d e) (m : Mode) :
    (ofTexts saved yanked typed W).Editors (d.switchMode m) (e.switchMode m) := by
  simp only [Editor.switchMode, h.modal_eq]
  split
  · exact h.withModal _
  · exact (h.withModal _).emit _

theorem Editors.record (h : (ofTexts saved yanked typed W).Editors d e) {cs : Text}
    (hcs : saved cs) (p : Nat) :
    (ofTexts saved yanked typed W).Editors (d.record cs p) (e.record cs p) := by
  simp only [Editor.record, h.history_eq]
  refine (h.withHistory ?_).emit _
  intro entry member
  -- An entry that the limit leaves is the new one or an old one.
  rcases List.mem_cons.mp (List.mem_of_mem_take member) with rfl | old
  · exact hcs
  · exact h.field entry (h.history_eq ▸ old)

theorem of_text?_write {A : Text → Prop} {r : Register} {cs ds : Text} (hcs : A cs)
    (read : (r.write cs).text? = some ds) : A ds := by
  simp only [Register.text?, Register.write, Clipboard.get?_put] at read
  split at read
  · nomatch read
  · cases read
    exact hcs

theorem Editors.write (h : (ofTexts saved yanked typed W).Editors d e) {cs : Text}
    (hcs : yanked cs) (lineWise : Bool) :
    (ofTexts saved yanked typed W).Editors (d.write cs lineWise) (e.write cs lineWise) := by
  simp only [Editor.write, h.register_eq]
  refine (h.withRegister ?_).emit _
  intro ds read
  exact of_text?_write hcs read

namespace TextLaws

variable (laws : TextLaws saved yanked typed W)

include laws

theorem keptByMotions : Editor.KeptByMotions (ofTexts saved yanked typed W).Editors where
  alike h := ⟨h.modal_eq, laws.units_eq h.widget, laws.selection_eq h.widget, h.register_eq,
    h.history_eq⟩
  select h a b := h.withWidget (laws.select h.widget a b)
  withCursor h _ p := by
    simp only [Editor.withCursor, h.modal_eq]
    exact h.withModal _
  withAnchor h _ p := by
    simp only [Editor.withAnchor, h.modal_eq]
    exact h.withModal _
  fillLine h p _ := h.withWidget (laws.insert h.widget laws.blank p .whole)

theorem keptByModes : Editor.KeptByModes (ofTexts saved yanked typed W).Editors where
  toKeptByMotions := laws.keptByMotions
  toNormalMode h := h.switchMode .normal
  beginVisual h p := by
    have visual := h.switchMode .visual
    simp only [Editor.beginVisual, visual.modal_eq]
    exact visual.withModal _
  awaitReplacement h := by
    simp only [Editor.awaitReplacement, h.modal_eq]
    exact h.withModal _

theorem keptByYanks : Editor.KeptByYanks yanked (ofTexts saved yanked typed W).Editors where
  toKeptByModes := laws.keptByModes
  slice h a b := laws.yanks h.widget a b
  append_of := laws.append_of
  dropFinalBreak := laws.dropFinalBreak
  write h _ hcs lineWise := h.write hcs lineWise

theorem keptByEdits : Editor.KeptByEdits yanked (ofTexts saved yanked typed W).Editors where
  toKeptByYanks := laws.keptByYanks
  openLine h cs member p := by
    have allowed : yanked cs := by
      rcases List.mem_pair.mp member with rfl | rfl
      · exact laws.append_of laws.lineBreak laws.blank
      · exact laws.append_of laws.blank laws.lineBreak
    exact h.withWidget (laws.insert h.widget allowed p .whole)
  cut h a b := h.withWidget (laws.cut h.widget a b)
  paste h cs text ds member p placement := by
    have allowed : yanked ds := by
      have hcs := h.register cs text
      simp only [Editor.pasted, List.mem_cons, List.not_mem_nil, or_false] at member
      rcases member with rfl | rfl | rfl
      · exact hcs
      · exact laws.append_of laws.lineBreak hcs
      · exact laws.append_of hcs laws.lineBreak
    exact h.withWidget (laws.insert h.widget allowed p placement)

theorem keptByUndo : Editor.KeptByUndo yanked (ofTexts saved yanked typed W).Editors where
  toKeptByEdits := laws.keptByEdits
  undo {d e} h := by
    simp only [Editor.undo, h.history_eq]
    cases popped : e.history.pop? with
    | none => exact h
    | some entry =>
      obtain ⟨entry, history⟩ := entry
      obtain ⟨entries, _⟩ := History.pop?_eq_some_iff.mp popped
      have whole : ∀ x ∈ entry :: history.entries, saved x.text := by
        rw [← entries, ← h.history_eq]
        exact h.field
      have rest : (ofTexts saved yanked typed W).Editors
          ({ d with history := history }.emit (.undone entry.position history.size))
          ({ e with history := history }.emit (.undone entry.position history.size)) :=
        (h.withHistory fun x member => whole x (List.mem_cons_of_mem _ member)).emit _
      have restored := laws.withText h.widget (whole entry List.mem_cons_self)
      exact laws.keptByMotions.select (rest.withWidget restored) _ _

theorem lawful : (ofTexts saved yanked typed W).Lawful where
  commands := laws.keptByUndo
  fresh _ _ member := nomatch member
  refocus h := h
  toInsertMode h := h.switchMode .insert
  doneReplacing h := by
    simp only [h.modal_eq]
    exact h.withModal _
  record h p := by
    rw [← (laws.keptByMotions.alike h).text]
    exact h.record (laws.saves h.widget) p
  type h _ hcs := laws.typeOver h hcs

end TextLaws

end OfTexts

end Likeness

end ModalEdit
