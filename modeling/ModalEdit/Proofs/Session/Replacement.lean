import ModalEdit.Proofs.Session.Strokes
import ModalEdit.Proofs.Widget.Rope

/-! # A replacement

The key `r` on a character, and the key that takes its place.  The second key is never a command, whatever
was pending or is bound (`route_awaited`).  The host types it over the character, which leaves the caret
behind it, and a timer steps back (`exists_focused_repaired`).  So the text keeps its length, and the same
position stays selected (`replacement_law`).
-/

namespace ModalEdit

theorem KeyEvent.exists_char_of_typed? {event : KeyEvent} {c : Char} (typed : event.typed? = some c) :
    ∃ a, event.code = .char a := by
  cases code : event.code with
  | char a => exact ⟨a, rfl⟩
  | _ => simp [typed?, code] at typed

/-- A character typed over the one that is selected. -/
theorem Widget.typeOver_selected {w : Widget} (rope : w.segmentation = .scalars) {c : Nat}
    (selected : w.selection = ⟨c, c + 1⟩) (inside : c < w.len) (y : Char) :
    (w.typeOver [y]).segmentation = .scalars ∧ (w.typeOver [y]).text = w.text.set c y ∧
      (w.typeOver [y]).selection = ⟨c + 1, c + 1⟩ := by
  obtain ⟨rope', text, selection⟩ := typeOver_of_scalars rope selected c.le_succ inside [y]
  rw [len_of_scalars rope] at inside
  refine ⟨rope', ?_, selection⟩
  rw [text, List.set_eq_take_append_cons_drop, if_pos inside, List.append_assoc]
  rfl

/-- Behind a character a step back selects it. -/
theorem Editor.prevChar_behind {d : Editor} (normal : d.modal.mode = .normal) {c : Nat} {y : Char}
    (selection : d.widget.selection = ⟨c + 1, c + 1⟩) (behind : d.charAt? c = some y)
    (other : y ≠ lineBreak) (inside : c < d.len) :
    d.prevChar.widget.text = d.widget.text ∧ d.prevChar.widget.selection = ⟨c, c + 1⟩ := by
  have caret : d.caret = c + 1 := congrArg Selection.start selection
  have character : d.charBefore? (c + 1) ≠ some lineBreak := by
    show d.charAt? c ≠ some lineBreak
    simpa [behind] using other
  rw [prevChar_of_normal normal, caret, if_neg character, if_pos c.succ_pos]
  exact ⟨rfl, selection_select_of_le c.le_succ inside⟩

namespace Focused

/-- What is seen once a character is awaited. -/
def awaiting (x : Focused) (previous : ChordMemory) : Focused :=
  { x with router := { x.router with previous := previous, count := none } }.withModal
    { x.field.modal with replacing := true }

/-- Normal mode under the standard keymap, where the next character takes the place of another one. -/
structure Awaits (x : Focused) : Prop where
  stock : x.router.Stock
  idle : x.timers = {}
  normal : x.field.modal.mode = .normal
  replacing : x.field.modal.replacing = true

theorem awaits_awaiting {x : Focused} (stock : x.router.Stock) (rest : x.AtRest)
    (previous : ChordMemory) : (x.awaiting previous).Awaits :=
  ⟨stock.withMemory previous none, rest.idle, rest.normal, rfl⟩

end Focused

namespace Session

variable {s : Session}

section Awaited

variable {x : Focused} (seen : s.focused = x) (awaits : x.Awaits) {k : Stroke} {y : Char}
  (typed : k.event.typed? = some y)

include awaits typed

theorem route_awaited : x.router.route k.event k.now x.field.modal = (.replace, x.router) := by
  obtain ⟨a, char⟩ := KeyEvent.exists_char_of_typed? typed
  exact awaits.stock.route_replace char (by rw [awaits.normal]; rfl) awaits.replacing

include seen

/-- The host is left to type it. -/
theorem outcome_awaited :
    (((s.pollAt k.polls).setClock k.now).keyDown k.event).1 = ⟨false, none⟩ := by
  obtain ⟨engine, widget⟩ := pollAt_of_idle (congrArg Focused.timers seen |>.trans awaits.idle) k.polls
  have routed := route_awaited awaits typed
  rw [← seen] at routed
  obtain ⟨e, down, _⟩ := Engine.exists_keyDown_focused s.widget k.now routed
  show ((s.pollAt k.polls).engine.keyDown (s.pollAt k.polls).widget k.event k.now).1 = _
  rw [engine, widget, down]
  rfl

theorem focused_stroke_awaited :
    (s.stroke k).focused =
      ((x.withModal { x.field.modal with replacing := false }).edited
        (x.field.history.record x.widget.text x.widget.caret) (x.widget.typeOver [y])).defer
        (k.now + x.config.replaceRepairDelay) .repairAfterReplace :=
  focused_stroke_replace seen awaits.idle (route_awaited awaits typed) typed

variable (rope : x.widget.segmentation = .scalars) {c : Nat} (selected : x.widget.selection = ⟨c, c + 1⟩)
  (inside : c < x.widget.len)

include rope selected inside

theorem saved_stroke_awaited :
    (s.stroke k).widget.text = x.widget.text.set c y ∧
      (s.stroke k).engine.activeField.history.entries =
        (⟨c, x.widget.text⟩ :: x.field.history.entries).take x.field.history.limit := by
  have pressed := focused_stroke_awaited seen awaits typed
  obtain ⟨_, text, _⟩ := Widget.typeOver_selected rope selected inside y
  have caret : x.widget.caret = c := congrArg Selection.start selected
  rw [caret] at pressed
  exact ⟨(congrArg (fun x : Focused => x.widget.text) pressed).trans text,
    congrArg (fun x : Focused => x.field.history.entries) pressed⟩

variable (other : y ≠ lineBreak) {instants : List Nat}
  (late : ∃ now ∈ instants, k.now + x.config.replaceRepairDelay ≤ now)

include other late

/-- Once the timer has run, the character is selected. -/
theorem exists_focused_repaired :
    ∃ v, v.text = x.widget.text.set c y ∧ v.selection = ⟨c, c + 1⟩ ∧
      ((s.stroke k).pollAt instants).focused =
        (({ x with timers := {} } : Focused).withModal { x.field.modal with replacing := false }).edited
          (x.field.history.record x.widget.text c) v := by
  obtain ⟨rope', text, selection⟩ := Widget.typeOver_selected rope selected inside y
  have pressed := focused_stroke_awaited seen awaits typed
  have pending : (s.stroke k).focused.timers =
      .schedule {} ⟨k.now + x.config.replaceRepairDelay, x.active, .repairAfterReplace⟩ := by
    rw [pressed]
    exact congrArg (fun timers : TimerQueue => timers.schedule _) awaits.idle
  rw [pressed] at pending
  obtain ⟨d, modal, widget, repaired⟩ :=
    exists_focused_pollAt_repair pressed (tended_stroke seen awaits.idle k) late awaits.normal pending
  -- The caret stands behind the typed character, so that the step back selects it.
  rw [Widget.len_of_scalars rope] at inside
  have shown : d.widget = x.widget.typeOver [y] := widget
  have behind : d.charAt? c = some y := by
    show d.widget.charAt? c = some y
    rw [shown, Widget.charAt?_of_scalars rope', text, List.getElem?_set_self inside]
  have inside' : c < d.len := by
    show c < d.widget.len
    rw [shown, Widget.len_of_scalars rope', text, List.length_set]
    exact inside
  obtain ⟨kept, back⟩ :=
    Editor.prevChar_behind (modal ▸ awaits.normal) (shown ▸ selection) behind other inside'
  have caret : x.widget.caret = c := congrArg Selection.start selected
  refine ⟨d.prevChar.widget, by rw [kept, shown, text], back, repaired.trans ?_⟩
  rw [caret]
  rfl

theorem pollAt_stroke_awaited :
    let u := (s.stroke k).pollAt instants
    u.widget.text = x.widget.text.set c y ∧ u.widget.selection = ⟨c, c + 1⟩ ∧
      u.engine.mode = .normal ∧ u.engine.activeField.modal.replacing = false ∧
      u.engine.register = x.register := by
  obtain ⟨v, text, selection, repaired⟩ := exists_focused_repaired seen awaits typed rope selected
    inside other late
  exact ⟨(congrArg (fun x : Focused => x.widget.text) repaired).trans text,
    (congrArg (fun x : Focused => x.widget.selection) repaired).trans selection,
    (congrArg (fun x : Focused => x.field.modal.mode) repaired).trans awaits.normal,
    congrArg (fun x : Focused => x.field.modal.replacing) repaired, congrArg Focused.register repaired⟩

end Awaited

/-- The key `r` awaits a character. -/
theorem exists_focused_awaiting (stock : s.focused.router.Stock) (rest : s.focused.AtRest) {k : Stroke}
    (event : k.event = .plain (.char 'r')) :
    ∃ previous, (s.stroke k).focused = s.focused.awaiting previous := by
  obtain ⟨previous, routed⟩ := stock.route_command rest.commands rest.resting Router.single_r k.now
  rw [← event] at routed
  exact ⟨previous, focused_stroke_replaceChar rfl rest.idle routed⟩

/-- The key after `r` is left to the host, whatever it means to a command, a count or a chord, and the
    character that it types takes the place of the one that was selected.  The text is saved before.  When
    the caret was put right the same position is selected in normal mode, and the register is as before. -/
theorem replacement_law {config : Config} (configured : s.engine.Configured config .standard)
    (valid : config.fault? = none) (unpassed : ∀ a, KeyCode.char a ∉ config.passthrough)
    (rest : s.focused.AtRest) (rope : s.widget.segmentation = .scalars) {c : Nat}
    (selected : s.widget.selection = ⟨c, c + 1⟩) (inside : c < s.widget.len) {r k : Stroke}
    (awaiting : r.event = .plain (.char 'r')) {y : Char} (typed : k.event.typed? = some y)
    (other : y ≠ lineBreak) {instants : List Nat}
    (late : ∃ now ∈ instants, k.now + config.replaceRepairDelay ≤ now) :
    let before := (s.stroke r).pollAt k.polls
    let t := (s.stroke r).stroke k
    let u := t.pollAt instants
    before.engine.router.route k.event k.now before.engine.activeField.modal =
        (.replace, before.engine.router) ∧
      ((before.setClock k.now).keyDown k.event).1 = ⟨false, none⟩ ∧
      t.widget.text = s.widget.text.set c y ∧
      t.engine.activeField.history.entries =
        (⟨c, s.widget.text⟩ :: s.engine.activeField.history.entries).take config.undoLimit ∧
      u.widget.text = t.widget.text ∧ u.widget.selection = ⟨c, c + 1⟩ ∧ u.engine.mode = .normal ∧
      u.engine.activeField.modal.replacing = false ∧ u.engine.register = s.engine.register := by
  intro before t u
  have stock := configured.stock unpassed
  have limit : s.focused.field.history.limit = config.undoLimit :=
    (configured.limit_eq s.engine.active).trans
      (Nat.max_eq_left (Config.fault?_eq_none_iff.mp valid).1)
  have delay : s.focused.config.replaceRepairDelay = config.replaceRepairDelay :=
    congrArg Config.replaceRepairDelay configured.config_eq
  obtain ⟨previous, seen⟩ := exists_focused_awaiting stock rest awaiting
  have awaits := Focused.awaits_awaiting stock rest previous
  have unmoved : before.engine = (s.stroke r).engine :=
    (pollAt_of_idle (congrArg Focused.timers seen |>.trans awaits.idle) k.polls).1
  have routed := route_awaited awaits typed
  rw [← seen] at routed
  have left := outcome_awaited seen awaits typed
  obtain ⟨text, entries⟩ := saved_stroke_awaited seen awaits typed rope selected inside
  obtain ⟨kept, repaired⟩ := pollAt_stroke_awaited seen awaits typed rope selected inside other
    (by rw [← delay] at late; exact late)
  refine ⟨by rw [unmoved]; exact routed, left, text, entries.trans ?_, kept.trans text.symm, repaired⟩
  exact congrArg (List.take · _) limit

/-- A shifted letter that is bound, after a count, with the timers run too early and then in time. -/
theorem replacement_law_of_bound_letter :
    let w : Widget := { segmentation := .scalars, text := ['a', 'b', 'c'], selection := ⟨1, 2⟩ }
    let s := (start .standard w []).stroke { now := 0, event := .plain (.char '3') }
    let r : Stroke := { now := 0, event := .plain (.char 'r') }
    let k : Stroke := { polls := [5], now := Time.ofMillis 30, event := ⟨.char 'd', { shift := true }⟩ }
    let t := (s.stroke r).stroke k
    let u := t.pollAt [Time.ofMillis 40, Time.ofMillis 90]
    s.engine.Configured {} .standard ∧ s.focused.AtRest ∧ s.engine.router.count = some 3 ∧
      t.widget.text = ['a', 'D', 'c'] ∧ t.widget.selection = ⟨2, 2⟩ ∧
      t.engine.activeField.history.entries = [⟨1, ['a', 'b', 'c']⟩] ∧ u.widget.selection = ⟨1, 2⟩ := by
  intro w s r k
  have configured : s.engine.Configured {} .standard :=
    configured_run {} .standard {} w [] [.setClock 0, .key (.plain (.char '3'))]
  have rest : s.focused.AtRest := ⟨rfl, rfl, rfl⟩
  have late : ∃ now ∈ [Time.ofMillis 40, Time.ofMillis 90], k.now + Time.ofMillis 50 ≤ now :=
    ⟨Time.ofMillis 90, by simp, by decide⟩
  obtain ⟨_, _, text, entries, _, selection, _⟩ :=
    replacement_law configured (by decide) (by simp) rest rfl rfl (by decide) (rfl : r.event = _)
      (rfl : k.event.typed? = some 'D') (by decide) late
  exact ⟨configured, rest, rfl, text, by decide, entries, selection⟩

end Session

end ModalEdit
