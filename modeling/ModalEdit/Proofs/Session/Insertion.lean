import Mathlib.Data.List.Induction
import ModalEdit.Proofs.Session.Escape
import ModalEdit.Proofs.Session.Strokes
import ModalEdit.Proofs.Widget.Rope

/-! # An insertion

The key `i` at a caret, and a text typed behind it.  Each character of the text is saved for undo before it
is typed, so that the history grows by as many texts as there are characters, and one command with that count
takes the insertion back (`insertion_law`).  What is typed may be anything: in insert mode a digit is no
count and a letter no command.

The typing itself is an induction on the text from its last character (`Typed.stroke`).  The escape key, which
may fill an empty line, and the digits of the count leave the history as it is.
-/

namespace ModalEdit

/-- The texts that are saved while `typed` is put in at the position `c`, the newest first, each with the
    position before the caret. -/
def snapshots (text : Text) (c : Nat) (typed : Text) : List UndoEntry :=
  ((List.range typed.length).map fun k =>
    ⟨c + k - 1, text.take c ++ typed.take k ++ text.drop c⟩).reverse

section Snapshots

variable (text : Text) (c : Nat) (typed : Text)

@[simp] theorem length_snapshots : (snapshots text c typed).length = typed.length := by
  simp [snapshots]

theorem snapshots_concat (a : Char) :
    snapshots text c (typed ++ [a]) =
      ⟨c + typed.length - 1, text.take c ++ typed ++ text.drop c⟩ :: snapshots text c typed := by
  -- Of the text that is typed, what was saved before the last character does not hold it.
  have older : ∀ k ∈ List.range typed.length, (typed ++ [a]).take k = typed.take k := by
    intro k member
    exact List.take_append_of_le_length (Nat.le_of_lt (List.mem_range.mp member))
  have last : (typed ++ [a]).take typed.length = typed := List.take_left
  rw [snapshots, List.length_append, List.length_singleton, List.range_succ, List.map_append,
    List.reverse_append, List.map_singleton, List.reverse_singleton, last]
  refine congrArg (_ :: ·) (congrArg List.reverse (List.map_congr_left fun k member => ?_))
  rw [older k member]

/-- The oldest of them is the text itself. -/
theorem getElem?_snapshots (nonempty : typed ≠ []) :
    (snapshots text c typed)[typed.length - 1]? = some ⟨c - 1, text⟩ := by
  have pos := List.length_pos_iff.mpr nonempty
  rw [snapshots, List.getElem?_reverse (by simp; omega)]
  simp [pos]

end Snapshots

/-- To save a text pushes out one that is too many. -/
theorem History.entries_record_of_take {h : History} {entries : List UndoEntry}
    (kept : h.entries = entries.take h.limit) (text : Text) (position : Nat) :
    (h.record text position).entries = (⟨position, text⟩ :: entries).take h.limit := by
  have pos := h.limit_pos
  obtain ⟨limit, same⟩ := Nat.exists_eq_add_one.mpr pos
  show (_ :: h.entries).take h.limit = _
  rw [kept, same, List.take_succ_cons, List.take_succ_cons, List.take_take]
  simp

/-- A history and a widget once a text was typed at the position `c` of another one. -/
structure Typed (old : History) (text : Text) (c : Nat) (typed : Text) (h : History) (v : Widget) : Prop where
  rope : v.segmentation = .scalars
  text_eq : v.text = text.take c ++ typed ++ text.drop c
  selection : v.selection = ⟨c + typed.length, c + typed.length⟩
  limit_eq : h.limit = old.limit
  entries_eq : h.entries = (snapshots text c typed ++ old.entries).take old.limit

namespace Typed

variable {old h : History} {text typed : Text} {c : Nat} {v : Widget}

theorem nil (rope : v.segmentation = .scalars) (same : v.text = text) (selection : v.selection = ⟨c, c⟩) :
    Typed h text c [] h v where
  rope := rope
  text_eq := by simp [same]
  selection := selection
  limit_eq := rfl
  entries_eq := (List.take_of_length_le h.length_le).symm

/-- One more character is saved before and typed after. -/
theorem type (before : Typed old text c typed h v) (inside : c ≤ text.length) (a : Char) :
    Typed old text c (typed ++ [a]) (h.record v.text (v.caret - 1)) (v.typeOver [a]) := by
  have shown : v.caret = c + typed.length := congrArg Selection.start before.selection
  have fits : c + typed.length ≤ v.len := by
    rw [Widget.len_of_scalars before.rope, before.text_eq]
    simp [inside]
  have front : (text.take c ++ typed).length = c + typed.length := by
    simp [inside]
  obtain ⟨rope, replaced, selection⟩ :=
    Widget.typeOver_of_scalars before.rope before.selection (Nat.le_refl _) fits [a]
  refine ⟨rope, ?_, ?_, before.limit_eq, ?_⟩
  · rw [replaced, before.text_eq, ← front, List.take_left, List.drop_left]
    simp
  · rw [selection, List.length_append, Nat.add_assoc]
  · have kept : h.entries = (snapshots text c typed ++ old.entries).take h.limit := by
      rw [before.limit_eq, before.entries_eq]
    rw [h.entries_record_of_take kept, before.limit_eq, snapshots_concat, shown, before.text_eq]
    rfl

end Typed

/-- What is seen once an insertion was begun. -/
def Focused.inserting (x : Focused) (previous : ChordMemory) : Focused :=
  { x with
    router := { x.router with previous := previous, count := none }
    timers := {} }.withModal (x.field.modal.switchMode .insert)

namespace Session

variable {s : Session}

/-! ## Typing -/

/-- Keys pressed in insert mode are typed, whatever they are. -/
theorem exists_focused_strokes_typed {x : Focused} (stock : x.router.Stock) (idle : x.timers = {})
    (inserting : x.field.modal.mode = .insert) {old : History} {text : Text} {c : Nat}
    (inside : c ≤ text.length) {sofar typed : Text} {h : History} {v : Widget}
    (seen : s.focused = x.edited h v) (before : Typed old text c sofar h v) {keys : List Stroke}
    (events : keys.map Stroke.event = typed.map fun a => .plain (.char a)) :
    ∃ h' v', (s.strokes keys).focused = x.edited h' v' ∧ Typed old text c (sofar ++ typed) h' v' := by
  -- On the characters still to come; `Typed` says what those before them have left.
  induction typed generalizing s sofar h v keys with
  | nil =>
    cases List.map_eq_nil_iff.mp events
    exact ⟨h, v, seen, sofar.append_nil.symm ▸ before⟩
  | cons a typed ih =>
    obtain ⟨k, keys, rfl, event, events⟩ := List.map_eq_cons_iff.mp events
    have commands : x.field.modal.mode.isCommandMode = false := by
      rw [inserting]
      rfl
    have routed : (x.edited h v).router.route k.event k.now (x.edited h v).field.modal =
        (.text, x.router) := by
      rw [event]
      exact stock.route_text rfl commands
    have stroked := focused_stroke_text seen idle routed (c := a) (by rw [event]; rfl)
    obtain ⟨h', v', seen', after⟩ := ih stroked (before.type inside a) events
    rw [List.append_assoc] at after
    exact ⟨h', v', seen', after⟩

section Insertion

variable (stock : s.focused.router.Stock) (rest : s.focused.AtRest) {enter : Stroke}
  (entering : enter.event = .plain (.char 'i')) (delayed : s.focused.config.modeSwitchDelay ≠ 0)
  {waits : List Nat} (entered : ∃ now ∈ waits, enter.now + s.focused.config.modeSwitchDelay ≤ now)

include stock rest entering delayed entered

/-- The insert key, and the timer that it waits for. -/
theorem exists_focused_inserting :
    ∃ previous, ((s.stroke enter).pollAt waits).focused =
      (s.focused.inserting previous).edited s.focused.field.history
        (s.widget.select s.widget.caret s.widget.caret) := by
  obtain ⟨previous, routed⟩ :=
    stock.route_command rest.commands rest.resting Router.single_i enter.now
  rw [← entering] at routed
  have pressed := focused_stroke_insert rfl rest.idle routed delayed
  refine ⟨previous, focused_pollAt_enterInsert pressed (tended_stroke rfl rest.idle enter) entered ?_⟩
  exact congrArg (fun timers : TimerQueue => timers.schedule _) rest.idle

theorem exists_focused_insertion (rope : s.widget.segmentation = .scalars)
    (inside : s.widget.caret ≤ s.widget.len) {keys : List Stroke} {typed : Text}
    (events : keys.map Stroke.event = typed.map fun a => .plain (.char a)) :
    ∃ previous h v,
      (((s.stroke enter).pollAt waits).strokes keys).focused =
          (s.focused.inserting previous).edited h v ∧
        Typed s.focused.field.history s.widget.text s.widget.caret typed h v := by
  obtain ⟨previous, opened⟩ := exists_focused_inserting stock rest entering delayed entered
  have collapsed : (s.widget.select s.widget.caret s.widget.caret).selection =
      ⟨s.widget.caret, s.widget.caret⟩ := by
    rw [Widget.selection_select, Selection.between, Nat.min_self, Nat.max_self, Nat.min_eq_left inside]
  have before : Typed s.focused.field.history s.widget.text s.widget.caret [] s.focused.field.history
      (s.widget.select s.widget.caret s.widget.caret) := .nil rope rfl collapsed
  rw [Widget.len_of_scalars rope] at inside
  have inserting := s.focused.field.modal.mode_switchMode .insert
  exact ⟨previous, exists_focused_strokes_typed (stock.withMemory previous none) rfl inserting inside
    opened before events⟩

end Insertion

/-! ## Undoing -/

/-- The digits of a number and the key that undoes bring back the text that was saved so many texts
    ago. -/
theorem text_strokes_undo (stock : s.focused.router.Stock) (rest : s.focused.AtRest)
    (uncounted : s.focused.router.count = none) {n : Nat} (pos : 0 < n) (small : n ≤ maxCount)
    {entry : UndoEntry} (saved : s.focused.field.history.entries[n - 1]? = some entry) {keys : List Stroke}
    (events : keys.map Stroke.event =
      (Nat.toDigits 10 n).map (fun c => .plain (.char c)) ++ [.plain (.char 'u')]) :
    (s.strokes keys).widget.text = entry.text := by
  obtain ⟨digits, last, rfl, before, final⟩ := List.map_eq_append_iff.mp events
  obtain ⟨k, rfl, event⟩ := List.map_eq_singleton_iff.mp final
  obtain ⟨previous, counted⟩ := exists_focused_strokes_numeral stock rest uncounted pos before
  rw [Nat.min_eq_left small] at counted
  have stock' := stock.withMemory previous (some n)
  obtain ⟨_, routed⟩ := stock'.route_command rest.commands rest.resting Router.single_u k.now
  rw [← event] at routed
  rw [strokes_append]
  refine text_stroke_undo counted rest.idle routed ?_
  have count : max (max 1 n) 1 = n := by omega
  rw [Option.getD_some, count]
  exact saved

section Escape

variable {x : Focused} (seen : s.focused = x) (idle : x.timers = {})
  (inserting : x.field.modal.mode = .insert) (resting : x.field.modal.replacing = false)
  (unpassed : KeyCode.esc ∉ x.router.passthrough) {escape : Stroke}
  (escaping : escape.event = .plain .esc)

include seen idle inserting resting unpassed escaping

/-- The escape key ends an insertion and leaves what was saved. -/
theorem atRest_stroke_esc :
    (s.stroke escape).focused.AtRest ∧ (s.stroke escape).focused.router = x.router.reset ∧
      (s.stroke escape).focused.field.history = x.field.history := by
  have free : ¬(x.field.modal.mode.isCommandMode = true ∧ x.field.modal.replacing = true) := by
    simp [resting]
  have decided := (Router.bypass?_esc unpassed Modifiers.none x.field.modal).trans (if_neg free)
  have routed : x.router.route escape.event escape.now x.field.modal = (.escape, x.router.reset) := by
    rw [escaping]
    exact Router.route_of_escape decided
  obtain ⟨v, pressed⟩ := exists_focused_stroke_escape seen idle routed (by rw [escaping]; rfl)
  rw [inserting, if_neg (by decide)] at pressed
  rw [pressed]
  have normal := x.field.modal.mode_switchMode .normal
  have still := (x.field.modal.replacing_switchMode .normal).trans resting
  exact ⟨⟨idle, normal, still⟩, rfl, rfl⟩

theorem text_strokes_undo_of_esc (stock : x.router.Stock) {n : Nat} (pos : 0 < n) (small : n ≤ maxCount)
    {entry : UndoEntry} (saved : x.field.history.entries[n - 1]? = some entry) {undoing : List Stroke}
    (events : undoing.map Stroke.event =
      (Nat.toDigits 10 n).map (fun c => .plain (.char c)) ++ [.plain (.char 'u')]) :
    ((s.stroke escape).strokes undoing).widget.text = entry.text := by
  -- The escape key may have filled a line, which was not saved, so that the numbering holds.
  obtain ⟨rest, router, history⟩ :=
    atRest_stroke_esc seen idle inserting resting unpassed escaping
  have stock' : (s.stroke escape).focused.router.Stock := router ▸ stock.withMemory none none
  have uncounted : (s.stroke escape).focused.router.count = none := router ▸ rfl
  exact text_strokes_undo stock' rest uncounted pos small (history ▸ saved) events

end Escape

/-! ## The law -/

/-- What is typed behind the insert key stands where the caret was, and each character of it was saved for
    by itself, whatever the characters mean to the other modes.  After the escape key so many steps of
    undoing bring back the text, whether the escape key has filled a line or not. -/
theorem insertion_law (configured : s.engine.Configured {} .standard) (rest : s.focused.AtRest)
    (rope : s.widget.segmentation = .scalars) (inside : s.widget.caret ≤ s.widget.len)
    {enter escape : Stroke} {waits : List Nat} {keys undoing : List Stroke} {typed : Text}
    (entering : enter.event = .plain (.char 'i'))
    (entered : ∃ now ∈ waits, enter.now + Time.ofMillis 100 ≤ now)
    (typing : keys.map Stroke.event = typed.map fun a => .plain (.char a))
    (nonempty : typed ≠ []) (few : typed.length ≤ 100)
    (escaping : escape.event = .plain .esc)
    (taking : undoing.map Stroke.event =
      (Nat.toDigits 10 typed.length).map (fun c => .plain (.char c)) ++ [.plain (.char 'u')]) :
    let c := s.widget.caret
    let t := ((s.stroke enter).pollAt waits).strokes keys
    t.widget.text = s.widget.text.take c ++ typed ++ s.widget.text.drop c ∧
      t.widget.selection = ⟨c + typed.length, c + typed.length⟩ ∧
      t.engine.activeField.history.entries =
        (snapshots s.widget.text c typed ++ s.engine.activeField.history.entries).take 100 ∧
      ((t.stroke escape).strokes undoing).widget.text = s.widget.text := by
  intro c t
  have stock : s.focused.router.Stock := configured.stock (by simp)
  have delay : s.focused.config.modeSwitchDelay = Time.ofMillis 100 :=
    congrArg Config.modeSwitchDelay configured.config_eq
  have limit : s.focused.field.history.limit = 100 := configured.limit_eq s.engine.active
  obtain ⟨previous, h, v, seen, after⟩ := exists_focused_insertion stock rest entering
    (by rw [delay]; decide) (by rw [delay]; exact entered) rope inside typing
  have entries : h.entries =
      (snapshots s.widget.text c typed ++ s.focused.field.history.entries).take 100 := by
    rw [after.entries_eq, limit]
  have shown : t.widget = v := congrArg Focused.widget seen
  refine ⟨shown ▸ after.text_eq, shown ▸ after.selection, ?_, ?_⟩
  · exact (congrArg (fun x : Focused => x.field.history.entries) seen).trans entries
  · -- The first text that was saved is the one to come back.
    have pos := List.length_pos_iff.mpr nonempty
    have saved : h.entries[typed.length - 1]? = some ⟨c - 1, s.widget.text⟩ := by
      rw [entries, List.getElem?_take_of_lt (by omega),
        List.getElem?_append_left (by rw [length_snapshots]; omega),
        getElem?_snapshots _ _ _ nonempty]
    have unpassed : KeyCode.esc ∉ s.focused.router.passthrough :=
      configured.passthrough_eq ▸ by decide
    have resting := (s.focused.field.modal.replacing_switchMode .insert).trans rest.resting
    exact text_strokes_undo_of_esc seen rfl (s.focused.field.modal.mode_switchMode .insert) resting
      unpassed escaping (stock.withMemory previous none) pos (Nat.le_trans few (by decide)) saved taking

/-- A digit and a line break at the end of a text.  The escape key fills the line that was begun. -/
theorem insertion_law_of_line_break :
    let w : Widget := { segmentation := .scalars, text := ['a', 'b'], selection := ⟨2, 2⟩ }
    let s := start .standard w []
    let enter : Stroke := { now := 0, event := .plain (.char 'i') }
    let keys : List Stroke :=
      [{ now := Time.ofMillis 150, event := .plain (.char '5') },
        { now := Time.ofMillis 140, event := .plain (.char '\n') }]
    let escape : Stroke := { now := Time.ofMillis 200, event := .plain .esc }
    let undoing : List Stroke :=
      [{ now := Time.ofMillis 250, event := .plain (.char '2') },
        { now := Time.ofMillis 300, event := .plain (.char 'u') }]
    let t := ((s.stroke enter).pollAt [0, Time.ofMillis 100]).strokes keys
    s.engine.Configured {} .standard ∧ s.focused.AtRest ∧ t.widget.text = ['a', 'b', '5', '\n'] ∧
      t.engine.activeField.history.entries = [⟨2, ['a', 'b', '5']⟩, ⟨1, ['a', 'b']⟩] ∧
      (t.stroke escape).widget.text = ['a', 'b', '5', '\n', ' '] ∧
      ((t.stroke escape).strokes undoing).widget.text = w.text := by
  intro w s enter keys escape undoing t
  have configured : s.engine.Configured {} .standard := configured_run {} .standard {} w [] []
  have rest : s.focused.AtRest := ⟨rfl, rfl, rfl⟩
  have entered : ∃ now ∈ [0, Time.ofMillis 100], enter.now + Time.ofMillis 100 ≤ now :=
    ⟨Time.ofMillis 100, by simp, by decide⟩
  have typing : keys.map Stroke.event = (['5', '\n'] : Text).map fun a => .plain (.char a) := rfl
  have taking : undoing.map Stroke.event =
      (Nat.toDigits 10 2).map (fun c => .plain (.char c)) ++ [.plain (.char 'u')] := by
    decide
  obtain ⟨text, _, entries, restored⟩ :=
    insertion_law configured rest rfl (by decide) rfl entered typing (by decide) (by decide)
      (rfl : escape.event = _) taking
  subst t
  exact ⟨configured, rest, text, entries.trans (by decide), by decide, restored⟩

end Session

end ModalEdit
