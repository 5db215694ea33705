import ModalEdit.Proofs.Editor.Yanking
import ModalEdit.Proofs.Engine.History
import ModalEdit.Proofs.Session.Acts

/-! # The register of a session

All fields share one register.  In the course of a session it changes by keys only, and only by
keys that are bound to an action that yanks.  Such a key writes one text at most, together with
whether it is to be pasted as whole lines, so what is found in the register is always the work of
the last key that wrote (`register_law`).
-/

namespace ModalEdit

namespace Engine

variable (e : Engine) (w : Widget)

/-- The register once a command has put `cs` into it. -/
def written (d : Dispatch) (cs : Text) : Register :=
  ⟨e.register.clipboard.put cs, Editor.yanksLines d.action (e.mode == .visual)⟩

/-! ## Keys -/

theorem register_enterInsert (now : Nat) : (e.enterInsert w now).1.register = e.register := by
  unfold enterInsert
  split
  · exact Editor.register_switchMode _ _
  · rfl

/-- A text that is saved before the command changes neither the register nor the mode. -/
theorem prepared_eq (d : Dispatch) :
    let prepared := (e.editor e.active w).prepared d
    prepared.register = e.register ∧ prepared.inVisual = (e.mode == .visual) := by
  unfold Editor.prepared
  split
  · exact ⟨rfl, rfl⟩
  · exact ⟨rfl, rfl⟩

theorem register_perform (d : Dispatch) (now : Nat) :
    (e.perform w d now).1.register = e.register ∨
      d.action ∈ Editor.yanks ∧ ∃ cs, (e.perform w d now).1.register = e.written d cs := by
  obtain ⟨register, visual⟩ := e.prepared_eq w d
  have performed : (e.perform w d now).1.register =
      (((e.editor e.active w).prepared d).run d.action d.count).register := by
    rw [perform_eq]
    split
    · exact register_enterInsert _ _ now
    · rfl
  rw [performed]
  by_cases yanking : d.action ∈ Editor.yanks
  · have taken := Editor.takes_run yanking d.count ((e.editor e.active w).prepared d)
    rw [Editor.Takes, register, visual] at taken
    exact taken.imp_right fun wrote => ⟨yanking, wrote⟩
  · rw [Editor.register_run_of_not_mem_yanks yanking]
    exact .inl register

theorem register_follow (route : Route) (now : Nat) :
    (e.follow w route now).2.1.register = e.register ∨
      ∃ d cs, route = .dispatch d ∧ d.action ∈ Editor.yanks ∧
        (e.follow w route now).2.1.register = e.written d cs := by
  cases route with
  | dispatch d =>
    cases e.register_perform w d now with
    | inl still => exact .inl still
    | inr wrote =>
      obtain ⟨yanking, cs, written⟩ := wrote
      exact .inr ⟨d, cs, rfl, yanking, written⟩
  | escape => exact .inl (Editor.register_toNormal _)
  | passthrough | text | replace | rejected | absorbed | unbound => exact .inl rfl

theorem register_keyDown (event : KeyEvent) (now : Nat) :
    (e.keyDown w event now).2.1.register = e.register ∨
      ∃ d cs, (e.route event now).1 = .dispatch d ∧ d.action ∈ Editor.yanks ∧
        (e.keyDown w event now).2.1.register = e.written d cs := by
  obtain ⟨e', down, _, active, register, field⟩ := e.exists_keyDown_eq_follow w event now
  have same (d : Dispatch) (cs : Text) : e'.written d cs = e.written d cs := by
    rw [written, written, register, mode, mode, fieldMode, fieldMode, active, field]
  rw [down, ← register]
  simp only [← same]
  exact e'.register_follow w _ now

/-! ## Other reports -/

theorem register_click : (e.click w).1.register = e.register := by
  simp only [click]
  split
  · exact Editor.register_placeCaret _
  · rfl

theorem register_fire (t : Timer) : (e.fire w t).1.register = e.register := by
  unfold fire
  split
  · rfl
  · cases t.task with
    | enterInsert => exact Editor.register_switchMode _ _
    | repairAfterReplace =>
      dsimp only
      split
      · exact Editor.register_prevChar _
      · rfl

theorem register_fireAll (due : List Timer) : (e.fireAll w due).1.register = e.register := by
  induction due generalizing e w with
  | nil => rfl
  | cons t rest ih => rw [fireAll, ih, register_fire]

end Engine

namespace Session

variable {s : Session}

/-- The command that an act gives: the one that the key is bound to. -/
def dispatch? (s : Session) : HostAct → Option Dispatch
  | .key event => (s.engine.route event s.now).1.dispatch?
  | .type _ | .poll | .click | .focus _ | .useWidget _ | .setClock _ => none

/-- An act leaves the register alone, both the text and how it is to be pasted. -/
def Silent (s : Session) (a : HostAct) : Prop := (s.act a).engine.register = s.engine.register

/-- None of the acts does anything to the register. -/
def Quiet (s : Session) : List HostAct → Prop
  | [] => True
  | a :: acts => s.Silent a ∧ (s.act a).Quiet acts

/-- An act gives a command that yanks, and it writes one text, `cs`. -/
structure Yanks (s : Session) (a : HostAct) (d : Dispatch) (cs : Text) : Prop where
  dispatched : s.dispatch? a = some d
  yanking : d.action ∈ Editor.yanks
  writes : ∃ writes, s.engine.register.clipboard = .recording writes ∧
    (s.act a).engine.register.clipboard = .recording (writes ++ [cs])
  lineWise : (s.act a).engine.register.lineWise =
    Editor.yanksLines d.action (s.engine.mode == .visual)

/-! ## What an act does to the register -/

theorem yanks_or_silent {writes : List Text}
    (recording : s.engine.register.clipboard = .recording writes) (a : HostAct) :
    s.Silent a ∨ ∃ d cs, s.Yanks a d cs := by
  cases a with
  | key event =>
    cases s.engine.register_keyDown s.widget event s.now with
    | inl still => exact .inl still
    | inr wrote =>
      obtain ⟨d, cs, routed, yanking, written⟩ := wrote
      have register : (s.act (.key event)).engine.register = s.engine.written d cs := written
      refine .inr ⟨d, cs, ?_, yanking, ⟨writes, recording, ?_⟩, ?_⟩
      · rw [dispatch?, routed, Route.dispatch?]
      · rw [register, Engine.written, recording, Clipboard.put]
      · rw [register, Engine.written]
  | type event =>
    rw [Silent, act, type]
    left
    split
    · rfl
    · rfl
  | poll => exact .inl (Engine.register_fireAll _ _ _)
  | click => exact .inl (s.engine.register_click s.widget)
  | focus _ | useWidget _ | setClock _ => exact .inl rfl

theorem recording_run {writes : List Text}
    (recording : s.engine.register.clipboard = .recording writes) (acts : List HostAct) :
    ∃ writes', (s.run acts).engine.register.clipboard = .recording writes' := by
  induction acts generalizing s writes with
  | nil => exact ⟨writes, recording⟩
  | cons a acts ih =>
    cases yanks_or_silent recording a with
    | inl still => exact ih ((congrArg Register.clipboard still).trans recording)
    | inr wrote =>
      obtain ⟨_, _, yank⟩ := wrote
      obtain ⟨_, _, written⟩ := yank.writes
      exact ih written

theorem register_run_of_quiet {acts : List HostAct} (quiet : s.Quiet acts) :
    (s.run acts).engine.register = s.engine.register := by
  induction acts generalizing s with
  | nil => rfl
  | cons a acts ih => exact (ih quiet.2).trans quiet.1

/-! ## The last act that wrote -/

/-- In a run the act `a`, between `before` and `after`, is the last one to write, and what it writes
    is what the register holds in the end. -/
structure LastYank (s : Session) (before : List HostAct) (a : HostAct) (after : List HostAct)
    (d : Dispatch) (cs : Text) : Prop where
  yanks : (s.run before).Yanks a d cs
  quiet : ((s.run before).act a).Quiet after
  text : (s.run (before ++ a :: after)).engine.register.text? = some cs
  lineWise : (s.run (before ++ a :: after)).engine.register.lineWise =
    Editor.yanksLines d.action ((s.run before).engine.mode == .visual)

theorem lastYank_of_quiet {a : HostAct} {d : Dispatch} {cs : Text} {after : List HostAct}
    (yank : s.Yanks a d cs) (quiet : (s.act a).Quiet after) : s.LastYank [] a after d cs := by
  have still : (s.run ([] ++ a :: after)).engine.register = (s.act a).engine.register :=
    register_run_of_quiet quiet
  obtain ⟨writes, _, written⟩ := yank.writes
  refine ⟨yank, quiet, ?_, ?_⟩
  · rw [still, Register.text?, written, Clipboard.get?, List.getLast?_concat]
  · rw [still, yank.lineWise]
    rfl

theorem quiet_or_lastYank {writes : List Text}
    (recording : s.engine.register.clipboard = .recording writes) (acts : List HostAct) :
    s.Quiet acts ∨
      ∃ before a after d cs, acts = before ++ a :: after ∧ s.LastYank before a after d cs := by
  induction acts generalizing s writes with
  | nil => exact .inl trivial
  | cons a acts ih =>
    obtain ⟨_, recording'⟩ := recording_run recording [a]
    cases ih recording' with
    | inr later =>
      obtain ⟨before, b, after, d, cs, rfl, last⟩ := later
      exact .inr ⟨a :: before, b, after, d, cs, rfl, last.yanks, last.quiet, last.text,
        last.lineWise⟩
    | inl quiet =>
      cases yanks_or_silent recording a with
      | inl still => exact .inl ⟨still, quiet⟩
      | inr wrote =>
        obtain ⟨d, cs, yank⟩ := wrote
        exact .inr ⟨[], a, acts, d, cs, rfl, lastYank_of_quiet yank quiet⟩

/-! ## The law -/

/-- At any time an act either leaves the register alone or gives a command that yanks and writes one
    text, and what the register holds was there from the beginning or is the work of the last act
    that wrote. -/
theorem register_law {writes : List Text}
    (recording : s.engine.register.clipboard = .recording writes) (acts : List HostAct) :
    (∀ a, (s.run acts).Silent a ∨ ∃ d cs, (s.run acts).Yanks a d cs) ∧
      (s.Quiet acts ∧ (s.run acts).engine.register = s.engine.register ∨
        ∃ before a after d cs, acts = before ++ a :: after ∧ s.LastYank before a after d cs) := by
  obtain ⟨_, recording'⟩ := recording_run recording acts
  refine ⟨yanks_or_silent recording', ?_⟩
  exact (quiet_or_lastYank recording acts).imp_left fun quiet =>
    ⟨quiet, register_run_of_quiet quiet⟩

/-- A line is deleted, and the motion that follows leaves what was written. -/
theorem register_law_of_deleted_line :
    let s := start (.assemble {} .standard { clipboard := .recording [] })
      (.ofText .scalars ['a', lineBreak, 'b']) []
    let acts : List HostAct :=
      [.key (.plain (.char 'd')), .key (.plain (.char 'd')), .key (.plain (.char 'l'))]
    s.engine.register.clipboard = .recording [] ∧
      ∃ before a after d, acts = before ++ a :: after ∧ s.LastYank before a after d ['a'] := by
  intro s acts
  have recording : s.engine.register.clipboard = .recording [] := rfl
  have held : (s.run acts).engine.register.text? = some ['a'] := by decide
  refine ⟨recording, ?_⟩
  cases (register_law recording acts).2 with
  | inl quiet =>
    rw [quiet.2] at held
    cases held
  | inr last =>
    obtain ⟨before, a, after, d, cs, split, last⟩ := last
    have text := last.text
    rw [← split, held] at text
    cases text
    exact ⟨before, a, after, d, split, last⟩

end Session

end ModalEdit
