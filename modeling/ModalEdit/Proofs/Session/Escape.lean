import ModalEdit.Proofs.Editor.Resting
import ModalEdit.Proofs.Session.Modals
import ModalEdit.Proofs.Session.Routing

/-! # The escape key

What the escape key does in every state that a host can bring about (`escape_law`).  It leads back
to normal mode, drops what is left of a visual selection, a count and a chord half typed, with one
exception: where keys are commands and the next one replaces a character, the escape key is that
one.  In insert mode it is not, although a character may have been left to replace when insert mode
was entered; that is then still so in normal mode.
-/

namespace ModalEdit

/-! ## Commands -/

namespace Editor

variable (e : Editor)

/-- A motion does not touch the flag that a character is to be replaced. -/
theorem replacing_kept (b : Bool) : KeptByMotions (Keeps (·.replacing = b)) where
  alike same := same.1 ▸ .refl _
  select same _ _ := ⟨same.1 ▸ rfl, same.2⟩
  withCursor same _ _ := ⟨same.1 ▸ rfl, same.2⟩
  withAnchor same _ _ := ⟨same.1 ▸ rfl, same.2⟩
  fillLine same _ _ := ⟨same.1 ▸ rfl, same.2⟩

theorem replacing_prevChar : e.prevChar.modal.replacing = e.modal.replacing :=
  ((replacing_kept e.modal.replacing).prevChar ⟨rfl, rfl⟩).2

end Editor

/-! ## Engines -/

namespace Engine

variable (e : Engine) (w : Widget)

theorem modal_onField_self (command : Editor → Editor) :
    (e.onField e.active w command).1.activeField.modal = (command (e.editor e.active w)).modal := by
  show ((e.onField e.active w command).1.fieldOrNew e.active).modal = _
  rw [onField, fieldOrNew_adopt_self]

theorem modal_follow_escape (now : Nat) :
    (e.follow w .escape now).2.1.activeField.modal =
      if e.activeField.modal.mode = .normal then e.activeField.modal
      else e.activeField.modal.switchMode .normal := by
  rw [follow, modal_onField_self, Editor.modal_toNormal]
  rfl

theorem modal_follow_replace (now : Nat) :
    (e.follow w .replace now).2.1.activeField.modal =
      { e.activeField.modal with replacing := false } :=
  e.modal_onField_self w Editor.beforeReplacing

/-- Only a command makes a character wait for its replacement. -/
theorem replacing_follow {route : Route} (uncommanded : ∀ d, route ≠ .dispatch d) (now : Nat)
    (replacing : (e.follow w route now).2.1.activeField.modal.replacing = true) :
    e.activeField.modal.replacing = true := by
  cases route with
  | passthrough | rejected | absorbed | unbound => exact replacing
  | text =>
    rw [follow_text, modal_onField_self] at replacing
    exact replacing
  | replace =>
    rw [modal_follow_replace] at replacing
    cases replacing
  | escape =>
    rw [modal_follow_escape] at replacing
    split at replacing
    · exact replacing
    · rwa [ModalState.replacing_switchMode] at replacing
  | dispatch d => exact absurd rfl (uncommanded d)

theorem replacing_click (g : FieldId) :
    ((e.click w).1.fieldOrNew g).modal.replacing = (e.fieldOrNew g).modal.replacing := by
  apply e.observe_click g (·.modal.replacing) w
  intro d
  show d.placeCaret.modal.replacing = d.modal.replacing
  rw [Editor.modal_placeCaret, ModalState.replacing_switchMode]

theorem replacing_fireAll (due : List Timer) (g : FieldId) :
    ((e.fireAll w due).1.fieldOrNew g).modal.replacing = (e.fieldOrNew g).modal.replacing := by
  apply e.observe_fireAll g (·.modal.replacing) w
  · intro d
    show (d.switchMode .insert).modal.replacing = d.modal.replacing
    rw [Editor.modal_switchMode, ModalState.replacing_switchMode]
  · exact Editor.replacing_prevChar

/-! ## No count while a character waits -/

/-- No count is pending while a character of the focused field waits to be replaced. -/
def Uncounted (e : Engine) : Prop :=
  e.activeField.modal.replacing = true → e.router.count = none

variable {e w}

theorem Uncounted.of_sameRouting {e' : Engine} (h : e.Uncounted) (same : e.SameRouting e')
    (kept : ∀ g, (e'.fieldOrNew g).modal.replacing = (e.fieldOrNew g).modal.replacing) :
    e'.Uncounted := by
  intro replacing
  rw [activeField, same.active_eq, kept] at replacing
  rw [same.router_eq]
  exact h replacing

theorem Uncounted.keyDown (h : e.Uncounted) (event : KeyEvent) (now : Nat) :
    (e.keyDown w event now).2.1.Uncounted := by
  obtain ⟨e', down, router_eq, active_eq, _, field_eq⟩ := e.exists_keyDown_eq_follow w event now
  obtain ⟨route, r', routed, routes⟩ := e.router.exists_routes event now e.activeField.modal
  rw [routed] at down router_eq
  intro replacing
  rw [down] at replacing ⊢
  rw [(e'.sameRouting_follow w route now).router_eq, router_eq]
  -- A command takes the count when it makes a character wait, so only the other routes are left.
  have before : (∀ d, route ≠ .dispatch d) → e.activeField.modal.replacing = true := by
    intro uncommanded
    have waits := e'.replacing_follow w uncommanded now replacing
    rwa [activeField, active_eq, field_eq] at waits
  cases routes with
  | aside _ beside =>
    apply h
    apply before
    rintro d rfl
    simp [Router.aside] at beside
  | escape _ => rfl
  | reaches undecided follows =>
    have resting := (Router.commands_of_reaches undecided).2
    cases follows with
    | digit _ =>
      rw [before (by rintro d ⟨⟩)] at resting
      cases resting
    | opening _ _ =>
      rw [before (by rintro d ⟨⟩)] at resting
      cases resting
    | openingCommand _ _ _ => rfl
    | unbound _ _ => rfl
    | command _ _ _ => rfl

end Engine

namespace Session

theorem uncounted_act {s : Session} (h : s.engine.Uncounted) (a : HostAct) :
    (s.act a).engine.Uncounted := by
  cases a with
  | key event => exact h.keyDown event s.now
  | focus f => exact fun _ => rfl
  | poll =>
    exact h.of_sameRouting (s.engine.sameRouting_pollTimers s.widget s.now)
      (Engine.replacing_fireAll _ s.widget _)
  | click =>
    exact h.of_sameRouting (s.engine.sameRouting_click s.widget)
      (s.engine.replacing_click s.widget)
  | type event =>
    rw [act, type]
    split
    · exact h
    · exact h
  | useWidget _ => exact h
  | setClock _ => exact h

theorem uncounted_run {s : Session} (h : s.engine.Uncounted) (acts : List HostAct) :
    (s.run acts).engine.Uncounted := by
  induction acts generalizing s with
  | nil => exact h
  | cons a acts ih => exact ih (uncounted_act h a)

end Session

/-! ## The law -/

theorem Router.bypass?_esc {r : Router} (notPassed : KeyCode.esc ∉ r.passthrough)
    (mods : Modifiers) (state : ModalState) :
    r.bypass? ⟨.esc, mods⟩ state =
      if state.mode.isCommandMode = true ∧ state.replacing = true then some .replace
      else some .escape := by
  cases commands : state.mode.isCommandMode with
  | false => simp [bypass?, notPassed, commands]
  | true =>
    cases replacing : state.replacing with
    | false => simp [bypass?, notPassed, commands, replacing]
    | true => simp [bypass?, notPassed, commands, replacing]

namespace Engine

variable {e : Engine} {w : Widget} (notPassed : KeyCode.esc ∉ e.router.passthrough)
  (mods : Modifiers) (now : Nat)

include notPassed

theorem keyDown_esc_of_escape
    (taken : ¬(e.activeField.modal.mode.isCommandMode = true ∧
      e.activeField.modal.replacing = true)) :
    let after := (e.keyDown w ⟨.esc, mods⟩ now).2.1
    after.router = e.router.reset ∧
      after.activeField.modal =
        if e.activeField.modal.mode = .normal then e.activeField.modal
        else e.activeField.modal.switchMode .normal := by
  obtain ⟨e', down, router_eq, active_eq, _, field_eq⟩ :=
    e.exists_keyDown_eq_follow w ⟨.esc, mods⟩ now
  have routed : e.router.route ⟨.esc, mods⟩ now e.activeField.modal = (.escape, e.router.reset) := by
    apply Router.route_of_escape
    exact (Router.bypass?_esc notPassed mods _).trans (if_neg taken)
  have same : e'.activeField = e.activeField := by rw [activeField, active_eq, field_eq, activeField]
  rw [routed] at down router_eq
  rw [down]
  dsimp only
  rw [(e'.sameRouting_follow w .escape now).router_eq, modal_follow_escape, same]
  exact ⟨router_eq, rfl⟩

theorem keyDown_esc_of_replace (commands : e.activeField.modal.mode.isCommandMode = true)
    (replacing : e.activeField.modal.replacing = true) :
    let after := (e.keyDown w ⟨.esc, mods⟩ now).2.1
    after.router = e.router ∧
      after.activeField.modal = { e.activeField.modal with replacing := false } := by
  obtain ⟨e', down, router_eq, active_eq, _, field_eq⟩ :=
    e.exists_keyDown_eq_follow w ⟨.esc, mods⟩ now
  have routed : e.router.route ⟨.esc, mods⟩ now e.activeField.modal = (.replace, e.router) := by
    apply Router.route_of_aside _ (by simp [Router.aside])
    exact (Router.bypass?_esc notPassed mods _).trans (if_pos ⟨commands, replacing⟩)
  have same : e'.activeField = e.activeField := by rw [activeField, active_eq, field_eq, activeField]
  rw [routed] at down router_eq
  rw [down]
  dsimp only
  rw [(e'.sameRouting_follow w .replace now).router_eq, modal_follow_replace, same]
  exact ⟨router_eq, rfl⟩

end Engine

namespace Session

/-- The settings of an engine leave the escape key to it, and so does its router at any time. -/
theorem esc_not_passed {engine : Engine} (built : engine.Built) (first : Widget)
    (others : List Widget) (acts : List HostAct) :
    KeyCode.esc ∉ ((start engine first others).run acts).engine.router.passthrough := by
  obtain ⟨config, keymap, register, faultless, rfl⟩ := built.eq_assemble
  rw [router_run, Router.passthrough_run]
  show KeyCode.esc ∉ config.passthrough
  have kept := (Config.fault?_eq_none_iff.mp faultless).2
  simpa [Config.passesThrough] using kept

/-- In normal mode nothing is left to drop but the flag, and from the other modes nothing but the
    flag is left. -/
theorem modal_after_escape {m : ModalState} (tidy : m.Tidy) :
    (if m.mode = .normal then m else m.switchMode .normal) = { replacing := m.replacing } := by
  split
  · next normal =>
    obtain ⟨anchor, cursor⟩ := tidy.ends (by rw [normal]; nofun)
    obtain ⟨mode, _, _, _⟩ := m
    cases normal
    cases anchor
    cases cursor
    rfl
  · exact m.switchMode_of_ne_visual (by decide)

/-- In every state that a host can bring about, the escape key leads to normal mode with nothing
    left of a selection, a count and a chord, unless it is taken for the key that replaces a
    character.  Then that is all it does.  In insert mode it is not taken for that key, but does not
    drop the flag either. -/
theorem escape_law {engine : Engine} (built : engine.Built) (first : Widget)
    (others : List Widget) (acts : List HostAct) (mods : Modifiers) :
    let s := (start engine first others).run acts
    let before := s.engine.activeField.modal
    let after := (s.act (.key ⟨.esc, mods⟩)).engine
    (before.mode = .insert ∨ before.replacing = false →
      after.activeField.modal = { replacing := before.replacing } ∧
        after.router.count = none ∧ after.router.previous = none) ∧
    (before.mode ≠ .insert → before.replacing = true →
      after.activeField.modal = { before with replacing := false } ∧
        after.router.count = none ∧ after.router.previous = s.engine.router.previous) := by
  intro s before after
  have notPassed := esc_not_passed built first others acts
  have tidy : before.Tidy := ModalState.tidy_laws.run built first others acts _
  have uncounted : s.engine.Uncounted := by
    apply uncounted_run
    obtain ⟨config, keymap, register, _, rfl⟩ := built.eq_assemble
    exact fun _ => rfl
  have pressed : after = (s.engine.keyDown s.widget ⟨.esc, mods⟩ s.now).2.1 := rfl
  refine ⟨fun free => ?_, fun other replacing => ?_⟩
  · -- In insert mode the flag may be set as well, but keys are no commands there.
    have taken : ¬(before.mode.isCommandMode = true ∧ before.replacing = true) := by
      rintro ⟨commands, replacing⟩
      rcases free with insert | resting
      · rw [insert] at commands
        cases commands
      · cases replacing.symm.trans resting
    obtain ⟨router, modal⟩ :=
      Engine.keyDown_esc_of_escape (w := s.widget) notPassed mods s.now taken
    rw [pressed, router, modal, modal_after_escape tidy]
    exact ⟨rfl, rfl, rfl⟩
  · have commands : before.mode.isCommandMode = true := by
      cases mode : before.mode with
      | normal => rfl
      | insert => exact absurd mode other
      | visual => rfl
      | command => exact absurd mode tidy.mode_ne
    obtain ⟨router, modal⟩ :=
      Engine.keyDown_esc_of_replace (w := s.widget) notPassed mods s.now commands replacing
    rw [pressed, router, modal]
    exact ⟨rfl, uncounted replacing, rfl⟩

/-- Visual mode is not left with the escape key while a character waits to be replaced. -/
theorem escape_law_of_visual_replacement :
    let w : Widget := { segmentation := .scalars, text := ['a', 'b', 'c'], selection := ⟨0, 1⟩ }
    let acts : List HostAct := [.key (.plain (.char 'v')), .key (.plain (.char 'r'))]
    let s := (start .standard w []).run acts
    let after := (s.act (.key ⟨.esc, .none⟩)).engine
    s.engine.activeField.modal.mode ≠ .insert ∧ s.engine.activeField.modal.replacing = true ∧
      after.activeField.modal = { mode := .visual, anchor := some 0 } ∧
      after.router.previous = some (.char 'r', 0) := by
  intro w acts
  dsimp only
  have visual : ((start .standard w []).run acts).engine.activeField.modal =
      ⟨.visual, some 0, none, true⟩ := by
    decide
  have remembered : ((start .standard w []).run acts).engine.router.previous =
      some (.char 'r', 0) := by
    decide
  have law := (escape_law (.inl rfl) w [] acts .none).2
  rw [visual, remembered] at law
  rw [visual]
  obtain ⟨modal, _, previous⟩ := law nofun rfl
  exact ⟨nofun, rfl, modal, previous⟩

/-- So the escape key does not always lead to a normal mode at rest. -/
theorem not_always_at_rest_after_escape :
    ¬∀ (engine : Engine) (_ : engine.Built) (first : Widget) (others : List Widget)
        (acts : List HostAct) (mods : Modifiers),
      let after := (((start engine first others).run acts).act (.key ⟨.esc, mods⟩)).engine
      after.activeField.modal = {} ∧ after.router.count = none ∧
        after.router.previous = none := by
  intro law
  have visual := (law .standard (.inl rfl)
    { segmentation := .scalars, text := ['a', 'b', 'c'], selection := ⟨0, 1⟩ } []
    [.key (.plain (.char 'v')), .key (.plain (.char 'r'))] .none).1
  revert visual
  decide

end Session

end ModalEdit
