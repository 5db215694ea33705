import ModalEdit.Proofs.Engine.Fields
import ModalEdit.Proofs.Router.Run
import ModalEdit.Proofs.Session.Acts

/-! # The router in a session

An engine asks its router about every key, with the modal state of the focused field, and tells
it to forget when the focus moves.  Nothing else that a host does comes to the router.  So the
router of a session is the one that it began with, run on what it was told (`router_run`), and
what is known of runs of routers holds in a session.
-/

namespace ModalEdit

namespace Engine

/-- An engine with the same router and with the focus on the same field. -/
structure SameRouting (e e' : Engine) : Prop where
  router_eq : e'.router = e.router
  active_eq : e'.active = e.active

variable (e : Engine) (w : Widget)

theorem sameRouting_onField (f : FieldId) (command : Editor → Editor) :
    e.SameRouting (e.onField f w command).1 := ⟨rfl, rfl⟩

theorem sameRouting_enterInsert (now : Nat) : e.SameRouting (e.enterInsert w now).1 := by
  unfold enterInsert
  split
  · exact e.sameRouting_onField w _ _
  · exact ⟨rfl, rfl⟩

theorem sameRouting_follow (route : Route) (now : Nat) :
    e.SameRouting (e.follow w route now).2.1 := by
  cases route with
  | dispatch d =>
    rw [follow, perform_eq]
    split
    · obtain ⟨router_eq, active_eq⟩ := sameRouting_enterInsert
        (e.onField e.active w (·.perform d)).1 (e.onField e.active w (·.perform d)).2 now
      exact ⟨router_eq, active_eq⟩
    · exact e.sameRouting_onField w _ _
  | text => exact e.sameRouting_onField w _ _
  | escape => exact e.sameRouting_onField w _ _
  | replace => exact ⟨rfl, rfl⟩
  | passthrough | rejected | absorbed | unbound => exact ⟨rfl, rfl⟩

theorem sameRouting_click : e.SameRouting (e.click w).1 := by
  simp only [click]
  split
  · exact ⟨rfl, rfl⟩
  · exact ⟨rfl, rfl⟩

theorem sameRouting_fire (t : Timer) : e.SameRouting (e.fire w t).1 := by
  unfold fire
  split
  · exact ⟨rfl, rfl⟩
  · cases t.task with
    | enterInsert => exact e.sameRouting_onField w _ _
    | repairAfterReplace =>
      dsimp only
      split
      · exact e.sameRouting_onField w _ _
      · exact ⟨rfl, rfl⟩

theorem sameRouting_fireAll (due : List Timer) : e.SameRouting (e.fireAll w due).1 := by
  induction due generalizing e w with
  | nil => exact ⟨rfl, rfl⟩
  | cons t rest ih =>
    obtain ⟨router_eq, active_eq⟩ := e.sameRouting_fire w t
    obtain ⟨router_eq', active_eq'⟩ := ih (e.fire w t).1 (e.fire w t).2
    exact ⟨router_eq'.trans router_eq, active_eq'.trans active_eq⟩

theorem sameRouting_pollTimers (now : Nat) : e.SameRouting (e.pollTimers w now).2.1 := by
  obtain ⟨router_eq, active_eq⟩ := sameRouting_fireAll { e with timers := (e.timers.takeDue now).2 } w
    (e.timers.takeDue now).1
  exact ⟨router_eq, active_eq⟩

end Engine

namespace Session

/-- What the router is told in an act. -/
def routerInput? (s : Session) : HostAct → Option RouterInput
  | .key event => some (.press event s.now s.engine.activeField.modal)
  | .focus _ => some .reset
  | .type _ | .poll | .click | .useWidget _ | .setClock _ => none

def routerInputs (s : Session) : List HostAct → List RouterInput
  | [] => []
  | a :: acts => (s.routerInput? a).toList ++ routerInputs (s.act a) acts

theorem router_act (s : Session) (a : HostAct) :
    (s.act a).engine.router = s.engine.router.run (s.routerInput? a).toList := by
  cases a with
  | key event =>
    obtain ⟨e', down, router_eq, _⟩ := s.engine.exists_keyDown_eq_follow s.widget event s.now
    show (s.engine.keyDown s.widget event s.now).2.1.router = _
    rw [down, (e'.sameRouting_follow _ _ _).router_eq, router_eq]
    rfl
  | focus f => rfl
  | poll => exact (s.engine.sameRouting_pollTimers s.widget s.now).router_eq
  | click => exact (s.engine.sameRouting_click s.widget).router_eq
  | type event =>
    rw [act, type]
    split
    · rfl
    · rfl
  | useWidget _ => rfl
  | setClock _ => rfl

/-- The router of a session is the one that it began with, run on what it was told. -/
theorem router_run (s : Session) (acts : List HostAct) :
    (s.run acts).engine.router = s.engine.router.run (s.routerInputs acts) := by
  induction acts generalizing s with
  | nil => rfl
  | cons a acts ih => rw [run_cons, ih, router_act, routerInputs, Router.run_append]

end Session

end ModalEdit
