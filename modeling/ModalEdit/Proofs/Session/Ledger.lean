import ModalEdit.Proofs.Engine.History
import ModalEdit.Proofs.Session.Acts

/-! # The ledger of a field

A history forgets its oldest entries.  A ledger forgets nothing: it takes in every text that is
saved for a field, and gives back the newest one whenever a step of undoing takes an entry from
the history.  What the history holds is then the newest part of the ledger, and all of it as long
as no entry had to be forgotten (`tracks_ledger`).

The ledger is kept by looking on: it reads from each act how the key was routed, which text the
current widget shows just before, and how many entries there are to take back.
-/

namespace ModalEdit

/-! ## Ledgers -/

/-- The texts that were saved and not taken back, the newest first. -/
structure Ledger where
  texts : List Text := []
  /-- The history had to forget an entry. -/
  evicted : Bool := false

namespace Ledger

/-- Takes in a text.  A full history forgets an entry for it. -/
def save (g : Ledger) (cs : Text) (full : Bool) : Ledger := ⟨cs :: g.texts, g.evicted || full⟩

def takeBack (g : Ledger) (n : Nat) : Ledger := { g with texts := g.texts.drop n }

end Ledger

namespace History

def texts (h : History) : List Text := h.entries.map UndoEntry.text

@[simp] theorem length_texts (h : History) : h.texts.length = h.size := by simp [texts, size]

theorem texts_record (h : History) (cs : Text) (p : Nat) :
    (h.record cs p).texts = (cs :: h.texts).take h.limit := by
  simp [texts, record, List.map_take]

/-- The texts in a history are the newest ones of a ledger, and all of them if none was
    forgotten. -/
structure Tracks (h : History) (g : Ledger) : Prop where
  newest : h.texts <+: g.texts
  whole : g.evicted = false → h.texts = g.texts

namespace Tracks

variable {h h' : History} {g : Ledger}

theorem save (tracks : h.Tracks g) (cs : Text) (p : Nat) :
    (h.record cs p).Tracks (g.save cs (h.size == h.limit)) := by
  refine ⟨?_, ?_⟩
  · rw [texts_record]
    exact (List.take_prefix _ _).trans (List.cons_prefix_cons.mpr ⟨rfl, tracks.newest⟩)
  · intro kept
    simp only [Ledger.save, Bool.or_eq_false_iff, beq_eq_false_iff_ne] at kept
    -- No entry was forgotten for it, so there was room for one more.
    have room : (cs :: h.texts).length ≤ h.limit := by
      have bounded : h.size ≤ h.limit := h.length_le
      rw [List.length_cons, length_texts]
      omega
    rw [texts_record, List.take_of_length_le room, tracks.whole kept.1, Ledger.save]

/-- Asking for more than there is takes back what there is. -/
theorem takeBack (tracks : h.Tracks g) {n : Nat} (taken : h'.texts = h.texts.drop n) :
    h'.Tracks (g.takeBack (min n h.size)) := by
  obtain ⟨⟨forgotten, joined⟩, whole⟩ := tracks
  have same : h.texts.drop n = h.texts.drop (min n h.size) := by
    rw [← length_texts, ← List.drop_eq_drop_min]
  refine ⟨?_, ?_⟩
  · rw [taken, same, Ledger.takeBack, ← joined,
      List.drop_append_of_le_length (by rw [length_texts]; omega)]
    exact List.prefix_append _ _
  · intro kept
    rw [taken, same, whole kept, Ledger.takeBack]

end Tracks

end History

/-! ## Looking on -/

namespace Session

variable (s : Session) (f : FieldId)

/-- How the key of an act is routed, if it is pressed on the field. -/
def route? : HostAct → Option Route
  | .key event => if s.engine.active = f then some (s.engine.route event s.now).1 else none
  | .type _ | .poll | .click | .focus _ | .useWidget _ | .setClock _ => none

def saves (a : HostAct) : Bool := (s.route? f a).any Route.saves

def undoSteps (a : HostAct) : Nat := (s.route? f a).elim 0 Route.undoSteps

/-- The history of the field when an act comes to undoing. -/
def savedHistory (a : HostAct) : History :=
  if s.saves f a then (s.engine.historyOf f).record s.widget.text s.widget.caret
  else s.engine.historyOf f

/-- How many steps of undoing take an entry from the history. -/
def pops (a : HostAct) : Nat := min (s.undoSteps f a) (s.savedHistory f a).size

/-- What an act enters into the ledger of the field. -/
def enter (g : Ledger) (a : HostAct) : Ledger :=
  let h := s.engine.historyOf f
  let g := if s.saves f a then g.save s.widget.text (h.size == h.limit) else g
  g.takeBack (s.pops f a)

def ledger (s : Session) (g : Ledger) : List HostAct → Ledger
  | [] => g
  | a :: acts => ledger (s.act a) (s.enter f g a) acts

/-! ## What an act changes -/

theorem changes_act (a : HostAct) :
    History.Changes (s.saves f a) (s.undoSteps f a) s.widget.text (s.engine.historyOf f)
      ((s.act a).engine.historyOf f) := by
  cases a with
  | key event =>
    by_cases focused : s.engine.active = f
    · subst focused
      simp only [saves, undoSteps, route?]
      exact s.engine.changes_keyDown s.widget event s.now
    · simp only [saves, undoSteps, route?, if_neg focused]
      exact .of_eq (s.engine.historyOf_keyDown_of_ne s.widget event s.now (Ne.symm focused))
  | type event =>
    refine .of_eq ?_
    simp only [act, type]
    cases event.typed? with
    | none => rfl
    | some c => rfl
  | poll => exact .of_eq (s.engine.historyOf_pollTimers f s.widget s.now)
  | click => exact .of_eq (s.engine.historyOf_click f s.widget)
  | focus g => exact .of_eq (s.engine.historyOf_focusChanged g f)
  | useWidget i => exact .of_eq rfl
  | setClock now => exact .of_eq rfl

theorem text_act_of_undo {a : HostAct} {cs : Text} (unsaved : s.saves f a = false)
    (undoing : 0 < s.undoSteps f a)
    (deep : (s.engine.historyOf f).texts[s.undoSteps f a - 1]? = some cs) :
    (s.act a).widget.text = cs := by
  cases a with
  | key event =>
    by_cases focused : s.engine.active = f
    · subst focused
      simp only [saves, undoSteps, route?, if_true, Option.any_some, Option.elim_some]
        at unsaved undoing deep
      rw [History.texts, List.getElem?_map, Option.map_eq_some_iff] at deep
      obtain ⟨entry, saved, rfl⟩ := deep
      rw [act, keyDown, widget_withState]
      exact s.engine.text_keyDown_of_undo s.widget unsaved undoing saved
    · simp [undoSteps, route?, if_neg focused] at undoing
  | type _ | poll | click | focus _ | useWidget _ | setClock _ =>
    exact absurd undoing (Nat.lt_irrefl 0)

theorem texts_act (a : HostAct) :
    ((s.act a).engine.historyOf f).texts =
      (s.savedHistory f a).texts.drop (s.undoSteps f a) := by
  obtain ⟨_, p, entries⟩ := s.changes_act f a
  rw [History.texts, entries, List.map_drop, ← History.texts, savedHistory]
  cases s.saves f a with
  | false => rfl
  | true => exact congrArg (List.drop _) ((History.texts_record _ _ _).trans
      (History.texts_record _ _ _).symm)

theorem limit_act (a : HostAct) :
    ((s.act a).engine.historyOf f).limit = (s.engine.historyOf f).limit :=
  (s.changes_act f a).limit_eq

/-! ## The ledger of a run -/

variable {s f}

theorem tracks_act {g : Ledger} (tracks : (s.engine.historyOf f).Tracks g) (a : HostAct) :
    ((s.act a).engine.historyOf f).Tracks (s.enter f g a) := by
  -- First the text is saved, if it is, and then steps are taken back from what that gives.
  have saved : (s.savedHistory f a).Tracks (if s.saves f a then
      g.save s.widget.text ((s.engine.historyOf f).size == (s.engine.historyOf f).limit)
      else g) := by
    rw [savedHistory]
    split
    · exact tracks.save _ _
    · exact tracks
  exact saved.takeBack (s.texts_act f a)

theorem tracks_ledger {g : Ledger} (tracks : (s.engine.historyOf f).Tracks g)
    (acts : List HostAct) : ((s.run acts).engine.historyOf f).Tracks (s.ledger f g acts) := by
  induction acts generalizing s g with
  | nil => exact tracks
  | cons a acts ih => exact ih (tracks_act tracks a)

theorem limit_run (acts : List HostAct) :
    ((s.run acts).engine.historyOf f).limit = (s.engine.historyOf f).limit := by
  induction acts generalizing s with
  | nil => rfl
  | cons a acts ih => rw [run_cons, ih, limit_act]

end Session

end ModalEdit
