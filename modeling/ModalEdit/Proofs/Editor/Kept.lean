import ModalEdit.Editor.Run
import ModalEdit.Proofs.Editor.Repeated
import ModalEdit.Proofs.Widget.FilledLine

/-! # Relations that commands keep

A command is made of a few steps: it selects, moves the visual positions, fills an empty line,
changes the mode, writes to the register, inserts, cuts, or takes back a saved text.  Which steps it
takes depends on what it reads, and it reads neither the log nor how the text is cut beyond the
positions.  So a relation that makes two editors agree in what is read, and that each step keeps, is
kept by every command.

* `Alike`: two editors agree in all that a command reads.
* `KeptByMotions`, `KeptByModes`, `KeptByYanks`, `KeptByEdits`, `KeptByUndo`: a relation is kept by
  the steps of some commands; each of them has the steps of the one before and more.
* `KeptByModes.run`, `KeptByYanks.run`, `KeptByEdits.run`, `KeptByUndo.run`: the relation is kept by
  actions with any count.

An invariant of a single editor is the case of two equal editors.
-/

namespace ModalEdit.Editor

variable {d e : Editor}

/-! ## What commands read -/

/-- Two editors agree in all that a command reads. -/
structure Alike (d e : Editor) : Prop where
  modal : d.modal = e.modal
  units : d.widget.units = e.widget.units
  selection : d.widget.selection = e.widget.selection
  register : d.register = e.register
  history : d.history = e.history

namespace Alike

theorem refl (e : Editor) : Alike e e := ⟨rfl, rfl, rfl, rfl, rfl⟩

theorem inVisual (h : Alike d e) : d.inVisual = e.inVisual := by
  simp only [Editor.inVisual, h.modal]

theorem caret (h : Alike d e) : d.caret = e.caret := by
  simp only [Editor.caret, Widget.caret, h.selection]

theorem movingEnd (h : Alike d e) : d.movingEnd = e.movingEnd := by
  simp only [Editor.movingEnd, h.modal, h.inVisual, h.caret]

theorem anchorOr (h : Alike d e) (p : Nat) : d.anchorOr p = e.anchorOr p := by
  simp only [Editor.anchorOr, h.modal]

theorem len (h : Alike d e) : d.len = e.len := by
  simp only [Editor.len, Widget.len, h.units]

theorem chars (h : Alike d e) : d.chars = e.chars := by
  simp only [Editor.chars, Widget.chars, h.units]

theorem charAt? (h : Alike d e) (p : Nat) : d.charAt? p = e.charAt? p := by
  simp only [Editor.charAt?, Widget.charAt?, h.units]

theorem charBefore? (h : Alike d e) (p : Nat) : d.charBefore? p = e.charBefore? p := by
  cases p with
  | zero => rfl
  | succ p => exact h.charAt? p

theorem slice (h : Alike d e) (a b : Nat) : d.widget.slice a b = e.widget.slice a b := by
  simp only [Widget.slice, h.units]

theorem text (h : Alike d e) : d.widget.text = e.widget.text := by
  rw [← d.widget.slice_zero_len, ← e.widget.slice_zero_len, h.slice,
    show d.widget.len = e.widget.len from h.len]

theorem growsForward (h : Alike d e) : d.growsForward = e.growsForward := by
  simp only [Editor.growsForward, h.modal, h.inVisual]

theorem verticalColumn (h : Alike d e) (p : Nat) : d.verticalColumn p = e.verticalColumn p := by
  simp only [Editor.verticalColumn, h.chars, h.growsForward]

theorem yankLimit (h : Alike d e) (n : Nat) : d.yankLimit n = e.yankLimit n := by
  simp only [Editor.yankLimit, h.len]

theorem takeLine (h : Alike d e) : Editor.takeLine d.widget = Editor.takeLine e.widget := by
  funext pos
  cases pos with
  | none => rfl
  | some p => simp only [Editor.takeLine, h.slice, Widget.chars, h.units]

theorem pasteable? (h : Alike d e) : d.pasteable? = e.pasteable? := by
  simp only [Editor.pasteable?, h.register]

theorem unchanged {d' e' : Editor} (h : Alike d e) (h' : Alike d' e') :
    d.unchanged d' = e.unchanged e' := by
  simp only [Editor.unchanged, h.modal, h.selection, h.len, h.history, h'.modal, h'.selection,
    h'.len, h'.history]

end Alike

/-! ## Motions -/

/-- A relation that the steps of motions keep.  The visual positions move in visual mode only, and a
    space is put on empty lines only. -/
structure KeptByMotions (R : Editor → Editor → Prop) : Prop where
  alike : ∀ {d e}, R d e → Alike d e
  select : ∀ {d e}, R d e → ∀ a b, R (d.select a b) (e.select a b)
  withCursor : ∀ {d e}, R d e → d.inVisual = true → ∀ p, R (d.withCursor p) (e.withCursor p)
  withAnchor : ∀ {d e}, R d e → d.inVisual = true → ∀ p, R (d.withAnchor p) (e.withAnchor p)
  fillLine : ∀ {d e}, R d e → ∀ {p}, e.chars.EmptyLine p → R (d.fillLine p) (e.fillLine p)

@[simp] theorem inVisual_withCursor (e : Editor) (p : Nat) :
    (e.withCursor p).inVisual = e.inVisual := rfl
@[simp] theorem inVisual_withAnchor (e : Editor) (p : Nat) :
    (e.withAnchor p).inVisual = e.inVisual := rfl
@[simp] theorem inVisual_fillLine (e : Editor) (p : Nat) :
    (e.fillLine p).inVisual = e.inVisual := rfl

/-- A line that begins with a line break is empty. -/
theorem emptyLine_of_charAt? {p : Nat} (first : e.chars.lineStart p = p)
    (atBreak : e.charAt? p = some lineBreak) : e.chars.EmptyLine p := by
  rw [charAt?, Widget.charAt?_eq] at atBreak
  exact Text.emptyLine_of_getElem? first atBreak

namespace KeptByMotions

variable {R : Editor → Editor → Prop} (k : KeptByMotions R)

include k

theorem times {command : Editor → Editor} (kept : ∀ {d e}, R d e → R (command d) (command e))
    (count : Nat) (h : R d e) : R (d.times count command) (e.times count command) := by
  unfold Editor.times
  generalize max count 1 = n
  induction n generalizing d e with
  | zero => exact h
  | succ n ih =>
    -- What is compared to see whether to stop is the same on both sides.
    have h' := kept h
    simp only [whileChanging, (k.alike h).unchanged (k.alike h')]
    split
    · exact h'
    · exact ih h'

theorem nextCharNormal (h : R d e) : R d.nextCharNormal e.nextCharNormal := by
  have a := k.alike h
  simp only [Editor.nextCharNormal, a.movingEnd, a.charAt?]
  cases e.charAt? (e.movingEnd + 1) with
  | none => exact h
  | some c =>
    dsimp only
    split
    · exact h
    · exact k.select h _ _

theorem nextCharVisual (h : R d e) (visual : d.inVisual = true) :
    R d.nextCharVisual e.nextCharVisual := by
  have a := k.alike h
  simp only [Editor.nextCharVisual, a.movingEnd, a.charAt?, a.len, a.anchorOr, a.caret]
  split
  · exact h
  · split
    · exact k.select (k.withCursor h visual _) _ _
    · split
      · exact k.select (k.withCursor (k.withAnchor h visual _) visual _) _ _
      · exact k.select (k.withCursor h visual _) _ _

theorem nextChar (h : R d e) : R d.nextChar e.nextChar := by
  unfold Editor.nextChar
  rw [← (k.alike h).inVisual]
  split
  · next visual => exact k.nextCharVisual h visual
  · exact k.nextCharNormal h

theorem prevCharVisual (h : R d e) (visual : d.inVisual = true) :
    R d.prevCharVisual e.prevCharVisual := by
  have a := k.alike h
  simp only [Editor.prevCharVisual, a.movingEnd, a.charAt?, a.anchorOr, a.selection]
  split
  · exact h
  · split
    · exact k.select (k.withCursor (k.withAnchor h visual _) visual _) _ _
    · split
      · exact k.select (k.withCursor (k.withAnchor h visual _) visual _) _ _
      · split
        · exact k.select (k.withCursor h visual _) _ _
        · split
          · exact k.select (k.withCursor h visual _) _ _
          · exact k.select (k.withCursor h visual _) _ _

theorem prevChar (h : R d e) : R d.prevChar e.prevChar := by
  have a := k.alike h
  simp only [Editor.prevChar, a.movingEnd, a.charBefore?, ← a.inVisual]
  split
  · exact h
  · split
    · next visual => exact k.prevCharVisual h visual
    · split
      · exact k.select h _ _
      · exact h

theorem nextLineVisual (h : R d e) (visual : d.inVisual = true) {next : Nat}
    (first : e.chars.lineStart next = next) (pos target : Nat) :
    R (d.nextLineVisual pos next target) (e.nextLineVisual pos next target) := by
  have a := k.alike h
  simp only [Editor.nextLineVisual, a.charAt?, a.anchorOr]
  generalize (if target < e.anchorOr pos then target - 1 else target) = target'
  split
  · next atBreak =>
    have filled :=
      k.fillLine (k.withCursor h visual (target' + 1)) (emptyLine_of_charAt? first atBreak)
    split
    · exact k.select (k.withAnchor filled visual _) _ _
    · exact k.select filled _ _
  · exact k.select (k.withCursor h visual _) _ _

theorem nextLine (h : R d e) : R d.nextLine e.nextLine := by
  have a := k.alike h
  simp only [Editor.nextLine, a.movingEnd, a.chars, a.verticalColumn, a.len, a.charAt?,
    ← a.inVisual]
  cases below : e.chars.nextLineStart? e.movingEnd with
  | none => exact h
  | some next =>
    have first := Text.lineStart_nextLineStart? below
    dsimp only
    split
    · exact h
    · split
      · next visual => exact k.nextLineVisual h visual first _ _
      · split
        · next atBreak => exact k.fillLine (k.select h _ _) (emptyLine_of_charAt? first atBreak)
        · exact k.select h _ _

theorem prevLineVisual (h : R d e) (visual : d.inVisual = true) (pos target : Nat) :
    R (d.prevLineVisual pos target) (e.prevLineVisual pos target) := by
  have a := k.alike h
  simp only [Editor.prevLineVisual, a.charBefore?, a.anchorOr]
  exact k.select (k.withCursor h visual _) _ _

theorem prevLine (h : R d e) : R d.prevLine e.prevLine := by
  have a := k.alike h
  simp only [Editor.prevLine, a.movingEnd, a.chars, a.verticalColumn, ← a.inVisual]
  cases above : e.chars.prevLineStart? e.movingEnd with
  | none => exact h
  | some first =>
    cases e.chars.prevLineEnd? e.movingEnd with
    | none => exact h
    | some last =>
      dsimp only
      split
      · next visual => exact k.prevLineVisual h visual _ _
      · have selected := k.select h (first + min (e.verticalColumn e.movingEnd) (last - first) - 1)
          (first + min (e.verticalColumn e.movingEnd) (last - first))
        rw [(k.alike selected).charAt?]
        split
        · next atBreak =>
          exact k.fillLine selected
            (emptyLine_of_charAt? (Text.lineStart_prevLineStart? above) atBreak)
        · exact selected

theorem toLineHead (h : R d e) : R d.toLineHead e.toLineHead := by
  have a := k.alike h
  simp only [Editor.toLineHead, a.inVisual, a.movingEnd, a.chars, a.caret]
  split
  · exact repeat_related k.prevChar _ h
  · exact k.select h _ _

theorem toLineTail (h : R d e) : R d.toLineTail e.toLineTail := by
  have a := k.alike h
  simp only [Editor.toLineTail, a.inVisual, a.movingEnd, a.chars, a.caret]
  split
  · exact repeat_related k.nextChar _ h
  · exact k.select h _ _

theorem toFirstLine (h : R d e) : R d.toFirstLine e.toFirstLine := by
  have a := k.alike h
  simp only [Editor.toFirstLine, ← a.inVisual, a.anchorOr]
  split
  · next visual => exact k.select (k.withCursor h visual _) _ _
  · exact k.select h _ _

theorem toLastLine (h : R d e) : R d.toLastLine e.toLastLine := by
  have a := k.alike h
  simp only [Editor.toLastLine, ← a.inVisual, a.anchorOr, a.chars, a.len]
  split
  · next visual => exact k.select (k.withCursor h visual _) _ _
  · exact k.select h _ _

theorem toNextWord (h : R d e) : R d.toNextWord e.toNextWord := by
  have a := k.alike h
  simp only [Editor.toNextWord, a.movingEnd, a.chars, ← a.inVisual, a.anchorOr]
  cases e.chars.nextWord? e.movingEnd with
  | none => exact h
  | some word =>
    dsimp only
    split
    · next visual => exact k.select (k.withCursor h visual _) _ _
    · exact k.select h _ _

theorem run (h : R d e) {action : Action} (motion : action ∈ Action.motions) (count : Nat) :
    R (d.run action count) (e.run action count) := by
  cases action with
  | selectNextChar => exact k.times k.nextChar count h
  | selectPrevChar => exact k.times k.prevChar count h
  | selectNextLine => exact k.times k.nextLine count h
  | selectPrevLine => exact k.times k.prevLine count h
  | nextWord => exact k.times k.toNextWord count h
  | lineHead => exact k.toLineHead h
  | lineTail => exact k.toLineTail h
  | firstLine => exact k.toFirstLine h
  | lastLine => exact k.toLastLine h
  | _ => exact absurd motion (by decide)

end KeptByMotions

/-! ## Changing modes -/

/-- The actions that edit the text. -/
def edits : List Action :=
  [.undo, .openLineBelow, .openLineAbove, .pasteAfter, .pasteBefore, .deleteSelection, .deleteLine,
    .deleteWord, .deleteCharOrLine]

/-- The actions that yank without an edit. -/
def copies : List Action := [.copySelection, .copyLine, .copyWord]

/-- A relation that the steps of mode changes keep as well. -/
structure KeptByModes (R : Editor → Editor → Prop) : Prop extends KeptByMotions R where
  toNormalMode : ∀ {d e}, R d e → R (d.switchMode .normal) (e.switchMode .normal)
  beginVisual : ∀ {d e}, R d e → ∀ p, R (d.beginVisual p) (e.beginVisual p)
  awaitReplacement : ∀ {d e}, R d e → R d.awaitReplacement e.awaitReplacement

namespace KeptByModes

variable {R : Editor → Editor → Prop} (k : KeptByModes R)

include k

/-- The end of the way to normal mode from the beginning of a line. -/
theorem settle (h : R d e) (pos : Nat) :
    R (if d.nextChar.prevChar.chars.lineLength pos = 1 then d.nextChar.prevChar.select pos (pos + 1)
        else d.nextChar.prevChar)
      (if e.nextChar.prevChar.chars.lineLength pos = 1 then e.nextChar.prevChar.select pos (pos + 1)
        else e.nextChar.prevChar) := by
  have moved := k.toKeptByMotions.prevChar (k.toKeptByMotions.nextChar h)
  rw [(k.alike moved).chars]
  split
  · exact k.select moved _ _
  · exact moved

theorem toNormal (h : R d e) : R d.toNormal e.toNormal := by
  have motion := k.toKeptByMotions
  -- All that follows reads the editor that is in normal mode already.
  have normal := k.toNormalMode h
  have a := k.alike normal
  simp only [Editor.toNormal, (k.alike h).modal, a.caret, a.chars]
  split
  · exact h
  · split
    · split
      · exact motion.prevChar (motion.nextChar normal)
      · exact motion.prevChar normal
    · next first =>
      split
      · next empty =>
        have head := (Decidable.not_not.mp first).symm
        exact k.settle (k.fillLine normal ⟨head, empty⟩) _
      · exact k.settle normal _

theorem placeCaret (h : R d e) : R d.placeCaret e.placeCaret := by
  have normal := k.toNormalMode h
  have a := k.alike normal
  simp only [Editor.placeCaret, a.caret, a.chars, a.charAt?]
  split
  · next empty => exact k.select (k.fillLine normal ⟨empty.1.symm, empty.2⟩) _ _
  · cases (e.switchMode .normal).charAt? (e.switchMode .normal).caret with
    | none => exact k.select normal _ _
    | some c =>
      dsimp only
      split
      · exact k.select normal _ _
      · exact k.select normal _ _

theorem confirmVisual (h : R d e) : R d.confirmVisual e.confirmVisual := by
  have a := k.alike h
  simp only [Editor.confirmVisual, a.modal, a.caret, a.charBefore?]
  apply k.toNormalMode
  cases e.modal.cursor with
  | none => exact k.select h _ _
  | some cursor =>
    dsimp only
    split
    · exact k.select h _ _
    · exact k.select h _ _

theorem toggleVisual (h : R d e) : R d.toggleVisual e.toggleVisual := by
  have a := k.alike h
  simp only [Editor.toggleVisual, a.inVisual, a.caret]
  split
  · exact k.confirmVisual h
  · exact k.beginVisual h _

theorem append (h : R d e) : R d.append e.append := by
  simp only [Editor.append, (k.alike h).caret]
  exact k.select h _ _

theorem insert (h : R d e) : R d.insert e.insert := by
  simp only [Editor.insert, (k.alike h).caret]
  exact k.select h _ _

theorem run (h : R d e) {action : Action} (quiet : action ∉ edits) (uncopied : action ∉ copies)
    (count : Nat) : R (d.run action count) (e.run action count) := by
  have motion := k.toKeptByMotions
  cases action with
  | selectNextChar | selectPrevChar | selectNextLine | selectPrevLine | nextWord
  | lineHead | lineTail | firstLine | lastLine => exact motion.run h (by decide) count
  | append => exact k.append h
  | appendAtLineTail => exact k.append (motion.toLineTail h)
  | insert => exact k.insert h
  | insertAtLineHead => exact k.insert (motion.toLineHead h)
  | replaceChar => exact k.awaitReplacement h
  | toggleVisual => exact k.toggleVisual h
  | copySelection | copyLine | copyWord => exact absurd (by decide) uncopied
  | undo | openLineBelow | openLineAbove => exact absurd (by decide) quiet
  | pasteAfter | pasteBefore => exact absurd (by decide) quiet
  | deleteSelection | deleteLine | deleteWord | deleteCharOrLine => exact absurd (by decide) quiet

end KeptByModes

/-! ## Yanking -/

theorem dropFinalBreak_subset (cs : Text) : dropFinalBreak cs ⊆ cs := by
  unfold dropFinalBreak
  split
  · exact cs.dropLast_subset
  · exact List.Subset.refl cs

/-- A relation that the steps of yanking keep as well.  What is yanked satisfies `A`. -/
structure KeptByYanks (A : Text → Prop) (R : Editor → Editor → Prop) : Prop
    extends KeptByModes R where
  slice : ∀ {d e}, R d e → ∀ a b, A (d.widget.slice a b)
  append_of : ∀ {cs ds}, A cs → A ds → A (cs ++ ds)
  dropFinalBreak : ∀ {cs}, A cs → A (dropFinalBreak cs)
  write : ∀ {d e}, R d e → ∀ {cs}, A cs → ∀ lineWise, R (d.write cs lineWise) (e.write cs lineWise)

/-- Two results of a yanking step: the same yield, which satisfies `A`, and related states. -/
structure SameYield {σ τ : Type} (A : Text → Prop) (R : σ → τ → Prop)
    (x : Option Text × σ) (y : Option Text × τ) : Prop where
  yield : x.1 = y.1
  allowed : ∀ cs, x.1 = some cs → A cs
  state : R x.2 y.2

theorem SameYield.of_none {σ τ : Type} {A : Text → Prop} {R : σ → τ → Prop} {s : σ} {t : τ}
    (state : R s t) : SameYield A R (none, s) (none, t) where
  yield := rfl
  allowed _ nothing := by cases nothing
  state := state

theorem SameYield.gather {σ τ : Type} {A : Text → Prop} {R : σ → τ → Prop}
    {f : σ → Option Text × σ} {g : τ → Option Text × τ}
    (append_of : ∀ {cs ds}, A cs → A ds → A (cs ++ ds))
    (step : ∀ {s t}, R s t → SameYield A R (f s) (g t)) (n : Nat) {s : σ} {t : τ} (h : R s t) :
    SameYield A R (gather f n s) (gather g n t) := by
  induction n generalizing s t with
  | zero => exact .of_none h
  | succ n ih =>
    -- Both sides yield the same, so they stop together.
    obtain ⟨yield, allowed, state⟩ := step h
    cases yielded : (f s).1 with
    | none =>
      rw [gather_succ_of_none yielded, gather_succ_of_none (yield.symm.trans yielded)]
      exact .of_none state
    | some piece =>
      rw [gather_succ_of_some yielded, gather_succ_of_some (yield.symm.trans yielded)]
      obtain ⟨yield', allowed', state'⟩ := ih state
      have first := allowed piece yielded
      refine ⟨?_, ?_, state'⟩
      · simp only [yield']
      · rintro cs ⟨⟩
        cases hrest : (Editor.gather f n (f s).2).1 with
        | none => simpa using first
        | some rest => exact append_of first (allowed' rest hrest)

namespace KeptByYanks

variable {A : Text → Prop} {R : Editor → Editor → Prop} (k : KeptByYanks A R)

include k

theorem yank (h : R d e) {gathered : Option Text} (allowed : ∀ cs, gathered = some cs → A cs)
    (lineWise : Bool) : R (d.yank gathered lineWise) (e.yank gathered lineWise) := by
  cases gathered with
  | none => exact h
  | some cs => exact k.write h (k.dropFinalBreak (allowed cs rfl)) lineWise

theorem copySelection (h : R d e) : R d.copySelection e.copySelection := by
  have a := k.alike h
  simp only [Editor.copySelection, Widget.selectedText, ← a.selection, ← a.slice]
  exact k.toKeptByModes.toNormal (k.write h (k.slice h _ _) false)

theorem copyLines (h : R d e) (count : Nat) : R (d.copyLines count) (e.copyLines count) := by
  have a := k.alike h
  simp only [Editor.copyLines, ← a.takeLine, ← a.yankLimit, ← a.caret]
  -- The widgets stay as they are: the states of this loop are positions.
  have line : ∀ {s t : Option Nat}, s = t →
      SameYield A Eq (takeLine d.widget s) (takeLine d.widget t) := by
    rintro s _ rfl
    refine ⟨rfl, ?_, rfl⟩
    intro cs hcs
    cases s with
    | none => nomatch hcs
    | some pos =>
      cases hcs
      exact k.slice h _ _
  exact k.yank h (SameYield.gather k.append_of line _ rfl).allowed true

theorem copyWords (h : R d e) (count : Nat) : R (d.copyWords count) (e.copyWords count) := by
  have a := k.alike h
  simp only [Editor.copyWords, ← a.caret, ← a.chars, ← a.slice]
  split
  · exact h
  · exact k.write h (k.slice h _ _) false

theorem run (h : R d e) {action : Action} (quiet : action ∉ edits) (count : Nat) :
    R (d.run action count) (e.run action count) := by
  by_cases copying : action ∈ copies
  · simp only [copies, List.mem_cons, List.not_mem_nil, or_false] at copying
    rcases copying with rfl | rfl | rfl
    · exact k.copySelection h
    · exact k.copyLines h count
    · exact k.copyWords h count
  · exact k.toKeptByModes.run h quiet copying count

end KeptByYanks

/-! ## Editing -/

/-- The texts that hold a new line open, below and above. -/
def openings : List Text := [[lineBreak, ' '], [' ', lineBreak]]

/-- The texts that pasting `cs` can insert. -/
def pasted (cs : Text) : List Text := [cs, lineBreak :: cs, cs ++ [lineBreak]]

/-- A relation that the steps of edits keep as well. -/
structure KeptByEdits (A : Text → Prop) (R : Editor → Editor → Prop) : Prop
    extends KeptByYanks A R where
  openLine : ∀ {d e}, R d e → ∀ cs ∈ openings, ∀ p,
    R (d.insertText cs p .whole) (e.insertText cs p .whole)
  cut : ∀ {d e}, R d e → ∀ a b, R (d.cut a b).2 (e.cut a b).2
  paste : ∀ {d e}, R d e → ∀ {cs}, d.register.text? = some cs → ∀ ds ∈ pasted cs, ∀ p placement,
    R (d.insertText ds p placement) (e.insertText ds p placement)

namespace KeptByEdits

variable {A : Text → Prop} {R : Editor → Editor → Prop} (k : KeptByEdits A R)

include k

theorem openBelow (h : R d e) : R d.openBelow e.openBelow := by
  have a := k.alike h
  simp only [Editor.openBelow, a.caret, a.chars]
  exact k.select (k.openLine h _ (by simp [openings]) _) _ _

theorem openAbove (h : R d e) : R d.openAbove e.openAbove := by
  have a := k.alike h
  simp only [Editor.openAbove, a.caret, a.chars]
  exact k.select (k.openLine h _ (by simp [openings]) _) _ _

theorem sameCut (h : R d e) (a b : Nat) : SameYield A R (d.cut a b) (e.cut a b) := by
  have same := k.alike h
  refine ⟨?_, ?_, k.cut h a b⟩
  · simp only [Editor.cut, Widget.cut, same.slice, show d.widget.len = e.widget.len from same.len]
    split
    · rfl
    · rfl
  · intro cs hcs
    simp only [Editor.cut, Widget.cut] at hcs
    split at hcs
    · nomatch hcs
    · cases hcs
      exact k.slice h _ _

theorem selectAfter {x y : Option Text × Editor} (h : SameYield A R x y) (a b : Nat) :
    SameYield A R (x.1, x.2.select a b) (y.1, y.2.select a b) :=
  ⟨h.yield, h.allowed, k.select h.state a b⟩

theorem cutSelection (h : R d e) : SameYield A R d.cutSelection e.cutSelection := by
  simp only [Editor.cutSelection, (k.alike h).selection]
  exact k.selectAfter (k.sameCut h _ _) _ _

theorem cutLine (h : R d e) : SameYield A R d.cutLine e.cutLine := by
  have a := k.alike h
  simp only [Editor.cutLine, a.caret, a.chars]
  exact k.selectAfter (k.sameCut h _ _) _ _

theorem cutWord (h : R d e) : SameYield A R d.cutWord e.cutWord := by
  have a := k.alike h
  simp only [Editor.cutWord, a.caret, a.chars]
  cases e.chars.nextWord? e.caret with
  | none => exact .of_none h
  | some next => exact k.selectAfter (k.sameCut h _ _) _ _

theorem collect {step : Editor → Option Text × Editor}
    (kept : ∀ {d e}, R d e → SameYield A R (step d) (step e)) (count : Nat) (lineWise : Bool)
    (h : R d e) : R (d.collect count lineWise step) (e.collect count lineWise step) := by
  obtain ⟨yield, allowed, state⟩ := SameYield.gather k.append_of kept (e.yankLimit count) h
  simp only [Editor.collect, (k.alike h).yankLimit, ← yield]
  exact k.yank state allowed lineWise

theorem deleteSelection (h : R d e) (count : Nat) :
    R (d.deleteSelection count) (e.deleteSelection count) :=
  k.toKeptByModes.toNormal (k.collect k.cutSelection count false h)

theorem deleteCharBefore (h : R d e) : R d.deleteCharBefore e.deleteCharBefore := by
  simp only [Editor.deleteCharBefore, (k.alike h).caret]
  cases e.caret with
  | zero => exact h
  | succ before =>
    obtain ⟨yield, allowed, state⟩ := k.sameCut h before (before + 1)
    have selected := k.select state before (before + 1)
    simp only [← yield]
    cases hcut : (d.cut before (before + 1)).1 with
    | none => exact selected
    | some cs => exact k.write selected (allowed cs hcut) false

theorem deleteCharOrLine (h : R d e) : R d.deleteCharOrLine e.deleteCharOrLine := by
  simp only [Editor.deleteCharOrLine, (k.alike h).inVisual]
  apply k.toNormalMode
  split
  · exact k.collect k.cutLine 1 true h
  · exact k.deleteCharBefore h

theorem pasteAfter (h : R d e) : R d.pasteAfter e.pasteAfter := by
  have a := k.alike h
  simp only [Editor.pasteAfter, ← a.pasteable?, a.register, a.caret, a.chars]
  cases hpaste : d.pasteable? with
  | none => exact h
  | some cs =>
    have text : d.register.text? = some cs := (Option.filter_eq_some_iff.mp hpaste).1
    dsimp only
    split
    · exact k.paste h text _ (by simp [pasted]) _ _
    · exact k.paste h text _ (by simp [pasted]) _ _

theorem pasteBefore (h : R d e) : R d.pasteBefore e.pasteBefore := by
  have a := k.alike h
  simp only [Editor.pasteBefore, ← a.pasteable?, a.register, a.caret, a.chars]
  cases hpaste : d.pasteable? with
  | none => exact h
  | some cs =>
    have text : d.register.text? = some cs := (Option.filter_eq_some_iff.mp hpaste).1
    dsimp only
    split
    · exact k.paste h text _ (by simp [pasted]) _ _
    · exact k.paste h text _ (by simp [pasted]) _ _

/-! ## Every action -/

theorem run (h : R d e) {action : Action} (ne : action ≠ .undo) (count : Nat) :
    R (d.run action count) (e.run action count) := by
  by_cases editing : action ∈ edits
  · simp only [edits, List.mem_cons, List.not_mem_nil, or_false] at editing
    rcases editing with rfl | rfl | rfl | rfl | rfl | rfl | rfl | rfl | rfl
    · exact absurd rfl ne
    · exact k.openBelow h
    · exact k.openAbove h
    · exact k.pasteAfter h
    · exact k.pasteBefore h
    · exact k.deleteSelection h count
    · exact k.collect k.cutLine count true h
    · exact k.collect k.cutWord count false h
    · exact k.deleteCharOrLine h
  · exact k.toKeptByYanks.run h editing count

end KeptByEdits

structure KeptByUndo (A : Text → Prop) (R : Editor → Editor → Prop) : Prop
    extends KeptByEdits A R where
  undo : ∀ {d e}, R d e → R d.undo e.undo

theorem KeptByUndo.run {A : Text → Prop} {R : Editor → Editor → Prop} (k : KeptByUndo A R)
    (h : R d e) (action : Action) (count : Nat) : R (d.run action count) (e.run action count) := by
  by_cases undoing : action = .undo
  · subst undoing
    exact k.toKeptByMotions.times k.undo count h
  · exact k.toKeptByEdits.run h undoing count

end ModalEdit.Editor
