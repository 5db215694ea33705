import ModalEdit.Proofs.Editor.LineYank
import ModalEdit.Proofs.Widget.LineEnding

/-! # Yanking one line

A yank takes the line of the caret with what ends it, and leaves out the last character if that is a
line break.  A line break that is a position of two characters loses only the second one: the carriage
return goes into the register with the line (`yanked_line_law`).
-/

namespace ModalEdit.Editor

variable {e : Editor}

theorem dropFinalBreak_append_lineEnding {line ending : Text} (whole : lineBreak ∉ line)
    (ends : LineEnding ending) :
    dropFinalBreak (line ++ ending) =
      if ending = ['\r', lineBreak] then line ++ ['\r'] else line := by
  cases ends with
  | textEnd =>
    rw [List.append_nil, if_neg (List.cons_ne_nil _ _).symm]
    exact dropFinalBreak_of_not_mem whole
  | lineFeed =>
    rw [if_neg (by decide)]
    exact dropFinalBreak_concat line
  | crossing =>
    rw [if_pos rfl, List.append_cons]
    exact dropFinalBreak_concat (line ++ ['\r'])

theorem copyLines_one (e : Editor) :
    e.copyLines 1 =
      e.write (dropFinalBreak (e.widget.line e.caret ++ e.widget.lineEnding e.caret)) true := by
  have once : e.yankLimit 1 = 0 + 1 := by
    have room : 1 ≤ maxCount := by decide
    unfold yankLimit
    omega
  have yields : (takeLine e.widget (some e.caret)).1 = some _ := rfl
  rw [copyLines, once, gather_succ_of_some yields, gather, Option.getD_none, List.append_nil,
    Widget.line_append_lineEnding]
  rfl

/-- A yank of one line puts the line of the caret into the register, without what ends it, unless that
    is a carriage return and a line feed in one position.  Then the carriage return stays. -/
theorem yanked_line_law (inside : e.caret ≤ e.len) :
    let line := e.widget.line e.caret
    let ending := e.widget.lineEnding e.caret
    let d := e.run .copyLine 1
    LineEnding ending ∧ lineBreak ∉ line ∧
      d.widget = e.widget ∧ d.modal = e.modal ∧ d.history = e.history ∧
      d.register =
        ⟨e.register.clipboard.put
          (if ending = ['\r', lineBreak] then line ++ ['\r'] else line), true⟩ := by
  intro line ending d
  have ends : LineEnding ending := Widget.lineEnding_cases inside
  have whole : lineBreak ∉ line := Widget.not_mem_line inside
  have written : d = e.write (dropFinalBreak (line ++ ending)) true := copyLines_one e
  rw [dropFinalBreak_append_lineEnding whole ends] at written
  rw [written]
  exact ⟨ends, whole, rfl, rfl, rfl, rfl⟩

/-- A line that ends in a line feed, in a text with the other line break as well. -/
theorem yanked_line_law_of_lineFeed :
    let e : Editor :=
      { modal := {}, widget := Widget.ofText .clusters ['a', lineBreak, 'b', '\r', lineBreak],
        register := {}, history := .ofLimit 1 }
    e.caret ≤ e.len ∧ (e.run .copyLine 1).widget = e.widget ∧
      (e.run .copyLine 1).register.text? = some ['a'] := by
  intro e
  have inside : e.caret ≤ e.len := by decide
  obtain ⟨_, _, widget, _, _, register⟩ := yanked_line_law inside
  refine ⟨inside, widget, ?_⟩
  rw [register]
  decide

/-- So a yanked line does not always lose the whole line break. -/
theorem not_always_without_lineEnding :
    ¬∀ e : Editor, e.widget.segmentation = .clusters → e.caret ≤ e.len →
      (e.run .copyLine 1).register.clipboard =
        e.register.clipboard.put
          (e.widget.slice (e.chars.lineStart e.caret) (e.chars.lineEnd e.caret)) := by
  intro without
  have yanked := without
    { modal := {}, widget := Widget.ofText .clusters ['a', '\r', lineBreak, 'b'], register := {},
      history := .ofLimit 1 } rfl (by decide)
  exact absurd yanked (by decide)

end ModalEdit.Editor
