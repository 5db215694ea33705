import ModalEdit.Document
import ModalEdit.Session
import ModalEdit.Proofs.Editor.Kept
import ModalEdit.Proofs.Text.Prefix
import ModalEdit.Proofs.Widget.Proper
import ModalEdit.Proofs.Engine.Fields
import ModalEdit.Proofs.Session.Acts
import ModalEdit.Proofs.Session.Likeness
import ModalEdit.Proofs.Session.Proper
import ModalEdit.Proofs.Editor.CharWalk
import ModalEdit.Proofs.Session.Segmentations
import ModalEdit.Proofs.Editor.Saved
import ModalEdit.Proofs.Engine.History
import ModalEdit.Proofs.Session.Ledger
import ModalEdit.Proofs.Session.UndoLaw
import ModalEdit.Proofs.Router.Count
import ModalEdit.Proofs.Router.Chords
import ModalEdit.Proofs.Session.Escape
import ModalEdit.Proofs.Session.Delay
import ModalEdit.Proofs.Session.Isolation
import ModalEdit.Proofs.Editor.Repetition
import ModalEdit.Proofs.Checked.Scan
import ModalEdit.Proofs.Checked.Command
import ModalEdit.Proofs.Editor.Filling
import ModalEdit.Proofs.Editor.Yanking
import ModalEdit.Proofs.Session.RegisterLaw
import ModalEdit.Proofs.Editor.Conserved
import ModalEdit.Proofs.Editor.LineDeletion
import ModalEdit.Proofs.Editor.WordSpan
import ModalEdit.Proofs.Text.TokenStart
import ModalEdit.Proofs.Text.LineScan
import ModalEdit.Proofs.Editor.LineMotion
import ModalEdit.Proofs.Editor.CharacterKept
import ModalEdit.Proofs.Editor.LineReach
import ModalEdit.Proofs.Editor.LineCrossing
import ModalEdit.Proofs.Editor.Reselection
import ModalEdit.Proofs.Editor.TypingPlace
import ModalEdit.Proofs.Editor.VisualEnds
import ModalEdit.Proofs.Editor.VisualSpan
import ModalEdit.Proofs.Editor.VisualExit
import ModalEdit.Proofs.Editor.VisualLoss
import ModalEdit.Proofs.Session.VisualBounds
import ModalEdit.Proofs.Editor.VisualRestart
import ModalEdit.Proofs.Editor.VisualDrawn
import ModalEdit.Proofs.Session.Unanchored
import ModalEdit.Proofs.Engine.TimerBacklog
import ModalEdit.Proofs.Widget.Deletion
import ModalEdit.Proofs.Editor.YankedLine
import ModalEdit.Proofs.Engine.Focused
import ModalEdit.Proofs.Router.Standard
import ModalEdit.Proofs.Session.Strokes
import ModalEdit.Proofs.Session.Insertion
import ModalEdit.Proofs.Session.Replacement
import ModalEdit.Proofs.Session.VisualState
