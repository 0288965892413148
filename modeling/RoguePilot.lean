import RoguePilot.Number.Binary64
import RoguePilot.Text.DecimalDigit
import RoguePilot.Text.Search
import RoguePilot.Text.Utf8
import RoguePilot.Text.ZeroWidth
import RoguePilot.Screen.Basic
import RoguePilot.Screen.Stretch
import RoguePilot.Terminal.Basic
import RoguePilot.Terminal.Interpreter
import RoguePilot.Game.Map
import RoguePilot.Game.Prompt
import RoguePilot.Game.Score
import RoguePilot.Game.StatusPanel
import RoguePilot.Game.View
import RoguePilot.Session
import RoguePilot.Config.Basic
import RoguePilot.Play.Request
import RoguePilot.Play.Turn
import RoguePilot.Play.Rehearsal
import RoguePilot.Toml.Fault
import RoguePilot.Toml.Quoted
import RoguePilot.Toml.Moment
import RoguePilot.Toml.Value
import RoguePilot.Toml.Word
import RoguePilot.Toml.Document
import RoguePilot.Toml.Written
import RoguePilot.Config.Document
import RoguePilot.World.Path
import RoguePilot.World.FileFault
import RoguePilot.World.Request
import RoguePilot.World.FileTree
import RoguePilot.Config.Store
import RoguePilot.Launch
import RoguePilot.World.Rehearsal
import RoguePilot.Text.Alignment
import RoguePilot.CommandLine.Run
import RoguePilot.Main
import RoguePilot.Proofs.Screen.Stretch
import RoguePilot.Proofs.Screen.Content
import RoguePilot.Proofs.Terminal.WellFormed
import RoguePilot.Proofs.Terminal.Guarded
import RoguePilot.Proofs.Terminal.Safety
import RoguePilot.Proofs.Session.Chunks
import RoguePilot.Proofs.Terminal.Run
import RoguePilot.Proofs.Dialogue
import RoguePilot.Proofs.Game.StatusPanel
import RoguePilot.Proofs.Game.Score
import RoguePilot.Proofs.Play.Waiting
import RoguePilot.Proofs.Play.Frame
import RoguePilot.Proofs.Play.Turn
import RoguePilot.Proofs.Play.Coherence
import RoguePilot.Proofs.Play.Scoring
import RoguePilot.Proofs.Terminal.Resynchronization
import RoguePilot.Proofs.Dialogue.Conduct
import RoguePilot.Proofs.Dialogue.Hosts
import RoguePilot.Proofs.Play.Asking
import RoguePilot.Proofs.Play.Conduct
import RoguePilot.Proofs.Play.Delivery
import RoguePilot.Proofs.Play.Refusal
import RoguePilot.Proofs.Play.Numbering
import RoguePilot.Proofs.Play.CleanSlate
import RoguePilot.Proofs.Play.Counters
import RoguePilot.Proofs.Play.Lifecycle
import RoguePilot.Proofs.Play.Replay
import RoguePilot.Proofs.Play.Patience
import RoguePilot.Proofs.Play.Reading
import RoguePilot.Proofs.Play.Typing
import RoguePilot.Proofs.Terminal.WholeSequence
import RoguePilot.Proofs.Play.Standing
import RoguePilot.Proofs.Game.Ending
import RoguePilot.Proofs.Play.Viewing
import RoguePilot.Proofs.Play.Outcome
import RoguePilot.Proofs.Terminal.Clearing
import RoguePilot.Proofs.Terminal.Editing
import RoguePilot.Proofs.Terminal.Unwrapped
import RoguePilot.Proofs.Terminal.Typewriter
import RoguePilot.Proofs.Game.Carrying
import RoguePilot.Proofs.Number.Numeral
import RoguePilot.Proofs.Terminal.Placement
import RoguePilot.Proofs.Text.Labelled
import RoguePilot.Proofs.Game.DrawnPanel
import RoguePilot.Proofs.Text.Encoding
import RoguePilot.Proofs.Toml.Quoted
import RoguePilot.Proofs.Toml.Word
import RoguePilot.Proofs.Toml.Written
import RoguePilot.Proofs.Toml.Sections
import RoguePilot.Proofs.Config.Document
import RoguePilot.Proofs.Config.Store
import RoguePilot.Proofs.World.FileTree
import RoguePilot.Proofs.Terminal.Confinement
import RoguePilot.Proofs.Terminal.SavedCursor
import RoguePilot.Proofs.Terminal.Interruption
import RoguePilot.Proofs.Play.Parking
import RoguePilot.Proofs.Terminal.Groups
import RoguePilot.Proofs.Terminal.Omission
import RoguePilot.Proofs.Terminal.Strings
import RoguePilot.Proofs.Terminal.Leftovers
import RoguePilot.Proofs.Text.WellFormed
import RoguePilot.Proofs.Session.Tail
import RoguePilot.Proofs.Play.Hearing
import RoguePilot.Proofs.Play.Answering
import RoguePilot.Proofs.Play.Deadline
import RoguePilot.Proofs.Screen.Glyph
import RoguePilot.Proofs.Play.Course
import RoguePilot.Proofs.Play.Lookout
import RoguePilot.Proofs.Text.Pattern
import RoguePilot.Proofs.Game.FieldPatterns
import RoguePilot.Proofs.Text.LineEnds
import RoguePilot.Proofs.Game.PanelRows
import RoguePilot.Proofs.Text.Order
import RoguePilot.Proofs.Game.Recognition
import RoguePilot.Proofs.Game.Map
import RoguePilot.Proofs.Game.Overflow
import RoguePilot.Proofs.Terminal.Rendering
import RoguePilot.Proofs.Play.Overflow
import RoguePilot.Proofs.CommandLine.KeyCycle
import RoguePilot.Proofs.Config.Overlay
