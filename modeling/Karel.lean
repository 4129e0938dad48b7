import Karel.Console.Script
import Karel.Exchange.Description
import Karel.Exchange.Forms
import Karel.Language.Rehearsal
import Karel.Language.Watch
import Karel.Main
import Karel.Proofs.Acts
import Karel.Proofs.Language.Rules
import Karel.Proofs.Language.WellFormed
import Karel.Proofs.Language.Grammar
import Karel.Proofs.Language.References
import Karel.Proofs.Language.Acceptance
import Karel.Proofs.Language.Evaluation
import Karel.Proofs.Language.Simulation
import Karel.Proofs.Language.Stack
import Karel.Proofs.Language.Recording
import Karel.Proofs.Language.Sights
import Karel.Proofs.Language.Words
import Karel.Proofs.Language.Invariant
import Karel.Proofs.Language.Meaning
import Karel.Proofs.Language.Safety
import Karel.Proofs.Coordinates
import Karel.Proofs.Window.Axis
import Karel.Proofs.Window.Words
import Karel.Proofs.Worlds
import Karel.Proofs.Window.Framing
import Karel.Proofs.Window.Reachable
import Karel.Proofs.Window.Exact
import Karel.Proofs.Window.Placement
import Karel.Proofs.Window.Driving
import Karel.Proofs.Session.Strokes
import Karel.Proofs.Session.Picture
import Karel.Proofs.Session.Room
import Karel.Proofs.Session.Changes
import Karel.Proofs.Session.Tasks
import Karel.Proofs.Session.Upkeep
import Karel.Proofs.Session.Canvas
import Karel.Proofs.Session.Quiet
import Karel.Proofs.Console.Sheet
import Karel.Proofs.Session.Programs
import Karel.Proofs.Session.Exactness
import Karel.Proofs.Rectangles
import Karel.Proofs.World.Reachable
import Karel.Proofs.Text.Words
import Karel.Proofs.MapText.Rows
import Karel.Proofs.World.Beepers
import Karel.Proofs.MapText.Picture
import Karel.Proofs.MapText.Faults
import Karel.Proofs.MapText.PictureCells
import Karel.Proofs.MapText.PictureRoundTrip
import Karel.Proofs.MapText.PictureGrammar
import Karel.Proofs.Text.Numerals
import Karel.Proofs.Console.Follows
import Karel.Proofs.Session.KeyReading
import Karel.Proofs.Session.Desk
import Karel.Proofs.Session.Saving
import Karel.Proofs.Session.Interactive
import Karel.Proofs.Session.Fitting
import Karel.Proofs.Session.Chronicle
import Karel.Proofs.Session.Quitting
import Karel.Proofs.MapText.TableGrammar
import Karel.Proofs.MapText.Table
import Karel.Proofs.MapText.RoundTrip
import Karel.Proofs.Language.Depth
import Karel.Proofs.Window.Nearest
import Karel.Proofs.Window.Scrolling
import Karel.Proofs.Window.Refusals
import Karel.Proofs.Console.Transcript
import Karel.Proofs.Session.Ledger
import Karel.Proofs.Session.Causes
import Karel.Proofs.Session.Refusals
import Karel.Proofs.World.Undoing
import Karel.Proofs.Language.Charts
import Karel.Proofs.World.Paths
import Karel.Proofs.World.GridHistory
import Karel.Proofs.Window.Watching
import Karel.Proofs.Language.Undefined
import Karel.Proofs.MapText.OwnRobot
import Karel.Proofs.Language.Layout
import Karel.Proofs.Language.Listing
import Karel.Proofs.Window.Translation
import Karel.Proofs.Session.Resizing
import Karel.Proofs.Session.KeyCounts
import Karel.Proofs.Session.Speed
import Karel.Proofs.World.Extents
import Karel.Proofs.Language.Progress
import Karel.Proofs.CommandLine.Worlds
