import Karel.Records
import Karel.Session.Settings
import Karel.Window

/-!
# Sessions

A session is a world behind a window, drawn on a screen. The rows below the window are the status
line and the message line. This module opens a session, draws the world and shows texts; what the
user can do is built on `Session.execute`.
-/

namespace Karel

open Console

/-- A world drawn on a screen of type `σ`. -/
structure Session (σ : Type) where
  window : Window
  screen : σ
  settings : SessionSettings
  records : Records

/-- Something a session does, and how it may fail. -/
abbrev Command (σ α : Type) : Type := Act (Session σ) SessionFault α

/-- Something that concerns only the display of a session. -/
abbrev Drawing (σ α : Type) : Type := Act (Session σ) DisplayFault α

/-- The lowest sixteen bits of a coordinate: the row or column of a screen, if it is one. -/
def Coordinate.toCell (coordinate : Coordinate) : UInt16 := coordinate.toUInt32.toUInt16

namespace Session

variable {σ ε α : Type}

/-- Works on the screen. -/
def onScreen (act : Act σ DisplayFault α) : Drawing σ α :=
  act.onPart Session.screen (fun session screen => { session with screen := screen }) id

/-- Uses the display as a part of a command. -/
def display (drawing : Drawing σ α) : Command σ α := drawing.mapError .display

/-- Tells the log. -/
def note (event : Log.Event) : Act (Session σ) ε Unit :=
  .update fun session => { session with records := session.records.note event }

/-- The robot of the world. -/
def robot (session : Session σ) : Robot := session.window.world.robot

/-- The row below the window. -/
def statusRow (session : Session σ) : UInt16 := session.window.height.toCell

/-- The row below the status line. The sum is one of sixteen bits and wraps around: below a window
whose last sixteen bits are 65535 rows it is the top row. Where sums are checked for overflow, the
call stops there. -/
def messageRow (session : Session σ) : UInt16 := session.statusRow + 1

/-- The size of screen that the window and the two lines need. The sum is one of sixteen bits and
wraps around: a window whose last sixteen bits are 65534 or 65535 rows seems to need no row or one.
Where sums are checked for overflow, the call stops there. -/
def neededSize (session : Session σ) : ScreenSize :=
  ⟨session.window.width.toCell, session.window.height.toCell + 2⟩

/-- The text of the status line. The label is padded to five characters. -/
def statusText (session : Session σ) (label : String) : String :=
  let padded := label ++ String.ofList (List.replicate (5 - label.length) ' ')
  let bag := match session.robot.bag with
    | .unlimited => "inf"
    | .counted count => toString count.toNat
  let text :=
    s!"{padded} {session.robot.position.text} {session.window.world.tileHere.name} bag:{bag}"
  if session.settings.verbosity = .detailed then text ++ s!" View{session.window.corner.text}"
  else text

variable [Screen σ]

/-- Fails if the screen is too small. -/
def checkFits : Drawing σ Unit := do
  let size ← onScreen Screen.size
  let needed ← Act.ask neededSize
  if size.columns < needed.columns ∨ size.rows < needed.rows then
    throw (.tooSmall size needed)

/-- Draws the tile at a place of the window. Nothing is drawn outside the window. -/
def drawCell (place : Point) : Drawing σ Unit := do
  let window ← Act.ask Session.window
  if 0 ≤ place.x ∧ 0 ≤ place.y ∧ place.x < window.width ∧ place.y < window.height then
    match window.tileAt place with
    | .ok tile => onScreen (Screen.draw place.x.toCell place.y.toCell (.tile tile))
    | .error _ => pure ()

/-- Draws Karel. -/
def drawRobot : Drawing σ Unit := do
  let window ← Act.ask Session.window
  let place := window.robotPosition
  onScreen (Screen.draw place.x.toCell place.y.toCell
    (.robot window.world.robot.facing window.world.beeperIsPresent))

/-- Draws the cells of a list one after the other. -/
def drawCells : List Point → Drawing σ Unit
  | [] => pure ()
  | place :: rest => do
    drawCell place
    drawCells rest

/-- Draws the rows of the window, as many as the list has, from left to right. -/
def drawRows (width : Coordinate) : List Coordinate → Drawing σ Unit
  | [] => pure ()
  | row :: rest => do
    drawCells ((Coordinate.range 0 (width - 1)).map fun column => ⟨column, row⟩)
    drawRows width rest

/-- Draws everything in the window. -/
def drawAll : Drawing σ Unit := do
  let window ← Act.ask Session.window
  drawRows window.width (Coordinate.range 0 (window.height - 1))
  drawRobot

/-- Draws the world for the first time. -/
def opening : Drawing σ Unit := do
  checkFits
  onScreen Screen.clear
  drawAll
  onScreen Screen.present

/-- How much of the screen a command changes. -/
inductive Redraw
  | nothing
  /-- Karel's own cell. -/
  | robot
  /-- Karel's cell and the one it left, or everything if the window slid. -/
  | moved
  | everything
deriving DecidableEq

/-- Draws what a command has changed. -/
def redraw : Redraw → Drawing σ Unit
  | .nothing => pure ()
  | .robot => drawRobot
  | .moved => do
    let window ← Act.ask Session.window
    if window.scrolled then
      drawAll
    else
      drawCell (window.robotPosition - window.world.robot.facing.step)
      drawRobot
  | .everything => drawAll

/-- Shows a text on the message line. -/
def showMessage (text : String) (style : MessageStyle) : Drawing σ Unit := do
  let row ← Act.ask messageRow
  onScreen (Screen.message row text style)
  onScreen Screen.present

/-- Shows the status line, unless the session is quiet. -/
def showStatus (label : String) : Drawing σ Unit := do
  let session ← Act.ask id
  if session.settings.verbosity ≠ .quiet then
    onScreen (Screen.message session.statusRow (session.statusText label) .status)

/-- Shows a text until a key is pressed, and takes it away again. The key `q` asks to quit. -/
def prompt (text : String) (style : MessageStyle) : Command σ Unit := do
  let key ← display do
    showMessage (text ++ " Press any key to continue") style
    let key ← onScreen (Screen.nextKey none)
    showMessage "" .status
    pure key
  if key = some (.character 'q') then throw .quit

/-- Waits for a key. -/
def pause : Command σ Unit := prompt "PAUSED" .status

/-- Draws attention to an error and shows it until a key is pressed. -/
def showError (text : String) : Command σ Unit := do
  display (onScreen Screen.alert)
  prompt text .error

/-- The time of one command. The call stops if no clock can measure it. -/
def delay : Command σ Nat := do
  match ← Act.ask fun session => session.settings.delay? with
  | some nanoseconds => pure nanoseconds
  | none => throw .overlong

/-- Lets the time of one command pass. The keys `q` and `p` ask to quit and to pause. -/
def tick : Command σ Unit := do
  let nanoseconds ← delay
  match ← display (onScreen (Screen.nextKey (some nanoseconds))) with
  | some (.character 'q') => throw .quit
  | some (.character 'p') => pause
  | _ => pure ()

/-- Works on the window, without showing anything. -/
def onWindow (act : Act Window Refusal α) : Act (Session σ) Refusal α :=
  act.onPart Session.window (fun session window => { session with window := window }) id

/-- Does something in the world and shows what came of it. After a success the screen and the status
line are brought up to date, and if something was drawn, the time of one command passes. A refusal
is shown until a key is pressed. -/
def execute (label : String) (changes : Redraw) (act : Act Window Refusal α) : Command σ α := do
  match ← (onWindow act).attempt with
  | .ok value =>
    let robot ← Act.ask robot
    note (.executed label robot.position robot.facing)
    display do
      redraw changes
      showStatus label
      onScreen Screen.present
    if changes ≠ .nothing then tick
    pure value
  | .error refusal =>
    note (.refused label refusal)
    showError refusal.message
    throw (.refused refusal)

end Session

end Karel
