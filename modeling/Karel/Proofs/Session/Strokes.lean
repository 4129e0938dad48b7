import Karel.Proofs.Acts
import Karel.Session.Commands

/-!
# What a session asks of its screen

A session draws by a list of strokes that depends on its window and its settings, but not on its
screen. `Draws` says which strokes a drawing makes, and there is one lemma for each way of drawing.
What a drawing ensures of a session is then what its strokes ensure of the screen, by
`Draws.ensures`. The wait after a command is the only other thing that depends on the settings: it
has a limit, or the command stops before it, by `delay_bind`.
-/

namespace Karel

open Console

variable {σ ε α β : Type}

namespace Console

/-- Something that a screen is told and that has no answer. -/
inductive Stroke
  | clear
  | draw (column row : UInt16) (glyph : Glyph)
  | message (row : UInt16) (text : String) (style : MessageStyle)
  | present
  | alert
deriving DecidableEq

variable [Screen σ]

/-- Tells a screen. -/
def Stroke.act : Stroke → Act σ DisplayFault Unit
  | clear => Screen.clear
  | draw column row glyph => Screen.draw column row glyph
  | message row text style => Screen.message row text style
  | present => Screen.present
  | alert => Screen.alert

/-- Tells a screen one stroke after the other. -/
def paint : List Stroke → Act σ DisplayFault Unit
  | [] => pure ()
  | stroke :: rest => do
    stroke.act
    paint rest

theorem paint_append (strokes others : List Stroke) :
    (paint (strokes ++ others) : Act σ DisplayFault Unit) =
      paint strokes >>= fun _ => paint others := by
  induction strokes with
  | nil => rfl
  | cons stroke rest inductionHypothesis =>
      simp only [List.cons_append, paint, inductionHypothesis, bind_assoc]

theorem paint_singleton (stroke : Stroke) :
    (paint [stroke] : Act σ DisplayFault Unit) = stroke.act :=
  bind_pure_unit

end Console

/-- Without a speed there is no delay. -/
theorem SessionSettings.delay?_of_unhurried {settings : SessionSettings}
    (unhurried : settings.speed = none) : settings.delay? = some 0 := by
  rw [delay?, unhurried]
  rfl

namespace Act.Ensures

/-- What an act ensures on a screen, it ensures in a session. -/
theorem onScreen {act : Act σ DisplayFault α} {session : Session σ}
    {returns : α → Session σ → Prop} {fails : DisplayFault → Session σ → Prop}
    (inner : act.Ensures session.screen
      (fun value screen => returns value { session with screen := screen })
      fun cause screen => fails cause { session with screen := screen }) :
    (Session.onScreen act).Ensures session returns fails :=
  .onPart inner

end Act.Ensures

namespace Session

/-- Works on the screen, one act after the other. -/
theorem onScreen_bind (act : Act σ DisplayFault α) (next : α → Act σ DisplayFault β) :
    onScreen (act >>= next) = onScreen act >>= fun value => onScreen (next value) := by
  funext session
  change (onScreen (act >>= next)).apply session =
    (onScreen act >>= fun value => onScreen (next value)).apply session
  rw [Act.apply_bind, onScreen, onScreen, Act.apply_onPart, Act.apply_onPart, Act.apply_bind]
  rcases act.apply session.screen with ⟨cause | value, screen⟩ <;> rfl

/-- On any screen, the drawing tells these strokes to the screen of the session. -/
def Draws [Screen σ] (session : Session σ) (drawing : Drawing σ Unit) (strokes : List Stroke) :
    Prop :=
  ∀ screen, drawing.apply { session with screen := screen } =
    (onScreen (paint strokes)).apply { session with screen := screen }

/-- The stroke that draws the tile at a place of a window, if it is in the window. -/
def cellStrokes (window : Window) (place : Point) : List Stroke :=
  if 0 ≤ place.x ∧ 0 ≤ place.y ∧ place.x < window.width ∧ place.y < window.height then
    match window.tileAt place with
    | .ok tile => [.draw place.x.toCell place.y.toCell (.tile tile)]
    | .error _ => []
  else []

/-- The stroke that draws Karel. -/
def robotStroke (window : Window) : Stroke :=
  .draw window.robotPosition.x.toCell window.robotPosition.y.toCell
    (.robot window.world.robot.facing window.world.beeperIsPresent)

/-- The places of a row of a window, from left to right. -/
def rowPlaces (width row : Coordinate) : List Point :=
  (Coordinate.range 0 (width - 1)).map fun column => ⟨column, row⟩

/-- The places of a window, row by row. -/
def places (window : Window) : List Point :=
  (Coordinate.range 0 (window.height - 1)).flatMap (rowPlaces window.width)

/-- The strokes that draw everything in a window. -/
def allStrokes (window : Window) : List Stroke :=
  (places window).flatMap (cellStrokes window) ++ [robotStroke window]

/-- The strokes that draw what a command has changed. -/
def redrawStrokes (window : Window) : Redraw → List Stroke
  | .nothing => []
  | .robot => [robotStroke window]
  | .moved =>
    if window.scrolled then allStrokes window
    else cellStrokes window (window.robotPosition - window.world.robot.facing.step) ++
      [robotStroke window]
  | .everything => allStrokes window

/-- The strokes that show a text on the message line. -/
def messageStrokes (session : Session σ) (text : String) (style : MessageStyle) : List Stroke :=
  [.message session.messageRow text style, .present]

/-- The strokes that show the status line. -/
def statusStrokes (session : Session σ) (label : String) : List Stroke :=
  if session.settings.verbosity ≠ .quiet then
    [.message session.statusRow (session.statusText label) .status]
  else []

variable [Screen σ]

namespace Draws

variable {session : Session σ} {drawing : Drawing σ Unit} {strokes others : List Stroke}

theorem nothing : Draws session (pure ()) [] := fun _ => rfl

theorem stroke (stroke : Stroke) : Draws session (onScreen stroke.act) [stroke] := by
  intro screen
  rw [paint_singleton]

/-- A drawing that depends on something of the session other than its screen. -/
theorem ask {question : Session σ → α} {next : α → Drawing σ Unit}
    (steady : ∀ screen, question { session with screen := screen } = question session)
    (following : Draws session (next (question session)) strokes) :
    Draws session (Act.ask question >>= next) strokes := by
  intro screen
  rw [Act.apply_bind, Act.apply_ask]
  dsimp only
  rw [steady]
  exact following screen

/-- One drawing after another. -/
theorem andThen {next : Unit → Drawing σ Unit} (first : Draws session drawing strokes)
    (second : Draws session (next ()) others) :
    Draws session (drawing >>= next) (strokes ++ others) := by
  intro screen
  rw [paint_append, onScreen_bind, Act.apply_bind, Act.apply_bind, first, onScreen,
    Act.apply_onPart]
  rcases (paint strokes).apply screen with ⟨cause | value, after⟩
  · rfl
  · exact second after

/-- A drawing ensures what its strokes ensure of the screen. -/
theorem ensures (draws : Draws session drawing strokes) {returns : Unit → Session σ → Prop}
    {fails : DisplayFault → Session σ → Prop}
    (painted : (paint strokes).Ensures session.screen
      (fun value screen => returns value { session with screen := screen })
      fun cause screen => fails cause { session with screen := screen }) :
    drawing.Ensures session returns fails := by
  unfold Act.Ensures
  rw [show drawing.apply session = _ from draws session.screen]
  exact Act.Ensures.onScreen painted

end Draws

variable {session : Session σ}

theorem draws_cell (place : Point) :
    Draws session (drawCell place) (cellStrokes session.window place) := by
  refine .ask (fun _ => rfl) ?_
  unfold cellStrokes
  split
  next inside =>
    cases session.window.tileAt place with
    | ok tile => exact .stroke (.draw _ _ (.tile tile))
    | error _ => exact .nothing
  next => exact .nothing

theorem draws_robot : Draws session drawRobot [robotStroke session.window] :=
  .ask (fun _ => rfl) (.stroke (robotStroke session.window))

theorem draws_cells (cells : List Point) :
    Draws session (drawCells cells) (cells.flatMap (cellStrokes session.window)) := by
  induction cells with
  | nil => exact .nothing
  | cons place rest inductionHypothesis => exact (draws_cell place).andThen inductionHypothesis

theorem draws_rows (width : Coordinate) (rows : List Coordinate) :
    Draws session (drawRows width rows)
      ((rows.flatMap (rowPlaces width)).flatMap (cellStrokes session.window)) := by
  induction rows with
  | nil => exact .nothing
  | cons row rest inductionHypothesis =>
      rw [List.flatMap_cons, List.flatMap_append]
      exact (draws_cells (rowPlaces width row)).andThen inductionHypothesis

theorem draws_all : Draws session drawAll (allStrokes session.window) :=
  .ask (fun _ => rfl) ((draws_rows _ _).andThen draws_robot)

theorem draws_redraw (changes : Redraw) :
    Draws session (redraw changes) (redrawStrokes session.window changes) := by
  cases changes with
  | nothing => exact .nothing
  | robot => exact draws_robot
  | moved =>
      refine .ask (fun _ => rfl) ?_
      unfold redrawStrokes
      split
      next => exact draws_all
      next => exact (draws_cell _).andThen draws_robot
  | everything => exact draws_all

theorem draws_message (text : String) (style : MessageStyle) :
    Draws session (showMessage text style) (messageStrokes session text style) :=
  .ask (fun _ => rfl) ((Draws.stroke (.message _ text style)).andThen (.stroke .present))

theorem draws_status (label : String) :
    Draws session (showStatus label) (statusStrokes session label) := by
  intro screen
  unfold showStatus statusStrokes
  rw [Act.apply_bind, Act.apply_ask]
  dsimp only [id_eq]
  split
  next => exact (Draws.stroke (.message _ _ .status) : Draws session _ _) screen
  next => rfl

omit [Screen σ] in
/-- To ask for the delay tells it, or stops if no clock can measure it, and does nothing else. -/
theorem apply_delay (session : Session σ) : delay.apply session =
    match session.settings.delay? with
    | some nanoseconds => (.ok nanoseconds, session)
    | none => (.error .overlong, session) := by
  rw [delay, Act.apply_bind, Act.apply_ask]
  dsimp only
  cases session.settings.delay? <;> rfl

omit [Screen σ] in
/-- What follows the question for the delay is told it, if the command is not stopped. -/
theorem delay_bind {next : Nat → Command σ α} {returns : α → Session σ → Prop}
    {fails : SessionFault → Session σ → Prop}
    (known : ∀ nanoseconds, session.settings.delay? = some nanoseconds →
      (next nanoseconds).Ensures session returns fails)
    (stops : session.settings.delay? = none → fails .overlong session) :
    (delay >>= next).Ensures session returns fails := by
  unfold Act.Ensures
  rw [Act.apply_bind, apply_delay]
  cases told : session.settings.delay? with
  | some nanoseconds => exact known nanoseconds told
  | none => exact stops told

end Session

end Karel
