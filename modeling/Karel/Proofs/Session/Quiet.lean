import Karel.Proofs.Session.Strokes
import Karel.Proofs.Stopping
import Karel.Session.Running

/-!
# Quiet screens

A screen is quiet if it never fails and nobody presses `q` on it. On such a screen everything that a
session does apart from the world succeeds and leaves the window alone, if a clock can measure the
delay. `execute_simulatesUntil` says that a command is then what it does to the window: it succeeds or
is refused as the window says, and the window is left as the window says, whatever the settings are
and whatever is pressed. With a longer delay a command that draws something still does all this, and
stops before it waits.
-/

namespace Karel

open Console

variable {σ ε δ α β : Type}

/-- States of a screen from which it never fails and never gives the key `q`, however it is used. -/
structure Console.Quiet [Screen σ] (quiet : σ → Prop) : Prop where
  size : ∀ screen, quiet screen →
    Act.Ensures Screen.size screen (fun _ next => quiet next) fun _ _ => False
  stroke : ∀ (stroke : Stroke) screen, quiet screen →
    stroke.act.Ensures screen (fun _ next => quiet next) fun _ _ => False
  nextKey : ∀ limit screen, quiet screen →
    Act.Ensures (Screen.nextKey limit) screen
      (fun key next => key ≠ some (.character 'q') ∧ quiet next) fun _ _ => False

/-- On a quiet screen all strokes can be made. -/
theorem Console.Quiet.paint [Screen σ] {quiet : σ → Prop} (device : Quiet quiet)
    (strokes : List Stroke) (screen : σ) (calm : quiet screen) :
    (paint strokes).Ensures screen (fun _ next => quiet next) fun _ _ => False := by
  induction strokes generalizing screen with
  | nil => exact .pure calm
  | cons stroke rest inductionHypothesis =>
      exact .bind (device.stroke stroke screen calm) fun _ next => inductionHypothesis next

namespace Session

/-- The session shows that window on a quiet screen, with that delay after a command. -/
structure Shows (quiet : σ → Prop) (delay : Option Nat) (session : Session σ) (window : Window) :
    Prop where
  window : session.window = window
  calm : quiet session.screen
  delay : session.settings.delay? = delay

variable {quiet : σ → Prop} {delay : Option Nat} {window : Window} {session : Session σ}

/-- From a session that shows a window the act succeeds, and the session still shows it. -/
def Idle (quiet : σ → Prop) (delay : Option Nat) (window : Window) (session : Session σ)
    (act : Act (Session σ) ε α) : Prop :=
  act.Ensures session (fun _ next => Shows quiet delay next window) fun _ _ => False

/-- A command is only stopped by a delay that no clock can measure. -/
structure Halts (delay : Option Nat) (cause : SessionFault) : Prop where
  cause : cause = .overlong
  delay : delay = none

theorem idle_note (shown : Shows quiet delay session window) (event : Log.Event) :
    Idle quiet delay window session (note event : Act (Session σ) ε Unit) :=
  .update ⟨shown.window, shown.calm, shown.delay⟩

variable [Screen σ]

theorem Draws.idle {drawing : Drawing σ Unit} {strokes : List Stroke}
    (draws : Draws session drawing strokes) (device : Quiet quiet)
    (shown : Shows quiet delay session window) : Idle quiet delay window session drawing := by
  refine draws.ensures ?_
  have painted := device.paint strokes session.screen shown.calm
  exact painted.mono (fun _ screen calm => ⟨shown.window, calm, shown.delay⟩) fun _ _ => id

variable (device : Quiet quiet) (shown : Shows quiet delay session window)
include device shown

/-- The next key is none that quits. -/
theorem nextKey_ensures (limit : Option Nat) :
    (onScreen (Screen.nextKey limit)).Ensures session
      (fun key next => key ≠ some (.character 'q') ∧ Shows quiet delay next window)
      fun _ _ => False := by
  refine .onScreen ((device.nextKey limit session.screen shown.calm).mono ?_ fun _ _ => id)
  exact fun key screen pressed => ⟨pressed.1, shown.window, pressed.2, shown.delay⟩

theorem idle_message (text : String) (style : MessageStyle) :
    Idle quiet delay window session (message text style) :=
  .mapError ((draws_message text style).idle device shown)

theorem idle_prompt (text : String) (style : MessageStyle) :
    Idle quiet delay window session (prompt text style) := by
  have goesOn : ∀ (key : Option Key) next,
      key ≠ some (.character 'q') ∧ Shows quiet delay next window → Idle quiet delay window next
        (if key = some (.character 'q') then throw .quit else pure () : Command σ Unit) := by
    rintro key next ⟨stays, shown⟩
    rw [if_neg stays]
    exact .pure shown
  refine .bind (.mapError ?_) goesOn
  refine .bind ((draws_message _ style).idle device shown) fun _ asked shown => ?_
  refine .bind (nextKey_ensures device shown none) fun key pressed shown => ?_
  refine .bind ((draws_message "" .status).idle device shown.2) fun _ cleared after => ?_
  exact .pure ⟨shown.1, after⟩

theorem idle_showError (text : String) : Idle quiet delay window session (showError text) :=
  .bind (.mapError ((Draws.stroke .alert).idle device shown)) fun _ _ shown =>
    idle_prompt device shown text .error

/-- The wait after a command passes, or is never begun. -/
theorem tick_ensures : (tick : Command σ Unit).Ensures session
    (fun _ next => Shows quiet delay next window)
    fun cause next => Halts delay cause ∧ Shows quiet delay next window := by
  refine delay_bind (fun nanoseconds _ => ?_) fun told => ⟨⟨rfl, shown.delay ▸ told⟩, shown⟩
  refine .bind (.of_never (.mapError (nextKey_ensures device shown _))) ?_
  rintro key next ⟨stays, shown⟩
  split
  next => exact absurd rfl stays
  next => exact .of_never (idle_prompt device shown "PAUSED" .status)
  next => exact .pure shown

theorem idle_observe (step : Step) : Idle quiet delay window session (observe step) := by
  refine .bind (idle_note shown _) fun _ noted shown => .ask_bind ?_
  cases noted.settings.stepMode with
  | off => exact .pure shown
  | log => exact idle_note shown _
  | announce => exact idle_message device shown _ _
  | confirm =>
      refine .bind (idle_message device shown _ _) fun _ _ shown => ?_
      refine .bind (.mapError (nextKey_ensures device shown none)) ?_
      rintro key next ⟨stays, shown⟩
      rw [if_neg stays]
      exact .pure shown

/-- What is shown after a success. -/
theorem idle_report (label : String) (changes : Redraw) :
    Idle quiet delay window session (display do
      redraw changes
      showStatus label
      onScreen Screen.present) := by
  refine .mapError (.bind ((draws_redraw changes).idle device shown) fun _ _ shown => ?_)
  refine .bind ((draws_status label).idle device shown) fun _ _ shown => ?_
  exact (Draws.stroke .present).idle device shown

omit shown

/-- A command does to the window what its act does, and ends as the act ends, unless it has drawn
something and is stopped by its delay. -/
theorem execute_simulatesUntil (label : String) (changes : Redraw) (act : Act Window Refusal α) :
    (execute label changes act : Command σ α).SimulatesUntil (Shows quiet delay)
      (fun cause refusal => cause = .refused refusal)
      (fun cause => changes ≠ .nothing ∧ Halts delay cause) act := by
  rintro session _ ⟨rfl, calm, known⟩
  rw [execute, Act.apply_bind, Act.apply_attempt, onWindow, Act.apply_onPart]
  rcases act.apply session.window with ⟨refusal | value, next⟩ <;> dsimp only [id_eq]
  · have shown : Shows quiet delay { session with window := next } next := ⟨rfl, calm, known⟩
    refine .inl (.of_error (.bind_of_ok (idle_note shown _) fun _ _ shown => ?_))
    exact .bind_of_ok (idle_showError device shown _) fun _ _ shown => ⟨rfl, shown⟩
  · have shown : Shows quiet delay { session with window := next } next := ⟨rfl, calm, known⟩
    refine Act.SimulatesUntil.of_ok (.ask_bind ?_)
    refine .bind_of_ok (idle_note shown _) fun _ _ shown => ?_
    refine .bind_of_ok (idle_report device shown label changes) fun _ _ shown => ?_
    split
    next drawn =>
      have waited := (tick_ensures device shown).mono (fun _ _ => id) fun cause after halted =>
        (⟨⟨drawn, halted.1⟩, halted.2⟩ : (changes ≠ .nothing ∧ Halts delay cause) ∧ _)
      exact .bind waited fun _ _ shown => .pure ⟨rfl, shown⟩
    next => exact .pure ⟨rfl, shown⟩

end Session

end Karel
