import Karel.Console.Script
import Karel.Proofs.Session.Causes
import Karel.Proofs.Session.Strokes

/-!
# The speed after interactive mode

Interactive mode puts the speed away, announces itself on the message line, and sets the speed back
when the last key is answered. Whatever the keys do, and however they fail, the speed is then as it
was. The announcement is made before: where the screen can not show it, interactive mode ends at once,
and the speed is still away. `speed_interactive` tells the two apart.
-/

namespace Karel.Session

open Console

variable {σ : Type}

/-- The session with another speed. -/
def withSpeed (session : Session σ) (speed : Option Float) : Session σ :=
  { session with settings := { session.settings with speed := speed } }

/-- What interactive mode shows before it asks for a key. -/
def announcement (session : Session σ) : List Stroke :=
  messageStrokes session "INTERACTIVE  Press q to quit, p to pause" .status

variable [Screen σ]

/-- A message is shown by its strokes. -/
theorem message_apply (session : Session σ) (text : String) (style : MessageStyle) :
    (message text style : Command σ Unit).apply session =
      match (paint (messageStrokes session text style)).apply session.screen with
      | (.ok (), screen) => (.ok (), { session with screen := screen })
      | (.error fault, screen) => (.error (.display fault), { session with screen := screen }) := by
  rw [message, display, Act.apply_mapError,
    show (showMessage text style).apply session = _ from draws_message text style session.screen,
    onScreen, Act.apply_onPart]
  rcases (paint (messageStrokes session text style)).apply session.screen with
    ⟨fault | value, screen⟩ <;> rfl

/-- Interactive mode that can not be announced ends before any key is asked for, and the speed stays
away. Once it is announced it answers keys without a speed, and sets the speed back at the end,
whatever the end is. -/
theorem interactive_apply (keys : Nat) (session : Session σ) :
    (interactive keys).apply session =
      match (paint (announcement session)).apply session.screen with
      | (.ok (), screen) =>
        ((answerKeys keys).apply { session.withSpeed none with screen := screen }).map id
          (·.withSpeed session.settings.speed)
      | (.error fault, screen) =>
        (.error (.display fault), { session.withSpeed none with screen := screen }) := by
  have shown : (message "INTERACTIVE  Press q to quit, p to pause" .status).apply
      (session.withSpeed none) =
        match (paint (announcement session)).apply session.screen with
        | (.ok (), screen) => (.ok (), { session.withSpeed none with screen := screen })
        | (.error fault, screen) =>
          (.error (.display fault), { session.withSpeed none with screen := screen }) :=
    message_apply (session.withSpeed none) _ _
  rw [interactive, Act.apply_bind, Act.apply_ask]
  change Act.apply (message _ _ >>= _) (session.withSpeed none) = _
  rw [Act.apply_bind, shown]
  rcases (paint (announcement session)).apply session.screen with ⟨fault | value, screen⟩
  · rfl
  · dsimp only
    rw [Act.apply_bind, Act.apply_attempt]
    rcases (answerKeys keys).apply { session.withSpeed none with screen := screen } with
      ⟨cause | exit, last⟩ <;> rfl

/-- Interactive mode only fails as the screen does. If it could be announced, the session has the
speed again that it had before, however interactive mode ends. If the screen fails while it shows the
announcement, interactive mode ends with that failure, and nothing but the screen and the speed is
changed: the speed is gone. So the speed is given back exactly if there was none or the announcement
could be shown. -/
theorem speed_interactive (keys : Nat) (session : Session σ) :
    (∀ cause final, (interactive keys).apply session = (.error cause, final) → IsDisplay cause) ∧
    (((interactive keys).apply session).2.settings.speed = session.settings.speed ↔
      session.settings.speed = none ∨
        ∃ screen, (paint (announcement session)).apply session.screen = (.ok (), screen)) ∧
    ∀ fault screen, (paint (announcement session)).apply session.screen = (.error fault, screen) →
      (interactive keys).apply session =
        (.error (.display fault), { session.withSpeed none with screen := screen }) := by
  refine ⟨fun cause final failed => ?_, ?_, fun fault screen unannounced => ?_⟩
  · exact (interactive_failsWithin keys session).of_error failed
  · rw [interactive_apply]
    rcases (paint (announcement session)).apply session.screen with ⟨fault | value, screen⟩
    · constructor
      · exact fun kept => .inl kept.symm
      · rintro (away | ⟨_, shown⟩)
        · exact away.symm
        · cases shown
    · exact ⟨fun _ => .inr ⟨screen, rfl⟩, fun _ => rfl⟩
  · rw [interactive_apply, unannounced]

/-- A session with three commands in a second, on a screen that fails the first time an operation is
used. -/
def failingSession (operation : Operation) : Session Script where
  window := .onWorld ⟨.initial, .empty .unbounded⟩ ⟨1, 1, 1⟩
  screen := { Script.ofSize ⟨1, 3⟩ with keys := [some (.character 'q')], failures := [(operation, 0)] }
  settings := .standard
  records := .ofStorage .empty

/-- If the first key can not be read, the speed is given back; if the announcement can not be shown,
interactive mode ends with that failure. -/
theorem speed_interactive_failing :
    (∃ final, (interactive 1).apply (failingSession .key) =
        (.error (.display (.device "key failed")), final) ∧
      IsDisplay (.display (.device "key failed")) ∧ final.settings.speed = some 3) ∧
    ∃ screen, (paint (announcement (failingSession .message))).apply (failingSession .message).screen =
        (.error (.device "message failed"), screen) ∧
      (interactive 1).apply (failingSession .message) = (.error (.display (.device "message failed")),
        { (failingSession .message).withSpeed none with screen := screen }) := by
  have failed : (interactive 1).apply (failingSession .key) =
      (.error (.display (.device "key failed")), _) := rfl
  have unannounced : (paint (announcement (failingSession .message))).apply
      (failingSession .message).screen = (.error (.device "message failed"), _) := rfl
  obtain ⟨display, kept, -⟩ := speed_interactive 1 (failingSession .key)
  refine ⟨⟨_, failed, display _ _ failed, kept.mpr (.inr ⟨_, rfl⟩)⟩, _, unannounced, ?_⟩
  exact (speed_interactive 1 (failingSession .message)).2.2 _ _ unannounced

/-- Where the announcement can not be shown, the speed is not given back. -/
theorem speed_lost_unannounced :
    (failingSession .message).settings.speed = some 3 ∧
      ((interactive 1).apply (failingSession .message)).2.settings.speed = none :=
  ⟨rfl, rfl⟩

end Karel.Session
