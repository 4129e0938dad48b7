import Karel.Session.Commands
import Karel.Session.Saving

/-!
# The keyboard

In interactive mode each key is a command, and the commands pass without delay. A refused command or
a failed save is not the end; quitting, leaving and failures of the screen are.
-/

namespace Karel.Session

open Console

variable {σ : Type} [Screen σ]

/-- How the user ended interactive mode. -/
inductive Exit
  /-- The whole session is to end. -/
  | quit
  /-- Only interactive mode is to end. -/
  | stopped
deriving DecidableEq

/-- The name of an end. -/
def Exit.name : Exit → String
  | quit => "Quit"
  | stopped => "Stopped"

/-- The text that explains the keys. -/
def help : String := "Use arrows to move, i/u/q to pIck, pUt and Quit."

/-- What a key asks for. -/
inductive Request (σ : Type)
  | leave (exit : Exit)
  | perform (command : Command σ Unit)

/-- What a key means. Keys without a meaning do nothing. -/
def request : Key → Request σ
  | .character 'q' => .leave .quit
  | .character 'I' => .leave .stopped
  | .up => .perform move
  | .left => .perform turnLeft
  | .right => .perform turnRight
  | .character 'u' => .perform put
  | .character 'i' => .perform pick
  | .character 'p' => .perform pause
  | .character 'w' => .perform do let _ ← save none
  | .character '#' => .perform (setTileAhead .wall)
  | .character '.' => .perform (setTileAhead .empty)
  | .character '$' => .perform (setTileAhead .treasure)
  | .character 'V' => .perform do let _ ← toggleVerbosity
  | .character 'R' | .resize => .perform resize
  | .character 'h' | .help => .perform (message help .status)
  | .character digit =>
    .perform (if digit.isDigit then setBeepersHere (.ofNat (digit.toNat - '0'.toNat)) else pure ())
  | .down => .perform (pure ())

/-- Does what a key asks for. The answer tells whether interactive mode ends. -/
def respond (key : Key) : Command σ (Option Exit) := do
  match request key with
  | .leave exit => pure (some exit)
  | .perform command =>
    match ← command.attempt with
    | .ok () | .error (.refused _) | .error (.save _) => pure none
    | .error .quit => pure (some .quit)
    | .error fault => throw fault

/-- Reads and answers at most so many keys. There is no answer if they do not end the mode. -/
def answerKeys : Nat → Command σ (Option Exit)
  | 0 => pure none
  | keys + 1 => do
    match ← display (onScreen (Screen.nextKey none)) with
    | none => answerKeys keys
    | some key =>
      match ← respond key with
      | some exit => pure (some exit)
      | none => answerKeys keys

/-- Changes the speed without looking at the new one. -/
def replaceSpeed (speed : Option Float) : Command σ Unit :=
  .update fun session => { session with settings := { session.settings with speed := speed } }

/-- Lets the user command Karel by keys, at most so many of them. After the keys were answered, the
speed is as it was before. -/
def interactive (keys : Nat) : Command σ (Option Exit) := do
  let speed ← Act.ask fun session => session.settings.speed
  replaceSpeed none
  message "INTERACTIVE  Press q to quit, p to pause" .status
  let result ← (answerKeys keys).attempt
  replaceSpeed speed
  match result with
  | .ok exit => pure exit
  | .error fault => throw fault

end Karel.Session
