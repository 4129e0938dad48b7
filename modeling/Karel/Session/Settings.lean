import Karel.Number.Decimal

/-!
# Settings of a session
-/

namespace Karel

/-- How much the status line shows. -/
inductive Verbosity
  | quiet
  | normal
  /-- The status line shows the place of the window too. -/
  | detailed
deriving DecidableEq

/-- The next verbosity in the cycle that a user can step through. -/
def Verbosity.next : Verbosity → Verbosity
  | quiet => normal
  | normal => detailed
  | detailed => quiet

/-- The name of a verbosity. -/
def Verbosity.name : Verbosity → String
  | quiet => "Quiet"
  | normal => "Normal"
  | detailed => "Detailed"

/-- What happens before each step of a program. -/
inductive StepMode
  | off
  /-- The step is shown until a key is pressed. -/
  | confirm
  /-- The step is shown. -/
  | announce
  /-- The step is only written to the log. -/
  | log
deriving DecidableEq

/-- The mode asked for by so many repetitions of an option. -/
def StepMode.ofCount : Nat → StepMode
  | 0 => off
  | 1 => confirm
  | 2 => announce
  | _ => log

/-- The name of a mode. -/
def StepMode.name : StepMode → String
  | off => "Off"
  | confirm => "Confirm"
  | announce => "Show"
  | log => "Log"

/-- What a user can set. -/
structure SessionSettings where
  /-- The number of commands in a second. Without it, and unless it is positive, there is no
  delay. -/
  speed : Option Float
  verbosity : Verbosity
  /-- The file to save to when none is named. -/
  output : Option String
  stepMode : StepMode

namespace SessionSettings

/-- Three commands in a second and an ordinary status line. -/
def standard : SessionSettings := ⟨some 3, .normal, none, .off⟩

/-- A speed, unless it is to mean that there is no delay. -/
def effectiveSpeed (speed : Option Float) : Option Float := speed.filter (· > 0)

/-- The time that one command takes, in nanoseconds. At the slowest speeds it is longer than a clock
can measure, and then there is no answer. -/
def delay? (settings : SessionSettings) : Option Nat :=
  match effectiveSpeed settings.speed with
  | some speed => Number.Binary64.nanoseconds? (1 / speed)
  | none => some 0

end SessionSettings

end Karel
