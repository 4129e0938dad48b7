import Karel.Language.Source
import Karel.Session.Commands

/-!
# Running programs in a session

A program drives the session as a user would: what it does is shown, and refused commands do not
stop it. The step mode decides what happens before each step.
-/

namespace Karel.Session

open Console

variable {σ : Type} [Screen σ]

/-- The words of programs that drive a session. -/
def vocabulary : Vocabulary (Session σ) SessionFault := .standard

/-- Reads a program text and tells the log about the program. -/
def readProgram {ε : Type} (vocabulary : Vocabulary (Session σ) SessionFault) (source : String) :
    Act (Session σ) ε (Except Language.SourceFault Program) := do
  match Language.read vocabulary source with
  | .ok program =>
    note (.parsedProgram program.procedures.size program.main)
    pure (.ok program)
  | .error fault => pure (.error fault)

/-- What happens before a step of a program. -/
def observe (step : Step) : Command σ Unit := do
  note (.step step)
  let mode ← Act.ask fun session => session.settings.stepMode
  match mode with
  | .off => pure ()
  | .log => note (.programStep step)
  | .announce => message step.text .status
  | .confirm =>
    message step.text .status
    let key ← display (onScreen (Screen.nextKey none))
    if key = some (.character 'q') then throw .quit

/-- Runs a program for at most so many steps and gives the frames that are left. -/
def runProgram (program : Program) (steps : Nat) : Command σ (List Frame) := do
  message "LOADED PROGRAM" .status
  (program.run vocabulary observe steps).mapError SessionFault.ofRun

end Karel.Session
