import Karel.Console.Screen
import Karel.Language.Machine
import Karel.MapText.Writer
import Karel.Storage

/-!
# What can go wrong in a session

A session goes on after a refused operation or a failed save, which the user has already been told
about. A screen that fails, a program that can not run, and the wish to quit end it. A delay that no
clock can measure is no answer of a command: the call stops in the middle of the command, and nothing
is done about it.
-/

namespace Karel

/-- Why a map was not saved. -/
inductive SaveFault
  /-- No file was named. -/
  | noOutput
  | notWritable (fault : MapText.WriteFault)
  | storage (path : String) (fault : StorageFault)
deriving DecidableEq

/-- The wording of a fault. -/
def SaveFault.message : SaveFault → String
  | noOutput => "no output file set"
  | notWritable fault => fault.message
  | storage path fault => s!"failed writing {path}: {fault.message}"

/-- Why a command of a session did not succeed. -/
inductive SessionFault
  | refused (refusal : Refusal)
  | save (fault : SaveFault)
  | display (fault : Console.DisplayFault)
  | program (fault : ProgramFault)
  | quit
  /-- The delay after a command is too long for a clock, and the call stops where it stands. -/
  | overlong
deriving DecidableEq

namespace SessionFault

/-- The wording of a fault. -/
def message : SessionFault → String
  | refused refusal => refusal.message
  | save fault => fault.message
  | display fault => fault.message
  | program fault => fault.message
  | quit => "quit requested"
  | overlong => "the delay is too long for a clock"

/-- Whether the session has to end. -/
def isFatal : SessionFault → Bool
  | refused _ | save _ => false
  | display _ | program _ | quit | overlong => true

/-- A stopped run as a fault of the session that ran it. -/
def ofRun : RunFailure SessionFault → SessionFault
  | .fault fault => program fault
  | .act cause => cause

end SessionFault

end Karel
