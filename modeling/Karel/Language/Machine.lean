import Karel.Language.Program
import Karel.Language.Vocabulary

/-!
# Running programs

The machine keeps the calls under way as a stack of frames. A frame leaves the stack as soon as its
last statement starts, so a call in that place takes the room of its caller, and a procedure that
ends with a call of itself can run forever. `advance` runs a bounded number of steps and tells what
is left on the stack: nothing, if the program has ended. More steps continue where fewer stopped.
-/

namespace Karel

/-- What a program can ask for that is not there. A program that was read with the same vocabulary
lacks at most a procedure to start with. -/
inductive ProgramFault
  | noRun
  | undefinedProcedure (name : String)
  | unknownCondition (name : String)
deriving DecidableEq

/-- The wording of a fault. -/
def ProgramFault.message : ProgramFault → String
  | noRun => "no RUN declaration"
  | undefinedProcedure name => s!"procedure not found: {name}"
  | unknownCondition name => s!"condition not found: {name}"

/-- Why a run stopped: by a fault of the program, or because an act failed. -/
inductive RunFailure (ε : Type)
  | fault (fault : ProgramFault)
  | act (cause : ε)
deriving DecidableEq

/-- A procedure under way and the index of its next statement. -/
structure Frame where
  procedure : String
  body : List Statement
  index : Nat
deriving DecidableEq

namespace Frame

/-- The step that the top frame is about to make, with the frames below it. -/
def step? (frame : Frame) (callers : List Frame) : Option Step :=
  frame.body[frame.index]?.map fun statement =>
    ⟨frame.procedure, frame.index, callers.length + 1, statement⟩

/-- The stack while the statement of the top frame runs: a frame without further statements is
gone. -/
def remaining (frame : Frame) (callers : List Frame) : List Frame :=
  if frame.index + 1 = frame.body.length then callers
  else { frame with index := frame.index + 1 } :: callers

end Frame

namespace Program

variable {σ ε : Type}

/-- The start of a procedure, if there is one of that name. -/
def frame? (program : Program) (name : String) : Option Frame :=
  program.procedures[name]?.map fun body => ⟨name, body, 0⟩

/-- The name that a statement runs, after its condition was checked. -/
def resolve (vocabulary : Vocabulary σ ε) : Statement → Act σ (RunFailure ε) String
  | .invoke name => pure name
  | .choose condition yes no =>
    match vocabulary.conditions[condition]? with
    | none => throw (.fault (.unknownCondition condition))
    | some check => do
      let holds ← check.mapError .act
      pure (if holds then yes else no)

/-- Runs the command of a name, or gives the frame of the procedure to call. Commands come first. -/
def perform (program : Program) (vocabulary : Vocabulary σ ε) (name : String) :
    Act σ (RunFailure ε) (Option Frame) :=
  match vocabulary.commands[name]? with
  | some action => do
    action.mapError .act
    pure none
  | none =>
    match program.frame? name with
    | some frame => pure (some frame)
    | none => throw (.fault (.undefinedProcedure name))

/-- Makes one step, after showing it. A frame without a next statement is dropped. -/
def next (program : Program) (vocabulary : Vocabulary σ ε) (observe : Step → Act σ ε Unit) :
    List Frame → Act σ (RunFailure ε) (List Frame)
  | [] => pure []
  | frame :: callers =>
    match frame.step? callers with
    | none => pure callers
    | some step => do
      (observe step).mapError .act
      let name ← resolve vocabulary step.statement
      let called ← program.perform vocabulary name
      pure (called.toList ++ frame.remaining callers)

/-- Makes at most so many steps and gives the frames that are left. -/
def advance (program : Program) (vocabulary : Vocabulary σ ε) (observe : Step → Act σ ε Unit) :
    Nat → List Frame → Act σ (RunFailure ε) (List Frame)
  | 0, stack => pure stack
  | _, [] => pure []
  | steps + 1, stack => do
    let stack ← program.next vocabulary observe stack
    program.advance vocabulary observe steps stack

/-- The stack before the first step. -/
def start (program : Program) : Except ProgramFault (List Frame) :=
  match program.main with
  | none => .error .noRun
  | some name =>
    match program.frame? name with
    | some frame => .ok [frame]
    | none => .error (.undefinedProcedure name)

/-- Runs the program for at most so many steps, showing each step before it is made, and gives the
frames that are left. -/
def run (program : Program) (vocabulary : Vocabulary σ ε) (observe : Step → Act σ ε Unit)
    (steps : Nat) : Act σ (RunFailure ε) (List Frame) :=
  match program.start with
  | .error fault => throw (.fault fault)
  | .ok stack => program.advance vocabulary observe steps stack

end Program

end Karel
