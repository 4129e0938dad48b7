import Karel.CommandLine.Reader
import Karel.CommandLine.Setup
import Karel.Console.Terminal
import Karel.Session.Keyboard
import Karel.Session.Running

/-!
# The application

A whole call of the program as a function: arguments, files, what will be typed and the size of the
terminal go in; what was written, the files afterwards and the exit code come out. A program given
on the command line runs first; then the user takes over. Whatever ends the session, the terminal is
given back, and when a failure ends it, the world is saved if a file was named for that. Only a delay
that is too long for a clock stops the call without that.
-/

namespace Karel

open Console CommandLine

/-- What a call finds. -/
structure Surroundings where
  storage : Storage
  size : ScreenSize
  input : List Input
  /-- The filter that is set for logs, if there is one. -/
  logFilter : Option String
  /-- The time of the call, as it stands before each line of the log. -/
  logStamp : String

/-- What a call leaves behind. -/
structure Outcome where
  exitCode : UInt32
  /-- What was written to the terminal. -/
  output : String
  /-- What was written for errors. -/
  errors : String
  storage : Storage

namespace Application

/-- The greatest number of steps of a program and of keys of a user: more than any call makes. -/
def endless : Nat := 1000000000000000

/-- The window for a world on a screen: the whole screen apart from two lines, but no larger than
the world. -/
def windowSettings (bounds : Bounds) (size : ScreenSize) (lookahead : Coordinate) :
    WindowSettings where
  width := min (bounds.width.getD 2147483647) (.ofNat size.columns.toNat)
  height := min (bounds.height.getD 2147483647) (.ofNat size.rows.toNat - 2)
  lookahead := lookahead

/-- Runs the program, if there is one, and lets the user command Karel. -/
def drive (program : Option Program) : Command Terminal Unit := do
  match program with
  | none => pure ()
  | some program =>
    let _ ← Session.runProgram program endless
    Session.complete
  let _ ← Session.interactive endless

/-- What follows a failure: it is told to the log, and the world is saved if there is a file for
it. -/
def conclude (fault : SessionFault) : Command Terminal Unit := do
  Session.note (.sessionEnded fault)
  if (← Act.ask fun session => session.settings.output).isSome then
    let _ ← Session.save none

/-- Drives an opened session to its end, and gives the failure it ended with. Quitting is none. What
stops the call has no consequences. -/
def session (program : Option Program) (session : Session Terminal) :
    Option SessionFault × Session Terminal :=
  match (drive program).apply session with
  | (.ok (), session) | (.error .quit, session) => (none, session)
  | (.error .overlong, session) => (some .overlong, session)
  | (.error fault, session) => (some fault, ((conclude fault).apply session).2)

/-- The exit code of a call that ends with a failure. -/
def exitCode : SessionFault → UInt32
  | .overlong => 101
  | _ => 1

/-- An exit code and a text that is to be reported as an error. -/
structure Report where
  exitCode : UInt32 := 1
  text : String

/-- A session after everything was set up, and what is to be reported. -/
def present (options : Options) (size : ScreenSize) (input : List Input) (records : Records)
    (world : World) (program : Option Program) : Option Report × Session Terminal :=
  let terminal := (Terminal.takeOver.apply (.ofSize size input)).2
  let window := Window.onWorld world (windowSettings world.grid.bounds size options.lookahead)
  match Session.opening.apply ⟨window, terminal, options.settings, records⟩ with
  | (.error fault, opened) => (some { text := (SetupFault.screen fault).message }, opened)
  | (.ok (), opened) =>
    let (fault, ended) := session program opened
    (fault.map fun fault => ⟨exitCode fault, fault.message⟩, ended)

/-- The filter for the log file: the one that is set, if it can be read. -/
def logFilter (options : Options) (set : Option String) : Log.Filter :=
  (set.bind Log.Filter.read).getD (.ownEvents (if options.verbose then .trace else .debug))

/-- The files of a call, with the log file opened if there is one. -/
def openRecords (options : Options) (surroundings : Surroundings) : Except SetupFault Records :=
  match options.logFile with
  | none => .ok (.ofStorage surroundings.storage)
  | some path =>
    match Records.openLog surroundings.storage path
        (logFilter options surroundings.logFilter) surroundings.logStamp with
    | .ok records => .ok records
    | .error fault => .error (.logFile path fault)

/-- The outcome of a call whose output, error and files are known. -/
def outcome (output : String) (error : Option Report) (storage : Storage) : Outcome where
  exitCode := (error.map Report.exitCode).getD 0
  output := output
  errors := match error with
    | some report => report.text ++ "\n"
    | none => ""
  storage := storage

/-- A call with options. The log file is opened before anything else is done. -/
def runOptions (options : Options) (surroundings : Surroundings) : Outcome :=
  match openRecords options surroundings with
  | .error fault => outcome "" (some { text := fault.message }) surroundings.storage
  | .ok records =>
    let vocabulary : Vocabulary (Session Terminal) SessionFault := Session.vocabulary
    match (options.prepare vocabulary).apply records with
    | (.error fault, records) => outcome "" (some { text := fault.message }) records.storage
    | (.ok (world, program), records) =>
      let (error, ended) :=
        present options surroundings.size surroundings.input records world program
      outcome ended.screen.finish.output error ended.records.storage

/-- A call of the program. -/
def run (arguments : List String) (surroundings : Surroundings) : Outcome :=
  match CommandLine.read arguments with
  | .ok options => runOptions options surroundings
  | .error .help => ⟨0, Interruption.help.message, "", surroundings.storage⟩
  | .error .version => ⟨0, Interruption.version.message, "", surroundings.storage⟩
  | .error interruption => ⟨2, "", interruption.message, surroundings.storage⟩

end Application

end Karel
