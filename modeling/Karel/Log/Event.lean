import Karel.Session.Fault

/-!
# Log events

What a session tells its log. Every event has a level, the component that tells it, a message and
named fields. Levels are ordered from the most talkative to the gravest.
-/

namespace Karel.Log

/-- How grave an event is. -/
inductive Level
  | trace
  | debug
  | info
  | warn
  | error
deriving DecidableEq

namespace Level

/-- The place of a level in the order of gravity. -/
def rank : Level → Nat
  | trace => 0
  | debug => 1
  | info => 2
  | warn => 3
  | error => 4

/-- The written form of a level. -/
def name : Level → String
  | trace => "TRACE"
  | debug => "DEBUG"
  | info => "INFO"
  | warn => "WARN"
  | error => "ERROR"

end Level

/-- The part of the program that tells an event. -/
inductive Component
  | commandLine
  | language
  | session
deriving DecidableEq

/-- The path by which filters name a component. -/
def Component.path : Component → String
  | commandLine => "karel"
  | language => "karel_robot::interpreter"
  | session => "karel_robot::session"

/-- Something worth telling. -/
inductive Event
  | loadedMap (path : String) (width height : Coordinate)
  | parsedProgram (procedures : Nat) (main : Option String)
  /-- A step of a program is about to be made. -/
  | step (coming : Step)
  | executed (label : String) (position : Point) (facing : Direction)
  | refused (label : String) (refusal : Refusal)
  | savedMap (path : String)
  | saveFailed (fault : SaveFault)
  /-- A step is told because the user asked for it. -/
  | programStep (coming : Step)
  | sessionEnded (fault : SessionFault)

/-- The value of a field: text that stands for itself, or a string that is set in quotes where
fields can not be told apart otherwise. -/
inductive Value
  | plain (text : String)
  | quoted (text : String)

namespace Event

/-- The level of an event. -/
def level : Event → Level
  | loadedMap .. | parsedProgram .. | savedMap .. | programStep .. => .info
  | step .. => .trace
  | executed .. => .debug
  | refused .. | saveFailed .. => .warn
  | sessionEnded .. => .error

/-- The component that tells an event. -/
def component : Event → Component
  | loadedMap .. | sessionEnded .. => .commandLine
  | parsedProgram .. | step .. => .language
  | executed .. | refused .. | savedMap .. | saveFailed .. | programStep .. => .session

/-- The message of an event. -/
def message : Event → String
  | loadedMap .. => "loaded map"
  | parsedProgram .. => "parsed program"
  | step .. => "step"
  | executed .. => "executed"
  | refused .. => "robot error"
  | savedMap .. => "saved map"
  | saveFailed .. => "save failed"
  | programStep .. => "program step"
  | sessionEnded .. => "session ended"

/-- The fields of an event, in the order in which they are written. -/
def fields : Event → List (String × Value)
  | loadedMap path width height =>
    [("path", .plain path), ("width", .plain (toString width.toInt)),
      ("height", .plain (toString height.toInt))]
  | parsedProgram procedures main =>
    [("procedures", .plain (toString procedures)), ("main", .quoted (main.getD "-"))]
  | step coming => [("step", .plain coming.text)]
  | executed label position facing =>
    [("command", .quoted label), ("x", .plain (toString position.x.toInt)),
      ("y", .plain (toString position.y.toInt)), ("facing", .plain (String.singleton facing.glyph))]
  | refused label refusal => [("command", .quoted label), ("error", .plain refusal.message)]
  | savedMap path => [("path", .plain path)]
  | saveFailed fault => [("error", .plain fault.message)]
  | programStep coming => [("step", .plain coming.text)]
  | sessionEnded fault => [("error", .plain fault.message)]

/-- The names of what an event carries: its message and its fields. -/
def fieldNames (event : Event) : List String := "message" :: event.fields.map Prod.fst

/-- The event in one line, without its component. -/
def summary (event : Event) : String :=
  let field : String × Value → String
    | (name, .plain text) | (name, .quoted text) => s!" {name}={text}"
  s!"{event.level.name} {event.message}" ++ String.join (event.fields.map field)

end Event

end Karel.Log
