import Karel.Log.Event
import Karel.Text.Quoted

/-!
# Log lines

A line of a log file gives the level of an event in five columns, the path of its component, the
message and the fields. String values are quoted.
-/

namespace Karel.Log

/-- A field as it is written in a log file. -/
def fieldText : String × Value → String
  | (name, .plain text) => s!" {name}={text}"
  | (name, .quoted text) => s!" {name}={Text.Quoted.encode text}"

/-- The line of an event. -/
def line (event : Event) : String :=
  let level := event.level.name
  let padding := String.ofList (List.replicate (5 - level.length) ' ')
  s!"{padding}{level} {event.component.path}: {event.message}" ++
    String.join (event.fields.map fieldText)

end Karel.Log
