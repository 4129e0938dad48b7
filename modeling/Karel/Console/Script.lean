import Karel.Console.Screen

/-!
# Scripted screens

A scripted screen shows nothing. It writes down what it is told, answers with the keys it was given,
and fails where its script says so.
-/

namespace Karel.Console

/-- The operations of a screen, as far as they can fail. -/
inductive Operation
  | size
  | clear
  | draw
  | message
  | present
  | key
  | alert
deriving DecidableEq

/-- The name of an operation. -/
def Operation.name : Operation → String
  | size => "size"
  | clear => "clear"
  | draw => "draw"
  | message => "message"
  | present => "present"
  | key => "key"
  | alert => "alert"

/-- What a scripted screen was told. -/
inductive ScreenEvent
  | clear
  | draw (column row : UInt16) (glyph : Glyph)
  | message (row : UInt16) (text : String) (style : MessageStyle)
  | present
  /-- A key was asked for with a time limit. -/
  | tick (nanoseconds : Nat) (pressed : Option Key)
  /-- A key was asked for without a time limit. -/
  | key (pressed : Option Key)
  | alert
deriving DecidableEq

/-- The name of a message style. -/
def MessageStyle.name : MessageStyle → String
  | status => "Status"
  | error => "Error"
  | complete => "Complete"

/-- The name of a key, or the character of one. -/
def Key.name : Key → String
  | up => "Up"
  | down => "Down"
  | left => "Left"
  | right => "Right"
  | character pressed => s!"'{pressed}'"
  | resize => "Resize"
  | help => "Help"

/-- The name of a key, if there is one. -/
def Key.nameOf : Option Key → String
  | some key => key.name
  | none => "none"

/-- What a glyph shows. -/
def Glyph.name : Glyph → String
  | tile content => content.name
  | robot _ true => "robot+beeper"
  | robot _ false => "robot"

/-- An event in one line. -/
def ScreenEvent.text : ScreenEvent → String
  | clear => "clear"
  | draw column row glyph => s!"draw {column.toNat} {row.toNat} {glyph.character} {glyph.name}"
  | message row text style => s!"message {row.toNat} {style.name} [{text}]"
  | present => "present"
  | tick nanoseconds pressed => s!"tick {nanoseconds} {Key.nameOf pressed}"
  | key pressed => s!"key {Key.nameOf pressed}"
  | alert => "alert"

/-- A screen that follows a script. -/
structure Script where
  size : ScreenSize
  /-- The keys for waits without a limit. -/
  keys : List (Option Key)
  /-- The keys for waits with a limit. -/
  timedKeys : List (Option Key)
  /-- For each failure to come, its operation and how many of these still succeed before it. -/
  failures : List (Operation × Nat)
  /-- Whether the screen can draw attention to errors. -/
  hasBell : Bool
  /-- What the screen was told, the last event first. -/
  events : List ScreenEvent

namespace Script

/-- The screen without a script, of the given size. -/
def ofSize (size : ScreenSize) : Script := ⟨size, [], [], [], true, []⟩

/-- Counts an operation, and fails if its turn has come. -/
def count (operation : Operation) : Act Script DisplayFault Unit := .ofFunction fun script =>
  let fails := script.failures.contains (operation, 0)
  let failures := script.failures.filterMap fun (counted, left) =>
    if counted ≠ operation then some (counted, left)
    else if left = 0 then none
    else some (counted, left - 1)
  (if fails then .error (.device s!"{operation.name} failed") else .ok (),
    { script with failures := failures })

/-- Writes down an event. -/
def note (event : ScreenEvent) : Act Script DisplayFault Unit :=
  .update fun script => { script with events := event :: script.events }

/-- Takes the next key for a wait with a limit; there is none at the end of the script. -/
def takeTimed : Act Script DisplayFault (Option Key) := .ofFunction fun script =>
  (.ok script.timedKeys.head?.join, { script with timedKeys := script.timedKeys.tail })

/-- Takes the next key for a wait without a limit, which fails at the end of the script. -/
def takeKey : Act Script DisplayFault (Option Key) := .ofFunction fun script =>
  match script.keys with
  | [] => (.error (.device "key script ran out"), script)
  | key :: keys => (.ok key, { script with keys := keys })

instance : Screen Script where
  size := do
    count .size
    .ask Script.size
  clear := do
    count .clear
    note .clear
  draw column row glyph := do
    count .draw
    note (.draw column row glyph)
  message row text style := do
    count .message
    note (.message row text style)
  present := do
    count .present
    note .present
  nextKey limit := do
    count .key
    match limit with
    | some nanoseconds =>
      let key ← takeTimed
      note (.tick nanoseconds key)
      pure key
    | none =>
      let key ← takeKey
      note (.key key)
      pure key
  alert := do
    if ← Act.ask Script.hasBell then
      count .alert
      note .alert

end Script

end Karel.Console
