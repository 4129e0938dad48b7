import Karel.Proofs.Console.Follows
import Karel.Proofs.World.Reachable
import Karel.Session.Keyboard

/-!
# Reading a key script

What interactive mode has to do, told without a session. Keys are read one by one, and each of them
either says what to do or takes away a text that is shown. `Reading.press` is the reading of one key,
and `Reading.readAll` that of a whole script.
-/

namespace Karel.Session

open Console

/-- What a key says. -/
inductive Meaning
  | leave (exit : Exit)
  | operate (operation : World.Operation)
  | pause
  | save
  | resize
  | nothing

/-- The meaning of a key. -/
def meaning : Key → Meaning
  | .character 'q' => .leave .quit
  | .character 'I' => .leave .stopped
  | .up => .operate .move
  | .left => .operate .turnLeft
  | .right => .operate .turnRight
  | .character 'u' => .operate .put
  | .character 'i' => .operate .pick
  | .character '#' => .operate (.setTileAhead .wall)
  | .character '.' => .operate (.setTileAhead .empty)
  | .character '$' => .operate (.setTileAhead .treasure)
  | .character 'p' => .pause
  | .character 'w' => .save
  | .character 'R' | .resize => .resize
  | .character 'V' | .character 'h' | .help | .down => .nothing
  | .character digit =>
    if digit.isDigit then .operate (.setBeepersHere (.ofNat (digit.toNat - '0'.toNat)))
    else .nothing

/-- How the reading of a script ends. -/
inductive Ending
  | exit (exit : Exit)
  /-- The screen has no room for a window. -/
  | tooSmall (size : ScreenSize)
  /-- A key was asked for when none was left. -/
  | ranOut

/-- The result of interactive mode at such an end, on a screen that fails in this way when no key is
left for it. -/
def Ending.result (ended : DisplayFault) : Ending → Except SessionFault (Option Exit)
  | exit how => .ok (some how)
  | tooSmall size => .error (.display (.tooSmall size ⟨1, 3⟩))
  | ranOut => .error (.display ended)

/-- The world as the keys have left it, whether the next key only takes away a text, and what is left
of the other scripts. -/
structure Reading where
  world : World
  prompted : Bool
  timedKeys : List (Option Key)
  sizes : Nat → ScreenSize

namespace Reading

/-- Shows a text that the next key takes away. -/
def prompt (reading : Reading) : Option Ending × Reading :=
  (none, { reading with prompted := true })

/-- Lets the time of one command pass, in which keys can ask to quit and to pause. -/
def passTime (reading : Reading) : Option Ending × Reading :=
  let after := { reading with timedKeys := reading.timedKeys.tail }
  let pressed := reading.timedKeys.head?.join
  if pressed = some (.character 'q') then (some (.exit .quit), after)
  else if pressed = some (.character 'p') then after.prompt
  else (none, after)

/-- Does what a key says. A refused operation changes nothing and is reported, and so is a failed
save. -/
def obey (saves : Bool) (reading : Reading) : Meaning → Option Ending × Reading
  | .leave exit => (some (.exit exit), reading)
  | .operate operation =>
    match operation.act.apply reading.world with
    | (.ok _, world) => { reading with world := world }.passTime
    | (.error _, _) => reading.prompt
  | .pause => reading.prompt
  | .save => if saves then (none, reading) else reading.prompt
  | .resize =>
    let asked := { reading with sizes := fun question => reading.sizes (question + 1) }
    if (reading.sizes 0).columns < 1 ∨ (reading.sizes 0).rows < 3 then
      (some (.tooSmall (reading.sizes 0)), asked)
    else
      asked.passTime
  | .nothing => (none, reading)

/-- Reads what one wait for a key has given. -/
def press (saves : Bool) (reading : Reading) (pressed : Option Key) : Option Ending × Reading :=
  if reading.prompted then
    if pressed = some (.character 'q') then (some (.exit .quit), reading)
    else (none, { reading with prompted := false })
  else
    match pressed with
    | none => (none, reading)
    | some key => reading.obey saves (meaning key)

/-- Reads a script of keys up to the end of interactive mode, and gives the rest of it. -/
def readAll (saves : Bool) (reading : Reading) :
    List (Option Key) → Ending × Reading × List (Option Key)
  | [] => (.ranOut, reading, [])
  | pressed :: rest =>
    match reading.press saves pressed with
    | (some ending, after) => (ending, after, rest)
    | (none, after) => after.readAll saves rest

variable {saves : Bool} {reading : Reading} {rest : List (Option Key)}

/-- A wait that gave no key says nothing, unless a text is shown. -/
theorem readAll_none (fresh : reading.prompted = false) :
    reading.readAll saves (none :: rest) = reading.readAll saves rest := by
  simp [readAll, press, fresh]

/-- A key is obeyed if no text is shown. -/
theorem readAll_key (fresh : reading.prompted = false) (key : Key) :
    reading.readAll saves (some key :: rest) =
      match reading.obey saves (meaning key) with
      | (some ending, after) => (ending, after, rest)
      | (none, after) => after.readAll saves rest := by
  simp only [readAll, press, fresh, Bool.false_eq_true, if_false]

/-- A text that is shown is taken away. -/
theorem readAll_prompted (prompted : reading.prompted = true) (pressed : Option Key) :
    reading.readAll saves (pressed :: rest) =
      if pressed = some (.character 'q') then (.exit .quit, reading, rest)
      else readAll saves { reading with prompted := false } rest := by
  by_cases quits : pressed = some (.character 'q') <;> simp [readAll, press, prompted, quits]

end Reading

end Karel.Session
