import Karel.Console.Screen

/-!
# Terminals

A terminal is a screen that is driven by control sequences. What is drawn becomes text, and what is
typed waits in a queue. The sequences are the usual ones: an escape character, a bracket, numbers
and a letter; rows and columns are then counted from one.
-/

namespace Karel.Console

/-- Something that waits to be read from a terminal. -/
inductive Input
  | key (pressed : Key)
  /-- Something that means nothing to a session, such as a key that is let go. -/
  | other
  /-- The terminal gets another size. -/
  | resized (size : ScreenSize)
deriving DecidableEq

/-- A terminal, with all that was written to it and all that waits to be read. -/
structure Terminal where
  size : ScreenSize
  input : List Input
  /-- What was written, the last piece first. -/
  written : List String

namespace Terminal

/-- A control sequence. -/
def control (sequence : String) : String := "\x1b[" ++ sequence

/-- The sequence that moves the cursor to a column and a row, which are counted from zero. -/
def moveTo (column row : UInt16) : String := control s!"{row.toNat + 1};{column.toNat + 1}H"

/-- The colours in use. -/
inductive Colour
  | white
  | green
  | yellow
  | red
  | cyan
  /-- The colour of ordinary text. -/
  | usual
deriving DecidableEq

/-- The sequence that sets the colour of characters. -/
def foreground : Colour → String
  | .white => control "38;5;15m"
  | .green => control "38;5;10m"
  | .yellow => control "38;5;11m"
  | .red => control "38;5;9m"
  | .cyan => control "38;5;14m"
  | .usual => control "39m"

/-- The sequence that sets the colour behind characters. Only walls have one of their own. -/
def background : Colour → String
  | .white => control "48;5;15m"
  | _ => control "49m"

/-- The sequence that sets all colours back. -/
def plain : String := control "0m"

/-- The sequence that empties the whole screen. -/
def clearAll : String := control "2J"

/-- The colours of a glyph: that of the character and the one behind it. -/
def colours : Glyph → Colour × Colour
  | .tile .wall => (.white, .white)
  | .tile (.beepers _) | .tile .treasure => (.green, .usual)
  | .tile .empty => (.yellow, .usual)
  | .robot _ true => (.red, .usual)
  | .robot _ false => (.cyan, .usual)

/-- The colour of a message. -/
def messageColour : MessageStyle → Colour
  | .status => .usual
  | .error => .red
  | .complete => .green

/-- Writes pieces of text. -/
def write (pieces : List String) : Act Terminal DisplayFault Unit :=
  .update fun terminal => { terminal with written := String.join pieces :: terminal.written }

/-- A terminal of the given size on which nothing was written, with its input waiting. -/
def ofSize (size : ScreenSize) (input : List Input) : Terminal := ⟨size, input, []⟩

/-- Takes the terminal over: another page without cursor, emptied. -/
def takeOver : Act Terminal DisplayFault Unit :=
  write [control "?1049h", control "?25l", clearAll]

/-- Gives the terminal back as it was. -/
def finish (terminal : Terminal) : Terminal :=
  { terminal with written := control "?1049l" :: control "?25h" :: terminal.written }

/-- All that was written. -/
def output (terminal : Terminal) : String := String.join terminal.written.reverse

/-- What an input tells the session, and the terminal after it was read. -/
def accept (terminal : Terminal) : Input → Option Key × Terminal
  | .key pressed => (some pressed, terminal)
  | .other => (none, terminal)
  | .resized size => (some .resize, { terminal with size := size })

/-- Reads one input, if there is any. -/
def readOne (terminal : Terminal) : Option Key × Terminal :=
  match terminal.input with
  | [] => (none, terminal)
  | first :: rest => accept { terminal with input := rest } first

/-- Reads inputs up to a key. A terminal whose input has ended fails. -/
def readKey (terminal : Terminal) : List Input → Except DisplayFault (Option Key) × Terminal
  | [] => (.error (.device "input has ended"), { terminal with input := [] })
  | first :: rest =>
    match accept { terminal with input := rest } first with
    | (some key, terminal) => (.ok (some key), terminal)
    | (none, terminal) => readKey terminal rest

instance : Screen Terminal where
  size := .ask Terminal.size
  clear := write [clearAll]
  draw column row glyph :=
    let (front, behind) := colours glyph
    write [moveTo column row, foreground front, background behind,
      String.singleton glyph.character, plain]
  message row text style :=
    write [moveTo 0 row, control "2K", foreground (messageColour style), text, plain]
  present := pure ()
  nextKey
    | some _ => .ofFunction fun terminal =>
      let (key, terminal) := readOne terminal
      (.ok key, terminal)
    | none => .ofFunction fun terminal => readKey terminal terminal.input
  alert := write ["\x07"]

end Terminal

end Karel.Console
