import Karel.CommandLine.Name
import Karel.CommandLine.Options
import Karel.Text.Numeral

/-!
# Reading the command line

Options have a letter, a word or both. Letters can be put together behind one dash, and the value of
an option can follow in the same argument, with or without an equals sign after a letter and with
one after a word, or in the next argument. An argument that starts with a dash is no value, except
negative numbers for a position.

An option that waits for its value is settled when the next option is found or the arguments end.
So a bad value is reported unless a fault of another kind is met before that.
-/

namespace Karel.CommandLine

/-- Why reading the arguments ends without options. -/
inductive Interruption
  /-- The user asks for help. -/
  | help
  /-- The user asks for the version. -/
  | version
  | unknownArgument
  /-- An option without the value it needs. -/
  | missingValue
  /-- A value that does not stand for what the option needs. -/
  | badValue
  | wrongNumberOfValues
  /-- A value for an option that takes none. -/
  | unneededValue
  /-- An option given twice, or together with one that excludes it. -/
  | conflict
deriving DecidableEq

/-- What the user is told. -/
def Interruption.message : Interruption → String
  | help => helpPage
  | version => "karel 0.1.0\n"
  | unknownArgument => "error: there is an argument that means nothing\n"
  | missingValue => "error: an option lacks its value\n"
  | badValue => "error: an option can not have this value\n"
  | wrongNumberOfValues => "error: an option has the wrong number of values\n"
  | unneededValue => "error: an option has a value but needs none\n"
  | conflict => "error: options can not be used together or twice\n"

/-- Whether the text after a dash is that of a negative number: digits, with at most one point after
the first of them and at most one mark of a power of ten after that, which is not the end. -/
def isNumeric (text : List Char) : Bool :=
  let isMark (character : Char) : Bool := character == 'e' || character == 'E'
  let mantissa := text.takeWhile fun character => !isMark character
  let power := text.dropWhile fun character => !isMark character
  let whole := mantissa.takeWhile (· != '.')
  let fraction := mantissa.dropWhile (· != '.')
  whole.all Char.isDigit && (fraction.drop 1).all Char.isDigit &&
    (fraction.isEmpty || !whole.isEmpty) &&
    (power.isEmpty || !mantissa.isEmpty && power.length > 1 && (power.drop 1).all Char.isDigit)

/-- The whole number of a value, if it lies in a range. -/
def integer? (value : String) (least greatest : Int) : Except Interruption Int :=
  match Text.Numeral.integer? value.toList with
  | some number =>
    if least ≤ number ∧ number ≤ greatest then .ok number else .error .badValue
  | none => .error .badValue

/-- The coordinate of a value. -/
def coordinate (value : String) : Except Interruption Coordinate :=
  (integer? value (-2147483648) 2147483647).map Int32.ofInt

/-- The path of a value, which is not empty. -/
def path (value : String) : Except Interruption String :=
  if value.isEmpty then .error .missingValue else .ok value

/-- The direction of a value. -/
def direction (value : String) : Except Interruption Direction :=
  match value.toList with
  | [character] =>
    match Direction.ofGlyph? character with
    | some direction => .ok direction
    | none => .error .badValue
  | _ => .error .badValue

/-- The speed of a value. -/
def speed (value : String) : Except Interruption Float :=
  match Number.Decimal.float? value.toList with
  | some speed => .ok speed
  | none => .error .badValue

/-- Enters an option with its values, of which there are as many as it takes. -/
def Options.enter (options : Options) : Name → List String → Except Interruption Options
  | .columns, [value] => do return { options with columns := some (← coordinate value) }
  | .rows, [value] => do return { options with rows := some (← coordinate value) }
  | .endlessColumns, _ => .ok { options with endlessColumns := true }
  | .endlessRows, _ => .ok { options with endlessRows := true }
  | .direction, [value] => do
    return { options with direction := some (← CommandLine.direction value) }
  | .position, values => do
    let coordinates ← values.mapM coordinate
    return { options with position := some (options.position.getD [] ++ coordinates) }
  | .beepers, [value] => do
    let count ← integer? value 0 4294967295
    return { options with beepers := some (.ofNat count.toNat) }
  | .speed, [value] => do return { options with speed := ← CommandLine.speed value }
  | .quiet, _ => .ok { options with quiet := true }
  | .verbose, _ => .ok { options with verbose := true }
  | .logFile, [value] => do return { options with logFile := some (← path value) }
  | .lookahead, [value] => do return { options with lookahead := ← coordinate value }
  | .output, [value] => do return { options with output := some (← path value) }
  | .tableMap, _ => .ok { options with tableMap := true }
  | .map, [value] => do return { options with map := some (← path value) }
  | .program, [value] => do return { options with program := some (← path value) }
  | .stepLevel, _ => .ok { options with
      stepLevel := if options.stepLevel < 255 then options.stepLevel + 1 else 255 }
  | .help, _ => .error .help
  | .version, _ => .error .version
  | _, _ => .error .wrongNumberOfValues

/-- An option that waits for values, with those found so far. -/
structure Waiting where
  name : Name
  values : List String

/-- What was read so far. -/
structure State where
  options : Options := {}
  /-- The options that were settled. -/
  given : List Name := []
  waiting : Option Waiting := none
  /-- Whether two dashes were met, after which there are no options. -/
  optionsEnded : Bool := false

/-- Settles an option whose values are complete. -/
def State.settle (state : State) (name : Name) (values : List String) :
    Except Interruption State :=
  if name.valueCount ≠ 0 ∧ values.isEmpty then
    .error .missingValue
  else if values.length ≠ name.valueCount then
    .error .wrongNumberOfValues
  else if state.given.contains name && !name.isRepeatable then
    .error .conflict
  else
    match state.options.enter name values with
    | .error interruption => .error interruption
    | .ok options => .ok { state with options := options, given := name :: state.given }

/-- Settles the option that waits, if there is one. -/
def State.settleWaiting (state : State) : Except Interruption State :=
  match state.waiting with
  | none => .ok state
  | some waiting => { state with waiting := none }.settle waiting.name waiting.values

/-- Takes an option that was found, with the value found in the same argument. -/
def State.take (state : State) (name : Name) (attached : Option String) :
    Except Interruption State := do
  let state ← state.settleWaiting
  match attached with
  | some value => state.settle name [value]
  | none =>
    if name.valueCount = 0 then state.settle name []
    else return { state with waiting := some ⟨name, []⟩ }

/-- The value that follows a letter in the same argument. -/
def attachedValue : List Char → Option String
  | [] => none
  | '=' :: value => some (String.ofList value)
  | value => some (String.ofList value)

/-- Reads the letters behind a dash. The first one that takes a value takes the rest. -/
def State.readLetters (state : State) : List Char → Except Interruption State
  | [] => .ok state
  | letter :: rest =>
    match Name.ofLetter? letter with
    | none => .error .unknownArgument
    | some name =>
      if name.valueCount = 0 then
        match state.take name none with
        | .error interruption => .error interruption
        | .ok state => state.readLetters rest
      else
        state.take name (attachedValue rest)

/-- Reads the word behind two dashes, with what follows an equals sign. -/
def State.readWord (state : State) (text : List Char) : Except Interruption State :=
  let word := text.takeWhile (· != '=')
  let attached := match text.dropWhile (· != '=') with
    | [] => none
    | _ :: value => some (String.ofList value)
  match Name.ofWord? (String.ofList word) with
  | none => .error .unknownArgument
  | some name =>
    if name.valueCount = 0 ∧ attached.isSome then .error .unneededValue
    else state.take name attached

/-- Reads an argument that is no option: the value that an option waits for. -/
def State.readValue (state : State) (argument : String) : Except Interruption State :=
  match state.waiting with
  | some waiting =>
    if waiting.values.length < waiting.name.valueCount then
      .ok { state with waiting := some { waiting with values := waiting.values ++ [argument] } }
    else
      .error .unknownArgument
  | none => .error .unknownArgument

/-- Whether an option waits for a value that may be a negative number. -/
def State.acceptsNumber (state : State) : Bool :=
  state.waiting.any fun waiting =>
    waiting.name == .position && waiting.values.length < waiting.name.valueCount

/-- Reads one argument. -/
def State.read (state : State) (argument : String) : Except Interruption State :=
  if state.optionsEnded then
    .error .unknownArgument
  else
    match argument.toList with
    | ['-', '-'] => .ok { state with optionsEnded := true }
    | '-' :: '-' :: text => state.readWord text
    | '-' :: first :: rest =>
      if state.acceptsNumber && isNumeric (first :: rest) then state.readValue argument
      else state.readLetters (first :: rest)
    | _ => state.readValue argument

/-- Ends the arguments. -/
def State.finish (state : State) : Except Interruption Options := do
  let state ← state.settleWaiting
  if state.options.quiet && state.options.verbose then throw .conflict
  return state.options

/-- Reads the arguments of a call. -/
def read (arguments : List String) : Except Interruption Options := do
  let state ← arguments.foldlM State.read {}
  state.finish

end Karel.CommandLine
