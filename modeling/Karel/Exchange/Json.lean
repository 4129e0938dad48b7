/-!
# JSON

JSON texts as values. Only what the exchanged values need is kept: whole numbers are kept exactly,
and all other numbers are one thing; strings with half a surrogate pair can be skipped but have no
text. Objects keep their members in order, repeated names included.
-/

namespace Karel.Exchange

/-- A JSON value. -/
inductive Json
  | null
  | bool (value : Bool)
  /-- A number; its value is there if it is written as a whole number other than `-0`. -/
  | number (value : Option Int)
  /-- A string; its text is there if it has one. -/
  | string (text : Option String)
  | array (items : List Json)
  | object (members : List (Option String × Json))

namespace Json

/-- A string with a text. -/
def ofString (text : String) : Json := string (some text)

/-- A whole number. -/
def ofInt (value : Int) : Json := number (some value)

/-- An object with the given members. -/
def ofMembers (members : List (String × Json)) : Json :=
  object (members.map fun (name, value) => (some name, value))

/-! A reader gives what it read and the text after that, or nothing if the text does not start as it
should. -/

/-- The text after white space. -/
def skipSpace (text : List Char) : List Char :=
  text.dropWhile fun character => [' ', '\n', '\t', '\r'].contains character

/-- Reads a fixed word. -/
def readWord (word : String) (value : Json) (text : List Char) : Option (Json × List Char) :=
  if word.toList.isPrefixOf text then some (value, text.drop word.length) else none

/-- The digits at the start of a text, and the rest. -/
def splitDigits (text : List Char) : List Char × List Char :=
  (text.takeWhile Char.isDigit, text.dropWhile Char.isDigit)

/-- Reads the fraction of a number, if there is one. The answer tells whether there is. -/
def readFraction : List Char → Option (Bool × List Char)
  | '.' :: text =>
    let (digits, rest) := splitDigits text
    if digits.isEmpty then none else some (true, rest)
  | text => some (false, text)

/-- The text after a sign, if there is one. -/
def skipSign : List Char → List Char
  | '+' :: text | '-' :: text => text
  | text => text

/-- Reads the power of ten of a number, if there is one. The answer tells whether there is. -/
def readPower : List Char → Option (Bool × List Char)
  | 'e' :: text | 'E' :: text =>
    let (digits, rest) := splitDigits (skipSign text)
    if digits.isEmpty then none else some (true, rest)
  | text => some (false, text)

/-- Reads a number after its sign. Only zero starts with a zero. -/
def readMagnitude (negative : Bool) (text : List Char) : Option (Json × List Char) := do
  let (digits, rest) := splitDigits text
  if digits.isEmpty || digits.length > 1 && digits.head? == some '0' then none
  let (hasFraction, rest) ← readFraction rest
  let (hasPower, rest) ← readPower rest
  let value := Nat.ofDigitChars 10 digits 0
  if hasFraction || hasPower || negative && value == 0 then
    return (number none, rest)
  else
    return (ofInt (if negative then -Int.ofNat value else value), rest)

/-- The value of a hexadecimal digit. -/
def hexValue? (digit : Char) : Option Nat :=
  if digit.isDigit then some (digit.toNat - '0'.toNat)
  else if 'a' ≤ digit ∧ digit ≤ 'f' then some (digit.toNat - 'a'.toNat + 10)
  else if 'A' ≤ digit ∧ digit ≤ 'F' then some (digit.toNat - 'A'.toNat + 10)
  else none

/-- A unit of a string: a character, or one half of a surrogate pair. -/
inductive TextUnit
  | character (character : Char)
  | surrogate (code : Nat)

/-- Reads the four digits of an escape. -/
def readCode : List Char → Option (TextUnit × List Char)
  | first :: second :: third :: fourth :: rest => do
    let digits ← [first, second, third, fourth].mapM hexValue?
    let code := digits.foldl (fun value digit => 16 * value + digit) 0
    if 0xD800 ≤ code ∧ code < 0xE000 then return (.surrogate code, rest)
    else return (.character (Char.ofNat code), rest)
  | _ => none

/-- Reads an escape after its backslash. -/
def readEscape : List Char → Option (TextUnit × List Char)
  | '"' :: rest => some (.character '"', rest)
  | '\\' :: rest => some (.character '\\', rest)
  | '/' :: rest => some (.character '/', rest)
  | 'b' :: rest => some (.character '\x08', rest)
  | 'f' :: rest => some (.character '\x0c', rest)
  | 'n' :: rest => some (.character '\n', rest)
  | 'r' :: rest => some (.character '\r', rest)
  | 't' :: rest => some (.character '\t', rest)
  | 'u' :: rest => readCode rest
  | _ => none

/-- Reads the units of a string up to its closing quote. The fuel is at least the length of the
text. -/
def readUnits : Nat → List Char → Option (List TextUnit × List Char)
  | 0, _ => none
  | _ + 1, [] => none
  | fuel + 1, character :: rest =>
    if character = '"' then some ([], rest)
    else if character.toNat < 0x20 then none
    else do
      let (unit, rest) ←
        if character = '\\' then readEscape rest else some (.character character, rest)
      let (units, rest) ← readUnits fuel rest
      return (unit :: units, rest)

/-- The text of units, if every half of a surrogate pair meets its other half. -/
def textOfUnits : List TextUnit → Option (List Char)
  | [] => some []
  | .character character :: rest => (textOfUnits rest).map (character :: ·)
  | .surrogate high :: .surrogate low :: rest =>
    if high < 0xDC00 ∧ 0xDC00 ≤ low then
      (textOfUnits rest).map (Char.ofNat (0x10000 + (high - 0xD800) * 1024 + (low - 0xDC00)) :: ·)
    else none
  | .surrogate _ :: _ => none

/-- Reads a string after its opening quote. -/
def readString (text : List Char) : Option (Option String × List Char) := do
  let (units, rest) ← readUnits (text.length + 1) text
  return ((textOfUnits units).map String.ofList, rest)

mutual

/-- Reads a value, at most so many values deep and long. -/
def readValue : Nat → List Char → Option (Json × List Char)
  | 0, _ => none
  | fuel + 1, text =>
    match skipSpace text with
    | 'n' :: rest => readWord "null" null ('n' :: rest)
    | 't' :: rest => readWord "true" (bool true) ('t' :: rest)
    | 'f' :: rest => readWord "false" (bool false) ('f' :: rest)
    | '"' :: rest => do
      let (text, rest) ← readString rest
      return (string text, rest)
    | '[' :: rest =>
      match skipSpace rest with
      | ']' :: rest => some (array [], rest)
      | rest => do
        let (items, rest) ← readItems fuel rest
        return (array items, rest)
    | '\x7b' :: rest =>
      match skipSpace rest with
      | '\x7d' :: rest => some (object [], rest)
      | rest => do
        let (members, rest) ← readMembers fuel rest
        return (object members, rest)
    | '-' :: rest => readMagnitude true rest
    | text => readMagnitude false text

/-- Reads the items of an array up to its end. There is at least one. -/
def readItems : Nat → List Char → Option (List Json × List Char)
  | 0, _ => none
  | fuel + 1, text => do
    let (item, rest) ← readValue fuel text
    match skipSpace rest with
    | ',' :: rest =>
      let (items, rest) ← readItems fuel rest
      return (item :: items, rest)
    | ']' :: rest => return ([item], rest)
    | _ => none

/-- Reads the members of an object up to its end. There is at least one. -/
def readMembers : Nat → List Char → Option (List (Option String × Json) × List Char)
  | 0, _ => none
  | fuel + 1, text =>
    match skipSpace text with
    | '"' :: rest => do
      let (name, rest) ← readString rest
      match skipSpace rest with
      | ':' :: rest =>
        let (value, rest) ← readValue fuel rest
        match skipSpace rest with
        | ',' :: rest =>
          let (members, rest) ← readMembers fuel rest
          return ((name, value) :: members, rest)
        | '\x7d' :: rest => return ([(name, value)], rest)
        | _ => none
      | _ => none
    | _ => none

end

/-- Reads a text that holds one value and nothing else. -/
def read (text : String) : Option Json := do
  let characters := text.toList
  let (value, rest) ← readValue (2 * characters.length + 2) characters
  if (skipSpace rest).isEmpty then return value else none

/-- The escape of a character in a string, or the character itself. -/
def renderChar (character : Char) : List Char :=
  if character = '"' then ['\\', '"']
  else if character = '\\' then ['\\', '\\']
  else if character.toNat < 0x20 then
    ['\\', 'u', '0', '0',
      Nat.digitChar (character.toNat / 16), Nat.digitChar (character.toNat % 16)]
  else [character]

/-- The written form of a string. -/
def renderString (text : String) : String :=
  String.ofList ('"' :: text.toList.flatMap renderChar ++ ['"'])

mutual

/-- The shortest text of a value. Numbers that are not known as whole numbers, and strings without a
text, have no written form and become null. -/
def render : Json → String
  | null => "null"
  | bool value => if value then "true" else "false"
  | number value => (value.map toString).getD "null"
  | string text => (text.map renderString).getD "null"
  | array items => "[" ++ ",".intercalate (renderItems items) ++ "]"
  | object members => "\x7b" ++ ",".intercalate (renderMembers members) ++ "\x7d"

/-- The texts of the items of an array. -/
def renderItems : List Json → List String
  | [] => []
  | item :: rest => render item :: renderItems rest

/-- The texts of the members of an object. -/
def renderMembers : List (Option String × Json) → List String
  | [] => []
  | (name, value) :: rest =>
    (renderString (name.getD "") ++ ":" ++ render value) :: renderMembers rest

end

end Json

end Karel.Exchange
