import Karel.Console.Terminal
import Karel.Text.Numeral

/-!
# Typing

What a keyboard sends, read as input of a terminal. Most keys send the character they stand for;
the others send an escape character and more. The reader goes through the characters one by one,
keeping in its state what of a key was already sent, so nothing is read twice and every list of
characters has a reading.
-/

namespace Karel.Console

/-- What was already sent of the next key. -/
inductive Typing
  | nothing
  /-- An escape character. -/
  | escape
  /-- An escape character and the letter `O`. -/
  | function
  /-- An escape character, a bracket and some parameters, the last character first. -/
  | sequence (parameters : List Char)
deriving DecidableEq

namespace Typing

/-- The escape key, which stands for the letter `q`. -/
def escapeKey : Input := .key (.character 'q')

/-- A character that is sent alone. Letters and digits held down with the control key are sent as
the first 32 characters. -/
def ofCharacter (character : Char) : Input :=
  if character = '\r' ∨ character = '\t' ∨ character = '\x7f' then .other
  else if character = '\x00' then .key (.character ' ')
  else if character.toNat < 28 then .key (.character (Char.ofNat (character.toNat + 96)))
  else if character.toNat < 32 then .key (.character (Char.ofNat (character.toNat + 24)))
  else .key (.character character)

/-- A key that is sent as a number. -/
def ofNumber (number : Nat) : Input :=
  if number = 27 then escapeKey
  else if number = 9 ∨ number = 13 ∨ number = 127 then .other
  else if 57344 ≤ number ∧ number ≤ 63743 then .other
  else .key (.character (Char.ofNat number))

/-- The key of a letter that ends a sequence. -/
def ofFinal : Char → Input
  | 'A' => .key .up
  | 'B' => .key .down
  | 'C' => .key .right
  | 'D' => .key .left
  | 'P' => .key .help
  | _ => .other

/-- The key of a sequence. The parameters are numbers with semicolons between them. A colon and a
number behind the second one tell what happened to the key; three means that it was let go. -/
def ofSequence (parameters : List Char) (final : Char) : Input :=
  let fields := (parameters.splitOn ';').map fun field =>
    (field.splitOn ':').map Text.Numeral.natural?
  let code := (fields.head?.bind List.head?).join
  let event := (fields[1]?.bind (·[1]?)).join
  if event = some 3 then .other
  else
    match final, code with
    | 'u', some number => ofNumber number
    | 'u', none => .other
    | '~', code => if code = some 11 then .key .help else .other
    | final, _ => ofFinal final

/-- Takes one more character. -/
def next : Typing → Char → Typing × List Input
  | nothing, character =>
    if character = '\x1b' then (escape, []) else (nothing, [ofCharacter character])
  | escape, character =>
    if character = 'O' then (function, [])
    else if character = '[' then (sequence [], [])
    else if character = '\x1b' then (nothing, [escapeKey])
    else (nothing, [ofCharacter character])
  | function, character => (nothing, [ofFinal character])
  | sequence parameters, character =>
    if 64 ≤ character.toNat ∧ character.toNat ≤ 126 then
      (nothing, [ofSequence parameters.reverse character])
    else
      (sequence (character :: parameters), [])

/-- What is left when nothing more is sent: what could have been the start of a sequence was the
escape key, or another one held down with the alt key. -/
def ended : Typing → List Input
  | nothing => []
  | escape => [escapeKey]
  | function => [ofCharacter 'O']
  | sequence [] => [ofCharacter '[']
  | sequence _ => []

/-- Reads all characters from a state on. -/
def read (typing : Typing) : List Char → List Input
  | [] => typing.ended
  | character :: rest =>
    let (typing, inputs) := typing.next character
    inputs ++ typing.read rest

end Typing

/-- The input that a text stands for when it is typed. -/
def typed (text : String) : List Input := Typing.nothing.read text.toList

end Karel.Console
