import Karel.Text.EscapeTable
import Karel.Text.Ranges

/-!
# Quoted text

Text between double quotes. Quotes, backslashes and characters that would not show are written as
escapes, so that the end of the text can be seen.
-/

namespace Karel.Text.Quoted

/-- A digit of the hexadecimal notation, in lower case. -/
def hexDigits (value : Nat) : List Char := Nat.toDigits 16 value

/-- The escape that gives the code point of a character. -/
def codeEscape (character : Char) : List Char :=
  ['\\', 'u', '\x7b'] ++ hexDigits character.toNat ++ ['\x7d']

/-- Whether a character would not show. -/
def isHidden (character : Char) : Bool :=
  decide (character.toNat < 0x20) || character.toNat == 0x7F || inRanges escapedRanges character

/-- The quoted form of a character. -/
def encodeChar (character : Char) : List Char :=
  if character = '"' then ['\\', '"']
  else if character = '\\' then ['\\', '\\']
  else if character = '\t' then ['\\', 't']
  else if character = '\n' then ['\\', 'n']
  else if character = '\r' then ['\\', 'r']
  else if character.toNat = 0 then ['\\', '0']
  else if isHidden character then codeEscape character
  else [character]

/-- The quoted form of a text. -/
def encode (text : String) : String :=
  String.ofList ('"' :: text.toList.flatMap encodeChar ++ ['"'])

end Karel.Text.Quoted
