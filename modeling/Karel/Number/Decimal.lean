import Karel.Number.Binary64

/-!
# Decimal notation

Decimal numbers with a fraction and a power of ten, read as the nearest floating point number. Apart
from digits, the words for infinity and for no number are read too, in any capitalisation.
-/

namespace Karel.Number.Decimal

/-- The bits of the number nearest to `digits · 10 ^ exponent`. Far beyond the range of floating
point numbers the power is not computed. -/
def magnitudeBits (digits : Nat) (exponent : Int) : UInt64 :=
  let leading : Int := (Nat.toDigits 10 digits).length + exponent
  if digits = 0 ∨ leading < -400 then 0
  else if leading > 400 then Binary64.infinityBits
  else if exponent < 0 then Binary64.nearestBits digits (Nat.pow 10 exponent.natAbs)
  else Binary64.nearestBits (digits * Nat.pow 10 exponent.toNat) 1

/-- The number with the given sign whose magnitude has the given bits. -/
def withSign (negative : Bool) (bits : UInt64) : Float :=
  Float.ofBits (if negative then bits + 0x8000000000000000 else bits)

/-- The number nearest to `value · 10 ^ exponent`. -/
def toFloat (value : Int) (exponent : Int) : Float :=
  withSign (decide (value < 0)) (magnitudeBits value.natAbs exponent)

/-- The bits that a word stands for. -/
def wordBits? (word : List Char) : Option UInt64 :=
  match String.ofList (word.map Char.toLower) with
  | "inf" | "infinity" => some Binary64.infinityBits
  | "nan" => some Binary64.nanBits
  | _ => none

/-- Takes a sign off a numeral; the answer tells whether it was a minus sign. -/
def splitSign : List Char → Bool × List Char
  | '-' :: rest => (true, rest)
  | '+' :: rest => (false, rest)
  | text => (false, text)

/-- Reads the power of ten after a mantissa: nothing, or `e` with a whole number. -/
def exponent? : List Char → Option Int
  | [] => some 0
  | _ :: text =>
    let (negative, digits) := splitSign text
    if digits.isEmpty || !digits.all Char.isDigit then none
    else
      let value : Int := Nat.ofDigitChars 10 digits 0
      some (if negative then -value else value)

/-- Reads digits with at most one point and a power of ten. At least one digit is needed. -/
def magnitude? (text : List Char) : Option UInt64 := do
  let isExponentMark (character : Char) : Bool := character == 'e' || character == 'E'
  let mantissa := text.takeWhile fun character => !isExponentMark character
  let whole := mantissa.takeWhile (· != '.')
  let fraction := (mantissa.dropWhile (· != '.')).drop 1
  let digits := whole ++ fraction
  let exponent ← exponent? (text.dropWhile fun character => !isExponentMark character)
  if digits.isEmpty || !digits.all Char.isDigit then none
  else some (magnitudeBits (Nat.ofDigitChars 10 digits 0) (exponent - fraction.length))

/-- Reads a number in decimal notation. -/
def float? (text : List Char) : Option Float :=
  let (negative, text) := splitSign text
  (wordBits? text <|> magnitude? text).map (withSign negative)

end Karel.Number.Decimal
