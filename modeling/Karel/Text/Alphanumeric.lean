import Karel.Text.AlphanumericTable
import Karel.Text.Ranges

/-!
# Letters and digits

Which characters are letters or digits in any script.
-/

namespace Karel.Text

/-- Whether a character is a letter or a digit. -/
def isAlphanumeric (character : Char) : Bool :=
  character.isAlphanum || inRanges alphanumericRanges character

end Karel.Text
