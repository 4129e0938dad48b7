import Karel.Text.Ranges

/-!
# Blanks, words and lines

Text is read as a list of characters. A blank is any of the twenty-five white space characters of
the Unicode standard, line ends included. A word is a longest stretch without blanks.
-/

namespace Karel.Text

/-- The white space characters, as ranges of code points. -/
def blankRanges : List (Nat × Nat) :=
  [(0x09, 0x0D), (0x20, 0x20), (0x85, 0x85), (0xA0, 0xA0), (0x1680, 0x1680), (0x2000, 0x200A),
   (0x2028, 0x2029), (0x202F, 0x202F), (0x205F, 0x205F), (0x3000, 0x3000)]

/-- Whether a character is white space. -/
def isBlank (character : Char) : Bool := inRanges blankRanges character

/-- The lines of a text, without the line feeds that end them. A carriage return before a line feed
stays as a blank of its line, and what follows the last line feed is a line even if it is empty. -/
def lines (text : List Char) : List (List Char) := text.splitOn '\n'

/-- The words of a text. -/
def words (text : List Char) : List (List Char) :=
  (text.splitOnP isBlank).filter fun word => !word.isEmpty

/-- The text without the blanks at its two ends. -/
def trim (text : List Char) : List Char :=
  ((text.dropWhile isBlank).reverse.dropWhile isBlank).reverse

end Karel.Text
