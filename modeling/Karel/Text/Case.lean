import Karel.Text.CaseTable
import Karel.Text.Ranges

/-!
# Upper and lower case

The full case mappings of the Unicode standard, without those of single languages. A letter can
become several characters, and a capital sigma at the end of a word becomes a final sigma. On ASCII
text, both mappings change letters one by one and nothing else.
-/

namespace Karel.Text.Case

/-- Whether a run has a letter at a code point. -/
def Run.covers (run : Run) (code : Nat) : Bool :=
  decide (run.first ≤ code ∧ code ≤ run.last ∧ (code - run.first) % run.step = 0)

/-- The single character that a table of runs gives for a character. -/
def shifted (runs : List Run) (character : Char) : Char :=
  match runs.find? (·.covers character.toNat) with
  | some run => Char.ofNat ((character.toNat : Int) + run.shift).toNat
  | none => character

/-- Whether the next character that is not skipped is a letter with case. -/
def meetsCased (text : List Char) : Bool :=
  match text.dropWhile (inRanges ignorableRanges) with
  | character :: _ => inRanges casedRanges character
  | [] => false

/-- The lower case of a character that stands alone. -/
def lowerChar (character : Char) : List Char :=
  if character.toNat < 128 then [character.toLower]
  else if character = 'İ' then ['i', '\u0307']
  else [shifted lowerRuns character]

/-- The lower case of a text, given what stands before it, the nearest character first. -/
def lowerAfter : List Char → List Char → List Char
  | _, [] => []
  | before, 'Σ' :: after =>
    (if meetsCased before && !meetsCased after then 'ς' else 'σ') ::
      lowerAfter ('Σ' :: before) after
  | before, character :: after => lowerChar character ++ lowerAfter (character :: before) after

/-- The lower case of a text. -/
def lower (text : List Char) : List Char := lowerAfter [] text

/-- The upper case of a character. -/
def upperChar (character : Char) : List Char :=
  if character.toNat < 128 then [character.toUpper]
  else
    match upperExpansions.find? (·.1 == character.toNat) with
    | some (_, expansion) => expansion.map Char.ofNat
    | none => [shifted upperRuns character]

/-- The upper case of a text. -/
def upper (text : List Char) : List Char := text.flatMap upperChar

/-- The lower case of a string. -/
def lowerString (text : String) : String := String.ofList (lower text.toList)

/-- The upper case of a string. -/
def upperString (text : String) : String := String.ofList (upper text.toList)

end Karel.Text.Case
