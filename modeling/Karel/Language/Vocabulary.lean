import Std.Data.ExtTreeMap
import Karel.Drivable
import Karel.Text.Case

/-!
# Vocabularies

A vocabulary gives meaning to the words of Karel's language: commands are acts, and conditions are
acts that answer yes or no. A program only names them, so the same program runs on whatever state
its vocabulary acts on. Names are kept in lower case.
-/

namespace Karel

/-- The commands and conditions that programs can name. -/
structure Vocabulary (σ ε : Type) where
  commands : Std.ExtTreeMap String (Act σ ε Unit)
  conditions : Std.ExtTreeMap String (Act σ ε Bool)

namespace Vocabulary

variable {σ τ ε δ : Type}

/-- The vocabulary without words: every name is then that of a procedure. -/
def empty : Vocabulary σ ε := ⟨∅, ∅⟩

/-- Gives a command name its meaning, in place of an earlier one. -/
def setCommand (vocabulary : Vocabulary σ ε) (name : String) (action : Act σ ε Unit) :
    Vocabulary σ ε :=
  { vocabulary with
    commands := vocabulary.commands.insert (Text.Case.lowerString name) action }

/-- Gives a condition name its meaning, in place of an earlier one. -/
def setCondition (vocabulary : Vocabulary σ ε) (name : String) (check : Act σ ε Bool) :
    Vocabulary σ ε :=
  { vocabulary with
    conditions := vocabulary.conditions.insert (Text.Case.lowerString name) check }

/-- Whether a name, in lower case, is that of a command. -/
def isCommand (vocabulary : Vocabulary σ ε) (name : String) : Bool :=
  vocabulary.commands.contains name

/-- Whether a name, in lower case, is that of a condition. -/
def isCondition (vocabulary : Vocabulary σ ε) (name : String) : Bool :=
  vocabulary.conditions.contains name

/-- The listed commands and conditions; a later entry for a name replaces an earlier one. -/
def ofLists (commands : List (String × Act σ ε Unit)) (conditions : List (String × Act σ ε Bool)) :
    Vocabulary σ ε :=
  conditions.foldl (fun vocabulary entry => vocabulary.setCondition entry.1 entry.2)
    (commands.foldl (fun vocabulary entry => vocabulary.setCommand entry.1 entry.2) empty)

/-- The usual words for driving Karel. -/
def standard [Drivable σ ε] : Vocabulary σ ε :=
  ofLists
    [("skip", pure ()),
     ("move", Drivable.move),
     ("left", Drivable.turnLeft),
     ("right", Drivable.turnRight),
     ("pick", Drivable.pick),
     ("put", Drivable.put)]
    [("ifwall", Drivable.frontIsBlocked),
     ("ifmark", Drivable.beeperIsPresent),
     ("ifgold", Drivable.frontIsTreasure),
     ("ifnorth", Drivable.isFacing .north),
     ("ifeast", Drivable.isFacing .east),
     ("ifsouth", Drivable.isFacing .south),
     ("ifwest", Drivable.isFacing .west)]

/-- The same words acting on a part of a larger state. -/
def onPart (vocabulary : Vocabulary τ δ) (part : σ → τ) (replace : σ → τ → σ) (cause : δ → ε) :
    Vocabulary σ ε where
  commands := vocabulary.commands.map fun _ action => action.onPart part replace cause
  conditions := vocabulary.conditions.map fun _ check => check.onPart part replace cause

end Vocabulary

end Karel
