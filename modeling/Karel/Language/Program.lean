import Std.Data.ExtTreeMap
import Karel.Text.Case

/-!
# Programs

A program is a set of named procedures, each a list of statements, and the name of the one to start
with. A statement names a command or a procedure, or chooses between two such names by a condition.
All names are kept in lower case and shown in upper case.
-/

namespace Karel

/-- One line of a procedure. -/
inductive Statement
  /-- Runs a command or calls a procedure. -/
  | invoke (name : String)
  /-- Runs the first name if the condition holds, and the second if not. -/
  | choose (condition yes no : String)
deriving DecidableEq

/-- The statement as it is shown. -/
def Statement.text : Statement → String
  | invoke name => Text.Case.upperString name
  | choose condition yes no =>
    " ".intercalate ([condition, yes, no].map Text.Case.upperString)

/-- Named procedures and the one to start with, if the program says so. -/
structure Program where
  main : Option String
  procedures : Std.ExtTreeMap String (List Statement)

namespace Program

/-- The program without procedures. -/
def empty : Program := ⟨none, ∅⟩

/-- The procedure of a name, however the name is capitalised. -/
def procedure? (program : Program) (name : String) : Option (List Statement) :=
  program.procedures[Text.Case.lowerString name]?

end Program

/-- A statement about to run: where it stands and how many calls are under way. -/
structure Step where
  procedure : String
  index : Nat
  depth : Nat
  statement : Statement
deriving DecidableEq

/-- The step as it is shown. -/
def Step.text (step : Step) : String :=
  s!"[{Text.Case.upperString step.procedure}:{step.index},stack size:{step.depth}] " ++
    step.statement.text

end Karel
