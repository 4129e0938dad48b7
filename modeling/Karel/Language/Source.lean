import Karel.Language.Program
import Karel.Language.Vocabulary
import Karel.Text.Blank

/-!
# Program text

A program text has blocks `DEFINE name … END` and one line `RUN name`. Capitalisation, blanks and
what follows a `#` do not matter. A line is in error if it has the wrong number of words or is out
of place, and the first such line is reported. Names are looked up only when the whole text is read,
so a procedure can be used before its definition, and all undefined names are reported together.
-/

namespace Karel.Language

/-- A name that was used without being defined, with the number of each line that uses it. -/
structure UndefinedName where
  name : String
  lines : List Nat
deriving DecidableEq

/-- The wording of one undefined name. -/
def UndefinedName.message (undefined : UndefinedName) : String :=
  s!"procedure '{undefined.name}' not defined on lines " ++
    ", ".intercalate (undefined.lines.map toString)

/-- What is wrong with a program text. Lines are counted from one. -/
inductive SourceFault
  | wordCount (line expected found : Nat)
  | unknownDeclaration (line : Nat) (word : String)
  /-- A keyword stands inside a procedure. -/
  | unterminated (line : Nat) (keyword : String)
  /-- The text ends inside a procedure. -/
  | unterminatedAtEnd (name : String)
  | duplicateProcedure (line : Nat) (name : String)
  | duplicateRun (line : Nat)
  | emptyProcedure (line : Nat)
  | undefined (names : List UndefinedName)
deriving DecidableEq

/-- The wording of a fault. -/
def SourceFault.message : SourceFault → String
  | wordCount line expected found =>
    s!"line {line}: wrong number of tokens (expected {expected}, found {found})"
  | unknownDeclaration line word => s!"line {line}: unknown declaration '{word}'"
  | unterminated line keyword => s!"line {line}: last procedure not ENDed before {keyword}"
  | unterminatedAtEnd name => s!"last defined procedure '{name}' not ENDed"
  | duplicateProcedure line name => s!"line {line}: multiple definitions of '{name}'"
  | duplicateRun line => s!"line {line}: multiple RUN declarations"
  | emptyProcedure line => s!"line {line}: procedure cannot be empty, use SKIP"
  | undefined names => "; ".intercalate (names.map UndefinedName.message)

/-- The words of a line in lower case, without the comment. -/
def lineWords (line : List Char) : List String :=
  (Text.words (Text.Case.lower (line.takeWhile (· != '#')))).map String.ofList

/-- A name that was used, with the number of its line. -/
structure Reference where
  name : String
  line : Nat
deriving DecidableEq

/-- What was read so far of a program text. -/
structure Draft where
  program : Program := .empty
  /-- The procedure that is being read, with its statements so far. -/
  open? : Option (String × List Statement) := none
  /-- The names to look up at the end, in the order of the text. -/
  references : List Reference := []

variable {σ ε : Type}

/-- The number of words that a line with this first word must have. -/
def expectedWords (vocabulary : Vocabulary σ ε) (keyword : String) : Nat :=
  if keyword = "define" ∨ keyword = "run" then 2
  else if vocabulary.isCondition keyword then 3
  else 1

/-- Those of the names that have to be procedures, because they are not commands. -/
def calls (vocabulary : Vocabulary σ ε) (line : Nat) (names : List String) : List Reference :=
  (names.filter fun name => !vocabulary.isCommand name).map fun name => ⟨name, line⟩

/-- Reads a line between procedures. The procedure to run must be one even if a command has the same
name. -/
def Draft.declare (draft : Draft) (line : Nat) : List String → Except SourceFault Draft
  | ["define", name] =>
    if draft.program.procedures.contains name then
      .error (.duplicateProcedure line name)
    else
      .ok { draft with open? := some (name, []) }
  | ["run", name] =>
    if draft.program.main.isSome then
      .error (.duplicateRun line)
    else
      .ok { draft with
        program := { draft.program with main := some name }
        references := draft.references ++ [⟨name, line⟩] }
  | word :: _ => .error (.unknownDeclaration line word)
  | [] => .ok draft

/-- Adds a statement to the procedure that is being read. -/
def Draft.push (draft : Draft) (name : String) (body : List Statement) (statement : Statement)
    (references : List Reference) : Draft :=
  { draft with
    open? := some (name, body ++ [statement])
    references := draft.references ++ references }

/-- Reads a line of the procedure `name`, whose statements so far are `body`. -/
def Draft.readBody (draft : Draft) (vocabulary : Vocabulary σ ε) (line : Nat) (name : String)
    (body : List Statement) : List String → Except SourceFault Draft
  | "define" :: _ => .error (.unterminated line "DEFINE")
  | "run" :: _ => .error (.unterminated line "RUN")
  | ["end"] =>
    if body.isEmpty then
      .error (.emptyProcedure line)
    else
      .ok { draft with
        program := { draft.program with procedures := draft.program.procedures.insert name body }
        open? := none }
  | [condition, yes, no] =>
    .ok (draft.push name body (.choose condition yes no) (calls vocabulary line [yes, no]))
  | [invoked] => .ok (draft.push name body (.invoke invoked) (calls vocabulary line [invoked]))
  | _ => .ok draft

/-- Reads a line, given as its words. -/
def Draft.readLine (draft : Draft) (vocabulary : Vocabulary σ ε) (line : Nat)
    (words : List String) : Except SourceFault Draft :=
  match words with
  | [] => .ok draft
  | keyword :: _ =>
    if words.length ≠ expectedWords vocabulary keyword then
      .error (.wordCount line (expectedWords vocabulary keyword) words.length)
    else
      match draft.open? with
      | none => draft.declare line words
      | some (name, body) => draft.readBody vocabulary line name body words

/-- Reads lines, given as their words, from the given line number on. -/
def Draft.readLines (vocabulary : Vocabulary σ ε) :
    Nat → List (List String) → Draft → Except SourceFault Draft
  | _, [], draft => .ok draft
  | line, words :: rest, draft =>
    match draft.readLine vocabulary line words with
    | .error fault => .error fault
    | .ok draft => Draft.readLines vocabulary (line + 1) rest draft

/-- Enters one more undefined use of a name. -/
def addUndefined (names : List UndefinedName) (reference : Reference) : List UndefinedName :=
  if names.any (·.name == reference.name) then
    names.map fun undefined =>
      if undefined.name = reference.name then
        { undefined with lines := undefined.lines ++ [reference.line] }
      else
        undefined
  else
    names ++ [⟨reference.name, [reference.line]⟩]

/-- The undefined names among the references, in the order of their first use. -/
def undefinedNames (program : Program) (references : List Reference) : List UndefinedName :=
  (references.filter fun reference => !program.procedures.contains reference.name).foldl
    addUndefined []

/-- Ends the text. -/
def Draft.finish (draft : Draft) : Except SourceFault Program :=
  match draft.open? with
  | some (name, _) => .error (.unterminatedAtEnd name)
  | none =>
    match undefinedNames draft.program draft.references with
    | [] => .ok draft.program
    | names => .error (.undefined names)

/-- Reads a program text whose lines are given as their words. -/
def readWords (vocabulary : Vocabulary σ ε) (lines : List (List String)) :
    Except SourceFault Program :=
  match Draft.readLines vocabulary 1 lines {} with
  | .error fault => .error fault
  | .ok draft => draft.finish

/-- Reads a program text that may use the words of a vocabulary. -/
def read (vocabulary : Vocabulary σ ε) (source : String) : Except SourceFault Program :=
  readWords vocabulary ((Text.lines source.toList).map lineWords)

end Karel.Language
