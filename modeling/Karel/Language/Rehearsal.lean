import Std.Data.ExtTreeMap
import Karel.Language.Vocabulary

/-!
# Rehearsals

A rehearsal runs a program without a world. Commands and conditions follow a script, which says what
each of them answers the first time it is called, the second time and so on, and every call is
written down.
-/

namespace Karel.Rehearsal

/-- The calls so far. -/
structure Record where
  calls : Array String := #[]
  counts : Std.ExtTreeMap String Nat := ∅

/-- A scripted word failed. -/
structure Failure where
  name : String
deriving DecidableEq

/-- The wording of a failure. -/
def Failure.message (failure : Failure) : String := s!"{failure.name} failed"

/-- Writes down a call and tells how often it was made before. -/
def call (key : String) : Act Record Failure Nat := .ofFunction fun record =>
  let count := record.counts.getD key 0
  (.ok count, { calls := record.calls.push key, counts := record.counts.insert key (count + 1) })

/-- A command that fails on the call with the given number, counted from zero. -/
def command (name : String) (failing : Option Nat) : Act Record Failure Unit := do
  let count ← call name
  if failing = some count then throw ⟨name⟩

/-- What a scripted condition answers: yes, no, or a failure. -/
abbrev Answer := Option Bool

/-- A condition that gives its answers one after the other, and then the last one again. Its calls
are written down with a question mark. -/
def condition (name : String) (answers : List Answer) : Act Record Failure Bool := do
  let count ← call ("?" ++ name)
  match (answers[min count (answers.length - 1)]?).join with
  | some answer => pure answer
  | none => throw ⟨name⟩

/-- The vocabulary of a script. -/
def vocabulary (commands : List (String × Option Nat)) (conditions : List (String × List Answer)) :
    Vocabulary Record Failure :=
  .ofLists (commands.map fun (name, failing) => (name, command name failing))
    (conditions.map fun (name, answers) => (name, condition name answers))

end Karel.Rehearsal
