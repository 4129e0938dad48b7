import Karel.Language.Machine

/-!
# Watched runs

A watched run counts the steps a program makes, keeps the greatest depth of calls and writes down
the first steps. It changes nothing in what the program does.
-/

namespace Karel

/-- What was seen of a run. -/
structure Tally where
  steps : Nat := 0
  deepest : Nat := 0
  /-- The first steps as they are shown. -/
  shown : Array String := #[]

/-- Sees one more step, writing down at most `keep` of them. -/
def Tally.see (tally : Tally) (keep : Nat) (step : Step) : Tally where
  steps := tally.steps + 1
  deepest := max tally.deepest step.depth
  shown := if tally.steps < keep then tally.shown.push step.text else tally.shown

/-- Runs a program for at most so many steps and writes down what is seen. The answer tells whether
the program ended. -/
def Program.watch {σ ε : Type} (program : Program) (vocabulary : Vocabulary σ ε)
    (steps keep : Nat) : Act (σ × Tally) (RunFailure ε) Bool := do
  let vocabulary := vocabulary.onPart Prod.fst (fun (_, tally) state => (state, tally)) id
  let left ← program.run vocabulary
    (fun step => .update fun (state, tally) => (state, tally.see keep step)) steps
  pure left.isEmpty

end Karel
