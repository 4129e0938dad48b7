import Karel.Language.Machine
import Karel.Proofs.Acts

/-!
# The meaning of a program by recursion

A procedure means its statements in order, and a statement that calls a procedure means all of that
procedure before the next statement. No stack is kept: `Program.evaluateBody` calls itself. Programs
need not end, so it runs on a budget of statements and gives back what is left of it.
`Program.Completes` is the same meaning without a budget, for the runs that end well.
-/

namespace Karel

/-- What is left of a budget of statements, or nothing if it was too small. -/
abbrev Remainder (budget : Nat) := Option { left : Nat // left ≤ budget }

/-- The remainder of a part of a budget as a remainder of the whole. -/
def Remainder.widen {part budget : Nat} (fits : part ≤ budget) (remainder : Remainder part) :
    Remainder budget :=
  remainder.map fun left => ⟨left.1, Nat.le_trans left.2 fits⟩

/-- Widening leaves as many statements. -/
theorem Remainder.map_widen {part budget : Nat} (fits : part ≤ budget)
    (remainder : Remainder part) :
    (remainder.widen fits).map (·.1) = remainder.map (·.1) := by
  cases remainder <;> rfl

namespace Program

variable {σ ε : Type}

/-- The number of callers with statements left, during a call made before the statements `rest`. -/
def pendingCallers (callers : Nat) (rest : List Statement) : Nat :=
  if rest.isEmpty then callers else callers + 1

/-- Runs the statements of a procedure from the one with the given index on, with so many callers
that have statements left. A condition is asked once. A command is run, and any other name is that
of a procedure, which is run to its end before the next statement. -/
def evaluateBody (program : Program) (vocabulary : Vocabulary σ ε) (observe : Step → Act σ ε Unit)
    (budget callers : Nat) (procedure : String) (index : Nat) :
    List Statement → Act σ (RunFailure ε) (Remainder budget)
  | [] => pure (some ⟨budget, Nat.le_refl budget⟩)
  | statement :: rest =>
    match budget with
    | 0 => pure none
    | budget + 1 => do
      (observe ⟨procedure, index, callers + 1, statement⟩).mapError .act
      let choice : Act σ (RunFailure ε) String :=
        match statement with
        | .invoke name => pure name
        | .choose condition yes no =>
          match vocabulary.conditions[condition]? with
          | none => throw (.fault (.unknownCondition condition))
          | some check => do
            let holds ← check.mapError .act
            pure (if holds then yes else no)
      let name ← choice
      match vocabulary.commands[name]? with
      | some action => do
        action.mapError .act
        let remainder ← program.evaluateBody vocabulary observe budget callers procedure
          (index + 1) rest
        pure (remainder.widen (Nat.le_succ budget))
      | none =>
        match program.procedures[name]? with
        | none => throw (.fault (.undefinedProcedure name))
        | some body => do
          let called ← program.evaluateBody vocabulary observe budget
            (pendingCallers callers rest) name 0 body
          match called with
          | none => pure none
          | some ⟨left, fits⟩ => do
            let remainder ← program.evaluateBody vocabulary observe left callers procedure
              (index + 1) rest
            pure (remainder.widen (Nat.le_succ_of_le fits))
termination_by budget

/-- Runs a program on a budget of statements. The answer tells whether it came to its end. -/
def evaluate (program : Program) (vocabulary : Vocabulary σ ε) (observe : Step → Act σ ε Unit)
    (budget : Nat) : Act σ (RunFailure ε) Bool :=
  match program.main with
  | none => throw (.fault .noRun)
  | some name =>
    match program.procedures[name]? with
    | none => throw (.fault (.undefinedProcedure name))
    | some body => do
      let remainder ← program.evaluateBody vocabulary observe budget 0 name 0 body
      pure remainder.isSome

/-- The name that a statement goes on with, with the states before and after it is found. -/
inductive Chooses (vocabulary : Vocabulary σ ε) : Statement → σ → String → σ → Prop
  | invoke {name state} : Chooses vocabulary (.invoke name) state name state
  | choose {condition yes no check holds state next}
      (known : vocabulary.conditions[condition]? = some check)
      (answered : check.apply state = (.ok holds, next)) :
      Chooses vocabulary (.choose condition yes no) state (if holds then yes else no) next

/-- From the first state, the statements of a procedure come to their end in the last one, without
a failure. -/
inductive CompletesBody (program : Program) (vocabulary : Vocabulary σ ε)
    (observe : Step → Act σ ε Unit) : Nat → String → Nat → List Statement → σ → σ → Prop
  | nil {callers procedure index state} :
      CompletesBody program vocabulary observe callers procedure index [] state state
  | command {callers procedure index statement rest name action first seen chosen done last}
      (shown : (observe ⟨procedure, index, callers + 1, statement⟩).apply first = (.ok (), seen))
      (chooses : Chooses vocabulary statement seen name chosen)
      (known : vocabulary.commands[name]? = some action)
      (performed : action.apply chosen = (.ok (), done))
      (others : CompletesBody program vocabulary observe callers procedure (index + 1) rest
        done last) :
      CompletesBody program vocabulary observe callers procedure index (statement :: rest) first last
  | call {callers procedure index statement rest name body first seen chosen done last}
      (shown : (observe ⟨procedure, index, callers + 1, statement⟩).apply first = (.ok (), seen))
      (chooses : Chooses vocabulary statement seen name chosen)
      (unknown : vocabulary.commands[name]? = none)
      (defined : program.procedures[name]? = some body)
      (called : CompletesBody program vocabulary observe (pendingCallers callers rest) name 0 body
        chosen done)
      (others : CompletesBody program vocabulary observe callers procedure (index + 1) rest
        done last) :
      CompletesBody program vocabulary observe callers procedure index (statement :: rest) first last

/-- From the first state, the program comes to its end in the last one, without a failure. -/
def Completes (program : Program) (vocabulary : Vocabulary σ ε) (observe : Step → Act σ ε Unit)
    (first last : σ) : Prop :=
  ∃ name body, program.main = some name ∧ program.procedures[name]? = some body ∧
    program.CompletesBody vocabulary observe 0 name 0 body first last

section Budget

variable {program : Program} {vocabulary : Vocabulary σ ε} {observe : Step → Act σ ε Unit}

theorem evaluateBody_nil (budget callers : Nat) (procedure : String) (index : Nat) :
    program.evaluateBody vocabulary observe budget callers procedure index [] =
      pure (some ⟨budget, Nat.le_refl budget⟩) := by
  rw [evaluateBody]

theorem evaluateBody_zero (callers : Nat) (procedure : String) (index : Nat)
    (statement : Statement) (rest : List Statement) :
    program.evaluateBody vocabulary observe 0 callers procedure index (statement :: rest) =
      pure none := by
  rw [evaluateBody]

/-- The evaluation of one statement and then of the others, with the name of the statement found as
the machine finds it. -/
theorem evaluateBody_cons (budget callers : Nat) (procedure : String) (index : Nat)
    (statement : Statement) (rest : List Statement) :
    program.evaluateBody vocabulary observe (budget + 1) callers procedure index
        (statement :: rest) = (do
      (observe ⟨procedure, index, callers + 1, statement⟩).mapError .act
      let name ← resolve vocabulary statement
      match vocabulary.commands[name]? with
      | some action => do
        action.mapError .act
        let remainder ← program.evaluateBody vocabulary observe budget callers procedure
          (index + 1) rest
        pure (remainder.widen (Nat.le_succ budget))
      | none =>
        match program.procedures[name]? with
        | none => throw (.fault (.undefinedProcedure name))
        | some body => do
          let called ← program.evaluateBody vocabulary observe budget
            (pendingCallers callers rest) name 0 body
          match called with
          | none => pure none
          | some ⟨left, fits⟩ => do
            let remainder ← program.evaluateBody vocabulary observe left callers procedure
              (index + 1) rest
            pure (remainder.widen (Nat.le_succ_of_le fits))) := by
  rw [evaluateBody.eq_def]
  cases statement <;> rfl

/-- Finding the name of a statement succeeds exactly with a name it goes on with. -/
theorem resolve_eq_ok_iff {statement : Statement} {state next : σ} {name : String} :
    (resolve vocabulary statement).apply state = (.ok name, next) ↔
      Chooses vocabulary statement state name next := by
  constructor
  · intro found
    cases statement with
    | invoke invoked =>
        cases found
        exact .invoke
    | choose condition yes no =>
        cases known : vocabulary.conditions[condition]? with
        | none =>
            simp only [resolve, known] at found
            cases found
        | some check =>
            simp only [resolve, known] at found
            obtain ⟨holds, _, answered, chosen⟩ := Act.apply_bind_eq_ok_iff.mp found
            cases chosen
            exact .choose known (Act.apply_mapError_eq_ok_iff.mp answered)
  · intro chooses
    cases chooses with
    | invoke => rfl
    | choose known answered =>
        simp only [resolve, known]
        exact Act.apply_bind_eq_ok_iff.mpr
          ⟨_, _, Act.apply_mapError_eq_ok_iff.mpr answered, rfl⟩

/-- What comes to its end on a budget comes to its end without one. The induction is on the budget,
which every statement makes smaller, also that of a called procedure. -/
theorem completesBody_of_evaluateBody {budget callers : Nat} {procedure : String} {index : Nat}
    {statements : List Statement} {first last : σ} {left : { left : Nat // left ≤ budget }}
    (evaluated : (program.evaluateBody vocabulary observe budget callers procedure index
      statements).apply first = (.ok (some left), last)) :
    program.CompletesBody vocabulary observe callers procedure index statements first last := by
  induction budget using Nat.strongRecOn generalizing callers procedure index statements first last
    with
  | ind budget inductionHypothesis =>
    cases statements with
    | nil =>
        rw [evaluateBody_nil] at evaluated
        cases evaluated
        exact .nil
    | cons statement rest =>
        cases budget with
        | zero =>
            rw [evaluateBody_zero] at evaluated
            cases evaluated
        | succ budget =>
            rw [evaluateBody_cons, Act.apply_bind_eq_ok_iff] at evaluated
            obtain ⟨_, seen, shown, evaluated⟩ := evaluated
            obtain ⟨name, chosen, chooses, evaluated⟩ := Act.apply_bind_eq_ok_iff.mp evaluated
            rw [Act.apply_mapError_eq_ok_iff] at shown
            rw [resolve_eq_ok_iff] at chooses
            split at evaluated
            next action known =>
              obtain ⟨_, done, performed, evaluated⟩ := Act.apply_bind_eq_ok_iff.mp evaluated
              obtain ⟨remainder, _, others, same⟩ := Act.apply_bind_eq_ok_iff.mp evaluated
              rw [Act.apply_mapError_eq_ok_iff] at performed
              cases remainder with
              | none => cases same
              | some left =>
                  cases same
                  exact .command shown chooses known performed
                    (inductionHypothesis budget (by omega) others)
            next unknown =>
              split at evaluated
              next => cases evaluated
              next body defined =>
                obtain ⟨called, done, calls, evaluated⟩ := Act.apply_bind_eq_ok_iff.mp evaluated
                split at evaluated
                next => cases evaluated
                next left fits =>
                  obtain ⟨remainder, _, others, same⟩ := Act.apply_bind_eq_ok_iff.mp evaluated
                  cases remainder with
                  | none => cases same
                  | some left =>
                      cases same
                      exact .call shown chooses unknown defined
                        (inductionHypothesis budget (by omega) calls)
                        (inductionHypothesis _ (by omega) others)

/-- What comes to its end does so on some budget, and gives back all that is beyond it. -/
theorem evaluateBody_of_completesBody {callers : Nat} {procedure : String} {index : Nat}
    {statements : List Statement} {first last : σ}
    (completes : program.CompletesBody vocabulary observe callers procedure index statements
      first last) :
    ∃ used, ∀ spare, ∃ remainder,
      (program.evaluateBody vocabulary observe (used + spare) callers procedure index
        statements).apply first = (.ok remainder, last) ∧
      remainder.map (·.1) = some spare := by
  induction completes with
  | nil =>
      refine ⟨0, fun spare => ⟨_, by rw [evaluateBody_nil]; rfl, ?_⟩⟩
      simp
  | command shown chooses known performed others inductionHypothesis =>
      obtain ⟨used, enough⟩ := inductionHypothesis
      refine ⟨used + 1, fun spare => ?_⟩
      obtain ⟨remainder, evaluated, left⟩ := enough spare
      rw [Nat.add_right_comm, evaluateBody_cons]
      refine ⟨remainder.widen (Nat.le_succ _), ?_, by rw [Remainder.map_widen, left]⟩
      refine Act.apply_bind_eq_ok_iff.mpr ⟨_, _, Act.apply_mapError_eq_ok_iff.mpr shown, ?_⟩
      refine Act.apply_bind_eq_ok_iff.mpr ⟨_, _, resolve_eq_ok_iff.mpr chooses, ?_⟩
      rw [known]
      refine Act.apply_bind_eq_ok_iff.mpr ⟨_, _, Act.apply_mapError_eq_ok_iff.mpr performed, ?_⟩
      exact Act.apply_bind_eq_ok_iff.mpr ⟨_, _, evaluated, rfl⟩
  | call shown chooses unknown defined called others calledHypothesis othersHypothesis =>
      obtain ⟨inside, enoughInside⟩ := calledHypothesis
      obtain ⟨used, enough⟩ := othersHypothesis
      refine ⟨inside + used + 1, fun spare => ?_⟩
      obtain ⟨called, calls, calledLeft⟩ := enoughInside (used + spare)
      obtain ⟨⟨left, fits⟩, rfl, rfl⟩ := Option.map_eq_some_iff.mp calledLeft
      obtain ⟨remainder, evaluated, restLeft⟩ := enough spare
      rw [show inside + used + 1 + spare = inside + (used + spare) + 1 by omega, evaluateBody_cons]
      refine ⟨remainder.widen (Nat.le_succ_of_le fits), ?_, by rw [Remainder.map_widen, restLeft]⟩
      refine Act.apply_bind_eq_ok_iff.mpr ⟨_, _, Act.apply_mapError_eq_ok_iff.mpr shown, ?_⟩
      refine Act.apply_bind_eq_ok_iff.mpr ⟨_, _, resolve_eq_ok_iff.mpr chooses, ?_⟩
      rw [unknown, defined]
      refine Act.apply_bind_eq_ok_iff.mpr ⟨_, _, calls, ?_⟩
      exact Act.apply_bind_eq_ok_iff.mpr ⟨_, _, evaluated, rfl⟩

/-- A program comes to its end exactly if some budget is enough for it. -/
theorem completes_iff_evaluate {first last : σ} :
    program.Completes vocabulary observe first last ↔
      ∃ budget, (program.evaluate vocabulary observe budget).apply first = (.ok true, last) := by
  unfold Completes evaluate
  constructor
  · rintro ⟨name, body, main, defined, completes⟩
    obtain ⟨used, enough⟩ := evaluateBody_of_completesBody completes
    obtain ⟨remainder, evaluated, left⟩ := enough 0
    rw [main]
    simp only [defined]
    refine ⟨used + 0, Act.apply_bind_eq_ok_iff.mpr ⟨_, _, evaluated, ?_⟩⟩
    obtain ⟨_, rfl, _⟩ := Option.map_eq_some_iff.mp left
    rfl
  · rintro ⟨budget, evaluated⟩
    cases main : program.main with
    | none =>
        rw [main] at evaluated
        cases evaluated
    | some name =>
        cases defined : program.procedures[name]? with
        | none =>
            simp only [main, defined] at evaluated
            cases evaluated
        | some body =>
            simp only [main, defined] at evaluated
            obtain ⟨remainder, _, evaluated, finished⟩ := Act.apply_bind_eq_ok_iff.mp evaluated
            cases remainder with
            | none => cases finished
            | some left =>
                cases finished
                exact ⟨name, body, rfl, defined, completesBody_of_evaluateBody evaluated⟩

end Budget

end Program

end Karel
