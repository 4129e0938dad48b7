import Karel.Proofs.Language.Evaluation
import Karel.Proofs.Language.WellFormed

/-!
# The stack and the recursion

The machine drops a frame before it makes its last statement, so its stack is not the chain of
calls: it holds just the callers with statements left. `Program.evaluateStack` says what such a stack
means, each frame being the rest of a procedure to evaluate, and `advance_eq_evaluateStack` that the
machine does what the stack means, step by step and for any number of steps.
-/

namespace Karel

variable {σ ε : Type}

/-- A frame with a statement left to make. -/
def Frame.Live (frame : Frame) : Prop := frame.index < frame.body.length

/-- The body of a live frame has a next statement, from which the others are left. -/
theorem Frame.exists_statement {frame : Frame} (live : frame.Live) :
    ∃ statement, frame.body[frame.index]? = some statement ∧
      frame.body.drop frame.index = statement :: frame.body.drop (frame.index + 1) :=
  ⟨_, List.getElem?_eq_getElem live, List.drop_eq_getElem_cons live⟩

/-- What is left of the stack while a statement runs is live. -/
theorem Frame.live_remaining {frame : Frame} {callers : List Frame} (live : frame.Live)
    (others : ∀ caller ∈ callers, caller.Live) :
    ∀ caller ∈ frame.remaining callers, caller.Live := by
  unfold Frame.remaining
  split
  next => exact others
  next unfinished =>
    intro caller member
    rcases List.mem_cons.mp member with rfl | earlier
    · unfold Frame.Live at live ⊢
      dsimp only
      omega
    · exact others caller earlier

/-- What is left of the stack while a statement runs is the callers that have statements left. -/
theorem Frame.length_remaining {frame : Frame} {callers : List Frame} (live : frame.Live) :
    (frame.remaining callers).length =
      Program.pendingCallers callers.length (frame.body.drop (frame.index + 1)) := by
  unfold Frame.Live at live
  unfold Frame.remaining Program.pendingCallers
  by_cases last : frame.index + 1 = frame.body.length
  · simp [last]
  · have more : ¬ frame.body.length ≤ frame.index + 1 := by omega
    simp [last, more]

namespace Program

variable {program : Program} {vocabulary : Vocabulary σ ε} {observe : Step → Act σ ε Unit}

/-- The meaning of a stack: the rest of each procedure in turn, the top one first. -/
def evaluateStack (program : Program) (vocabulary : Vocabulary σ ε)
    (observe : Step → Act σ ε Unit) (budget : Nat) : List Frame → Act σ (RunFailure ε) Bool
  | [] => pure true
  | frame :: callers => do
    let remainder ← program.evaluateBody vocabulary observe budget callers.length frame.procedure
      frame.index (frame.body.drop frame.index)
    match remainder with
    | none => pure false
    | some left => program.evaluateStack vocabulary observe left callers

/-- What is left of the stack means the rest of the top procedure and then the callers. -/
theorem evaluateStack_remaining (budget : Nat) (frame : Frame) (callers : List Frame) :
    program.evaluateStack vocabulary observe budget (frame.remaining callers) = (do
      let remainder ← program.evaluateBody vocabulary observe budget callers.length
        frame.procedure (frame.index + 1) (frame.body.drop (frame.index + 1))
      match remainder with
      | none => pure false
      | some left => program.evaluateStack vocabulary observe left callers) := by
  unfold Frame.remaining
  split
  next last =>
    rw [List.drop_eq_nil_of_le (Nat.le_of_eq last.symm), evaluateBody_nil, pure_bind]
  next => rfl

theorem advance_cons (steps : Nat) (frame : Frame) (callers : List Frame) :
    program.advance vocabulary observe (steps + 1) (frame :: callers) = (do
      let stack ← program.next vocabulary observe (frame :: callers)
      program.advance vocabulary observe steps stack) := rfl

/-- A frame shows its next statement and makes it. -/
theorem next_of_statement {frame : Frame} {statement : Statement}
    (found : frame.body[frame.index]? = some statement) (callers : List Frame) :
    program.next vocabulary observe (frame :: callers) = (do
      (observe ⟨frame.procedure, frame.index, callers.length + 1, statement⟩).mapError .act
      let name ← resolve vocabulary statement
      let called ← program.perform vocabulary name
      pure (called.toList ++ frame.remaining callers)) := by
  rw [next, Frame.step?, found, Option.map_some]

/-- The machine does what its stack means. The induction is on the number of steps: each of them
makes one statement, and what it leaves on the stack means the rest of the evaluation. -/
theorem advance_eq_evaluateStack (filled : program.Filled) (steps : Nat) (stack : List Frame)
    (live : ∀ frame ∈ stack, frame.Live) :
    List.isEmpty <$> program.advance vocabulary observe steps stack =
      program.evaluateStack vocabulary observe steps stack := by
  induction steps generalizing stack with
  | zero =>
      cases stack with
      | nil => rfl
      | cons frame callers =>
          obtain ⟨statement, _, more⟩ := Frame.exists_statement (live frame List.mem_cons_self)
          rw [evaluateStack, more, evaluateBody_zero, pure_bind]
          rfl
  | succ steps inductionHypothesis =>
      cases stack with
      | nil => rfl
      | cons frame callers =>
          have top : frame.Live := live frame List.mem_cons_self
          have left := Frame.live_remaining top fun caller member =>
            live caller (List.mem_cons_of_mem _ member)
          obtain ⟨statement, found, more⟩ := Frame.exists_statement top
          rw [advance_cons, next_of_statement found, evaluateStack, more, evaluateBody_cons]
          simp only [map_bind, bind_assoc]
          congr 1
          funext _
          congr 1
          funext name
          unfold perform frame?
          cases vocabulary.commands[name]? with
          | some action =>
              simp only [bind_assoc, pure_bind, Option.toList_none, List.nil_append]
              congr 1
              funext _
              rw [inductionHypothesis _ left, evaluateStack_remaining]
              congr 1
              funext remainder
              cases remainder <;> rfl
          | none =>
              cases defined : program.procedures[name]? with
              | none => rfl
              | some body =>
                  have called : ∀ callee ∈ ⟨name, body, 0⟩ :: frame.remaining callers,
                      callee.Live := by
                    intro callee member
                    rcases List.mem_cons.mp member with rfl | caller
                    · exact List.length_pos_iff.mpr (filled _ _ defined)
                    · exact left callee caller
                  simp only [Option.map_some, bind_assoc, pure_bind, Option.toList_some,
                    List.singleton_append]
                  rw [inductionHypothesis _ called, evaluateStack, Frame.length_remaining top]
                  congr 1
                  funext remainder
                  cases remainder with
                  | none => rfl
                  | some left =>
                      simp only [evaluateStack_remaining, bind_assoc, pure_bind]
                      congr 1
                      funext remainder
                      cases remainder <;> rfl

/-- A run of the machine comes as far as the evaluation on the same number of statements. -/
theorem isEmpty_run (filled : program.Filled) (steps : Nat) :
    List.isEmpty <$> program.run vocabulary observe steps =
      program.evaluate vocabulary observe steps := by
  unfold run start frame? evaluate
  cases program.main with
  | none => rfl
  | some name =>
      dsimp only
      cases defined : program.procedures[name]? with
      | none => rfl
      | some body =>
          have live : ∀ frame ∈ [(⟨name, body, 0⟩ : Frame)], frame.Live := by
            intro frame member
            rw [List.mem_singleton.mp member]
            exact List.length_pos_iff.mpr (filled _ _ defined)
          simp only [Option.map_some]
          rw [advance_eq_evaluateStack filled steps _ live, evaluateStack]
          congr 1
          funext remainder
          cases remainder <;> rfl

end Program

end Karel
