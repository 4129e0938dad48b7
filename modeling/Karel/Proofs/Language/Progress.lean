import Karel.Proofs.Language.Charts
import Karel.Proofs.Language.Depth

/-!
# The progress of a run

A program that was read has no empty procedure, so every frame that a run leaves on its stack has a
statement left, and every step shows one. An `Observer` is told which of its calls it answers, and a
numbered run counts them beside its state. `Program.advance_counts` is that a run still under way has
called its observer once for each step. So an observer that fails at some call ends the run with it,
if nothing ended it before: `Program.run_progresses`.
-/

namespace Karel

variable {σ ε σ₀ ε₀ α : Type}

/-- What an observer does at each of its calls, which are numbered from one. It can remember what it
wants in the state. -/
abbrev Observer (σ ε : Type) := Nat → Step → Act σ ε Unit

namespace Observer

/-- Answers the next call and counts it, whether the answer is a failure or not. -/
def watch (observer : Observer σ ε) (step : Step) : Act (σ × Nat) ε Unit :=
  .ofFunction fun (state, calls) =>
    (((observer (calls + 1) step).apply state).1, ((observer (calls + 1) step).apply state).2,
      calls + 1)

/-- Whatever is shown to the observer at this call, it fails. -/
def FailsAt (observer : Observer σ ε) (number : Nat) : Prop :=
  ∀ step state, ∃ cause, ((observer number step).apply state).1 = .error cause

/-- This call of the observer failed with the cause and left the state behind. -/
def FailedAt (observer : Observer σ ε) (number : Nat) (cause : ε) (last : σ) : Prop :=
  ∃ step state, (observer number step).apply state = (.error cause, last)

end Observer

/-- So many calls were made. -/
def Called (calls : Nat) (state : σ × Nat) : Prop := state.2 = calls

/-- The same words with the number of calls beside the state, which they leave alone. -/
def Vocabulary.numbered (vocabulary : Vocabulary σ ε) : Vocabulary (σ × Nat) ε :=
  vocabulary.onPart Prod.fst (fun (_, calls) state => (state, calls)) id

/-- An act on the state makes no calls. -/
theorem Act.onPart_keeps_calls (act : Act σ ε α) (calls : Nat) :
    (act.onPart Prod.fst (fun (_, calls) state => (state, calls)) id :
      Act (σ × Nat) ε α).Preserves (Called calls) fun _ => Called calls := by
  rintro ⟨state, _⟩ rfl
  unfold Act.Ensures
  rw [apply_onPart]
  rcases act.apply state with ⟨cause | value, next⟩ <;> rfl

theorem Vocabulary.numbered_judged (vocabulary : Vocabulary σ ε) (calls : Nat) :
    vocabulary.numbered.Judged (Act.preservation (Called calls)) fun _ => Called calls where
  command known := by
    rw [numbered, onPart, Std.ExtTreeMap.getElem?_map] at known
    obtain ⟨action, -, rfl⟩ := Option.map_eq_some_iff.mp known
    exact action.onPart_keeps_calls calls
  condition known := by
    rw [numbered, onPart, Std.ExtTreeMap.getElem?_map] at known
    obtain ⟨check, -, rfl⟩ := Option.map_eq_some_iff.mp known
    exact check.onPart_keeps_calls calls

/-- A frame that has a statement left shows it. -/
theorem Frame.exists_step {frame : Frame} (live : frame.Live) (callers : List Frame) :
    ∃ step, frame.step? callers = some step := by
  obtain ⟨statement, found, -⟩ := exists_statement live
  rw [step?, found]
  exact ⟨_, rfl⟩

namespace Program

/-- The run with an observer whose calls are counted. -/
def numbered (program : Program) (vocabulary : Vocabulary σ ε) (observer : Observer σ ε)
    (steps : Nat) : Act (σ × Nat) (RunFailure ε) (List Frame) :=
  program.run vocabulary.numbered observer.watch steps

/-- From the first state the run is over after so many steps, with this result and in this state.
More steps change nothing. -/
def ReturnsWithin (program : Program) (vocabulary : Vocabulary σ ε)
    (observe : Step → Act σ ε Unit) (enough : Nat) (first : σ) (result : Except (RunFailure ε) Unit)
    (last : σ) : Prop :=
  ∀ steps, enough ≤ steps →
    (program.run vocabulary observe steps).apply first = (result.map fun _ => [], last)

variable {program : Program} {vocabulary : Vocabulary σ ε} {observe : Step → Act σ ε Unit}
  {observer : Observer σ ε} {frame : Frame} {callers stack : List Frame}

/-! ## Going on -/

theorem advance_nil (steps : Nat) : program.advance vocabulary observe steps [] = pure [] := by
  cases steps <;> rfl

/-- More steps go on where fewer stopped. -/
theorem advance_add (steps more : Nat) (stack : List Frame) :
    program.advance vocabulary observe (steps + more) stack =
      program.advance vocabulary observe steps stack >>=
        program.advance vocabulary observe more := by
  induction steps generalizing stack with
  | zero => rw [Nat.zero_add, advance, pure_bind]
  | succ steps inductionHypothesis =>
      cases stack with
      | nil => rw [advance_nil, advance_nil, pure_bind, advance_nil]
      | cons frame callers =>
          rw [Nat.add_right_comm, advance_cons, advance_cons, bind_assoc]
          exact bind_congr inductionHypothesis

theorem run_add (steps more : Nat) :
    program.run vocabulary observe (steps + more) =
      program.run vocabulary observe steps >>= program.advance vocabulary observe more := by
  unfold run
  cases program.start with
  | error fault => rfl
  | ok stack => exact advance_add steps more stack

/-- A run that has failed or come to its end stays as it is. -/
theorem returnsWithin_of_run {enough : Nat} {first last : σ} {result : Except (RunFailure ε) Unit}
    (ended : (program.run vocabulary observe enough).apply first =
      (result.map fun _ => [], last)) :
    program.ReturnsWithin vocabulary observe enough first result last := by
  intro steps later
  obtain ⟨more, rfl⟩ := Nat.exists_eq_add_of_le later
  rw [run_add, Act.apply_bind, ended]
  cases result with
  | error failure => rfl
  | ok _ =>
      dsimp only [Except.map]
      rw [advance_nil, Act.apply_pure]

/-! ## Stacks under way -/

/-- A step from frames that have statements left leaves only such frames. -/
theorem live_next (filled : program.Filled) {left : List Frame} {state last : σ}
    (live : ∀ frame ∈ stack, frame.Live)
    (made : (program.next vocabulary observe stack).apply state = (.ok left, last)) :
    ∀ frame ∈ left, frame.Live := by
  cases stack with
  | nil =>
      cases made
      exact live
  | cons frame callers =>
      obtain ⟨top, others⟩ := List.forall_mem_cons.mp live
      obtain ⟨statement, found, -⟩ := Frame.exists_statement top
      rw [next_of_statement found] at made
      obtain ⟨_, _, _, made⟩ := Act.apply_bind_eq_ok_iff.mp made
      obtain ⟨name, _, _, made⟩ := Act.apply_bind_eq_ok_iff.mp made
      obtain ⟨called, _, performed, made⟩ := Act.apply_bind_eq_ok_iff.mp made
      cases made
      intro caller member
      rcases List.mem_append.mp member with new | old
      · obtain rfl := Option.mem_toList.mp new
        exact live_of_perform filled performed
      · exact Frame.live_remaining top others caller old

/-- The induction is on the number of steps. -/
theorem live_advance (filled : program.Filled) (steps : Nat) {left : List Frame} {state last : σ}
    (live : ∀ frame ∈ stack, frame.Live)
    (made : (program.advance vocabulary observe steps stack).apply state = (.ok left, last)) :
    ∀ frame ∈ left, frame.Live := by
  induction steps generalizing stack state with
  | zero =>
      cases made
      exact live
  | succ steps inductionHypothesis =>
      cases stack with
      | nil =>
          cases made
          exact live
      | cons frame callers =>
          rw [advance_cons] at made
          obtain ⟨middle, _, first, rest⟩ := Act.apply_bind_eq_ok_iff.mp made
          exact inductionHypothesis (live_next filled live first) rest

theorem live_start (filled : program.Filled) (started : program.start = .ok stack) :
    ∀ frame ∈ stack, frame.Live := by
  obtain ⟨frame, rfl, defined, start⟩ := exists_of_start started
  exact List.forall_mem_singleton.mpr (filled.live defined start)

/-- Every stack of a run has only frames with a statement left, at any time. -/
theorem live_run (filled : program.Filled) {steps : Nat} {state last : σ}
    (made : (program.run vocabulary observe steps).apply state = (.ok stack, last)) :
    ∀ frame ∈ stack, frame.Live := by
  unfold run at made
  cases started : program.start with
  | error fault =>
      rw [started] at made
      cases made
  | ok start =>
      rw [started] at made
      exact live_advance filled steps (live_start filled started) made

/-! ## Calls of the observer -/

/-- Finding the name of a statement and performing it does not call the observer. -/
theorem execute_keeps_calls (statement : Statement) (state : σ) (calls : Nat) :
    (program.execute vocabulary.numbered statement).Ensures (state, calls)
      (fun _ after => after.2 = calls) fun _ after => after.2 = calls := by
  have words := vocabulary.numbered_judged calls
  have kept : (program.execute vocabulary.numbered statement).Preserves (Called calls)
      (RunFailure.Leaves (Called calls) fun _ => Called calls) :=
    .bind (resolve_judged words statement) fun name => perform_judged words program name
  refine (kept (state, calls) rfl).mono (fun _ _ => id) fun failure after left => ?_
  cases left with
  | fault same | act same => exact same

/-- A step that shows a statement calls the observer once, and fails with it. -/
theorem next_counts (program : Program) (vocabulary : Vocabulary σ ε) (observer : Observer σ ε)
    {step : Step} (made : frame.step? callers = some step) (state : σ) (calls : Nat) :
    (program.next vocabulary.numbered observer.watch (frame :: callers)).Ensures (state, calls)
      (fun _ after => after.2 = calls + 1 ∧ ((observer (calls + 1) step).apply state).1 = .ok ())
      fun failure after => after.2 = calls + 1 ∧
        ∀ cause last, (observer (calls + 1) step).apply state = (.error cause, last) →
          failure = .act cause ∧ after.1 = last := by
  have watched : (observer.watch step).apply (state, calls) =
      (((observer (calls + 1) step).apply state).1, ((observer (calls + 1) step).apply state).2,
        calls + 1) := rfl
  rw [next_of_step made]
  rcases answered : (observer (calls + 1) step).apply state with ⟨cause | _, seen⟩ <;>
    rw [answered] at watched
  · unfold Act.Ensures
    rw [Act.apply_bind, Act.apply_mapError, watched]
    refine ⟨rfl, fun reason last same => ?_⟩
    cases same
    exact ⟨rfl, rfl⟩
  · have shown : (observer.watch step).Ensures (state, calls)
        (fun _ after => after = (seen, calls + 1)) fun _ _ => False := by
      unfold Act.Ensures
      rw [watched]
    refine .bind shown.of_never.mapError fun _ after same => ?_
    subst same
    refine .bind ((execute_keeps_calls step.statement seen _).mono (fun _ _ => id) ?_) ?_
    · exact fun _ _ same => ⟨same, fun _ _ => nofun⟩
    · exact fun called after same => .pure ⟨same, rfl⟩

/-- A run under way has called its observer once for each step that it made, and has not come to a
call that fails. If it failed at such a call, then by the observer. The induction is on the number of
steps. -/
theorem advance_counts (filled : program.Filled) (steps : Nat)
    (live : ∀ frame ∈ stack, frame.Live) (state : σ) (calls : Nat) :
    (program.advance vocabulary.numbered observer.watch steps stack).Ensures (state, calls)
      (fun left after => (left ≠ [] → after.2 = calls + steps) ∧
        ∀ number, observer.FailsAt number → calls < number → after.2 < number)
      fun failure after => ∀ number, observer.FailsAt number → calls < number →
        after.2 < number ∨ after.2 = number ∧
          ∃ cause, failure = .act cause ∧ observer.FailedAt number cause after.1 := by
  induction steps generalizing stack state calls with
  | zero => exact .pure ⟨fun _ => rfl, fun _ _ => id⟩
  | succ steps inductionHypothesis =>
      cases stack with
      | nil => exact .pure ⟨fun more => absurd rfl more, fun _ _ => id⟩
      | cons frame callers =>
          obtain ⟨step, made⟩ := Frame.exists_step (live frame List.mem_cons_self) callers
          have counted := next_counts program vocabulary observer made state calls
          rw [advance_cons]
          unfold Act.Ensures
          rw [Act.apply_bind]
          rcases applied : (program.next vocabulary.numbered observer.watch
            (frame :: callers)).apply (state, calls) with ⟨failure | left, after, count⟩
          · obtain ⟨rfl, failed⟩ := counted.of_error applied
            intro number fails before
            rcases Nat.lt_or_eq_of_le (Nat.succ_le_of_lt before) with earlier | rfl
            · exact .inl earlier
            · obtain ⟨cause, answer⟩ := fails step state
              have call : (observer (calls + 1) step).apply state = (.error cause, _) :=
                Prod.ext answer rfl
              obtain ⟨rfl, rfl⟩ := failed cause _ call
              exact .inr ⟨rfl, cause, rfl, step, state, call⟩
          · obtain ⟨rfl, answer⟩ := counted.of_ok applied
            -- The call went well, so it is none that fails.
            have onward : ∀ number, observer.FailsAt number → calls < number →
                calls + 1 < number := by
              intro number fails before
              rcases Nat.lt_or_eq_of_le (Nat.succ_le_of_lt before) with later | rfl
              · exact later
              · obtain ⟨cause, failed⟩ := fails step state
                rw [answer] at failed
                cases failed
            have rest := inductionHypothesis (live_next filled live applied) after (calls + 1)
            refine rest.mono (fun left last kept => ⟨fun some => ?_, ?_⟩) ?_
            · rw [kept.1 some]
              omega
            · exact fun number fails before => kept.2 number fails (onward number fails before)
            · exact fun failure last kept number fails before =>
                kept number fails (onward number fails before)

/-- The same for a run from its start. -/
theorem numbered_counts (vocabulary : Vocabulary σ ε) (observer : Observer σ ε)
    (filled : program.Filled) (steps : Nat) (first : σ) :
    (program.numbered vocabulary observer steps).Ensures (first, 0)
      (fun left after => (left ≠ [] → after.2 = steps) ∧
        ∀ number, observer.FailsAt number → 0 < number → after.2 < number)
      fun failure after => ∀ number, observer.FailsAt number → 0 < number →
        after.2 < number ∨ after.2 = number ∧
          ∃ cause, failure = .act cause ∧ observer.FailedAt number cause after.1 := by
  unfold numbered run
  cases started : program.start with
  | error fault => exact fun number _ positive => .inl positive
  | ok stack =>
      refine (advance_counts filled steps (live_start filled started) first 0).mono ?_
        fun _ _ => id
      exact fun left after kept => ⟨fun some => by rw [kept.1 some, Nat.zero_add], kept.2⟩

/-- Whenever a run of a program that was read stands at some stack, all frames have a statement left,
and the next step shows that of the top frame. Each step calls the observer exactly once. So if the
observer fails at some call, the run returns, whatever the program does: with that failure and after
that many calls, or after fewer. -/
theorem run_progresses {known : Vocabulary σ₀ ε₀} {source : String} {program : Program}
    (accepted : Language.read known source = .ok program) (vocabulary : Vocabulary σ ε) :
    (∀ observe steps first stack last,
      (program.run vocabulary observe steps).apply first = (.ok stack, last) →
        (∀ frame ∈ stack, frame.Live) ∧
        ∀ frame callers, stack = frame :: callers → ∃ step, frame.step? callers = some step) ∧
    (∀ (observer : Observer σ ε) steps first frame callers last calls,
      (program.numbered vocabulary observer steps).apply (first, 0) =
          (.ok (frame :: callers), last, calls) →
        calls = steps ∧
        ((program.next vocabulary.numbered observer.watch (frame :: callers)).apply
          (last, calls)).2.2 = calls + 1) ∧
    ∀ (observer : Observer σ ε) number first, 0 < number → observer.FailsAt number →
      ∃ result last calls,
        program.ReturnsWithin vocabulary.numbered observer.watch number (first, 0) result
          (last, calls) ∧
        (calls < number ∨ calls = number ∧
          ∃ cause, result = .error (.act cause) ∧ observer.FailedAt number cause last) := by
  have filled := (Language.wellFormed_of_read accepted).filled
  refine ⟨fun observe steps first stack last made => ?_,
    fun observer steps first frame callers last calls made => ?_,
    fun observer number first positive fails => ?_⟩
  · have live := live_run filled made
    refine ⟨live, ?_⟩
    rintro frame callers rfl
    exact Frame.exists_step (live frame List.mem_cons_self) callers
  · have live := live_run filled made
    obtain ⟨step, shown⟩ := Frame.exists_step (live frame List.mem_cons_self) callers
    have counted := next_counts program vocabulary observer shown last calls
    have sofar := (numbered_counts vocabulary observer filled steps first).of_ok made
    refine ⟨sofar.1 (List.cons_ne_nil _ _), ?_⟩
    rcases applied : (program.next vocabulary.numbered observer.watch
      (frame :: callers)).apply (last, calls) with ⟨failure | left, after⟩
    · exact (counted.of_error applied).1
    · exact (counted.of_ok applied).1
  · have counted := numbered_counts vocabulary observer filled number first
    rcases made : (program.numbered vocabulary observer number).apply (first, 0) with
      ⟨failure | left, last, calls⟩
    · refine ⟨.error failure, last, calls, returnsWithin_of_run made, ?_⟩
      rcases counted.of_error made number fails positive with fewer | ⟨same, cause, rfl, failed⟩
      · exact .inl fewer
      · exact .inr ⟨same, cause, rfl, failed⟩
    · obtain ⟨shown, fewer⟩ := counted.of_ok made
      have before := fewer number fails positive
      -- With a frame left there would have been as many calls as steps.
      have nothing : left = [] := by
        by_contra some
        have each := shown some
        omega
      subst nothing
      exact ⟨.ok (), last, calls, returnsWithin_of_run made, .inl before⟩

/-- The text of a program that turns around for ever. -/
def spinSource : String := "DEFINE spin\n left\n spin\nEND\nRUN spin"

/-- The spin shows a statement in each step, and is stopped at the third. -/
theorem run_progresses_spin :
    ∃ program, Language.read (Vocabulary.standard : Vocabulary World Refusal) spinSource =
        .ok program ∧
      ∃ observer : Observer World Refusal, observer.FailsAt 3 ∧ ∀ world, ∃ result last calls,
        program.ReturnsWithin (Vocabulary.standard : Vocabulary World Refusal).numbered
          observer.watch 3 (world, 0) result (last, calls) ∧
        (calls < 3 ∨ calls = 3 ∧
          ∃ cause, result = .error (.act cause) ∧ observer.FailedAt 3 cause last) := by
  obtain ⟨program, accepted⟩ : ∃ program, Language.read
      (Vocabulary.standard : Vocabulary World Refusal) spinSource = .ok program :=
    Language.exists_of_isOk (by decide +kernel)
  let observer : Observer World Refusal := fun number _ =>
    if number = 3 then throw .bagEmpty else pure ()
  have fails : observer.FailsAt 3 := fun _ _ => ⟨.bagEmpty, rfl⟩
  exact ⟨program, accepted, observer, fails, fun world =>
    (run_progresses accepted Vocabulary.standard).2.2 _ 3 world (by decide) fails⟩

end Program

end Karel
