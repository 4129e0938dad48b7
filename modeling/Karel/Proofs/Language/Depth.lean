import Karel.Proofs.Language.Invariant
import Karel.Proofs.Language.Meaning
import Karel.Proofs.Language.Safety

/-!
# The chain of calls

A chain of calls keeps every caller until the procedure that it has called is at its end, also a
caller that has nothing left to do then. `Program.followCalls` runs a program along its chain of
calls. The machine keeps less: its stack is the chain without the callers that have no statements
left, which is `CallChain.stack`, and `follow_stack` says that nothing else differs. So the depth
that the machine shows counts the callers with statements left, and if procedures call only in their
last statement, there are none.
-/

namespace Karel

variable {σ ε σ₀ ε₀ : Type}

/-- Whether statements are left after the one that the procedure is at. -/
def Frame.hasMore (frame : Frame) : Bool := decide (frame.index + 1 < frame.body.length)

/-- What is left of the stack while a statement runs keeps the frame if it has statements left. -/
theorem Frame.remaining_of_live {frame : Frame} (live : frame.Live) (callers : List Frame) :
    frame.remaining callers =
      if frame.hasMore then { frame with index := frame.index + 1 } :: callers else callers := by
  unfold Frame.Live at live
  unfold Frame.remaining Frame.hasMore
  by_cases last : frame.index + 1 = frame.body.length
  · rw [if_pos last, if_neg (by simp [last])]
  · rw [if_neg last, if_pos (by simp only [decide_eq_true_eq]; omega)]

/-- The calls under way: the procedure that makes statements, and its callers from the latest to the
first, each of them still at the statement that made the call. -/
abbrev CallChain := List Frame

namespace CallChain

/-- The callers that have statements left, each at the next of them. -/
def pending (callers : CallChain) : List Frame := callers.foldr Frame.remaining []

/-- The stack that the machine has for a chain of calls. -/
def stack : CallChain → List Frame
  | [] => []
  | frame :: callers => frame :: pending callers

/-- The chain after its statement was made: the next statement of the procedure follows, and after
the last one its caller has made its own statement too. -/
def proceed : CallChain → CallChain
  | [] => []
  | frame :: callers =>
    if frame.hasMore then { frame with index := frame.index + 1 } :: callers else proceed callers

variable {callers chain : CallChain}

/-- There are as many frames of callers as callers with statements left. -/
theorem length_pending (live : ∀ caller ∈ callers, caller.Live) :
    (pending callers).length = callers.countP Frame.hasMore := by
  induction callers with
  | nil => rfl
  | cons caller rest inductionHypothesis =>
      obtain ⟨first, others⟩ := List.forall_mem_cons.mp live
      rw [pending, List.foldr_cons, Frame.remaining_of_live first, List.countP_cons,
        ← inductionHypothesis others]
      cases caller.hasMore <;> rfl

/-- The stack after a statement was made is what was left of it while the statement ran. -/
theorem stack_proceed (live : ∀ caller ∈ chain, caller.Live) :
    stack (proceed chain) = pending chain := by
  induction chain with
  | nil => rfl
  | cons caller rest inductionHypothesis =>
      obtain ⟨first, others⟩ := List.forall_mem_cons.mp live
      rw [pending, List.foldr_cons, Frame.remaining_of_live first, proceed]
      cases caller.hasMore with
      | true => rfl
      | false => exact inductionHypothesis others

theorem live_proceed (live : ∀ caller ∈ chain, caller.Live) :
    ∀ caller ∈ proceed chain, caller.Live := by
  induction chain with
  | nil => exact live
  | cons caller rest inductionHypothesis =>
      obtain ⟨first, others⟩ := List.forall_mem_cons.mp live
      unfold proceed
      split
      next more =>
        rw [Frame.hasMore, decide_eq_true_eq] at more
        exact List.forall_mem_cons.mpr ⟨more, others⟩
      next => exact inductionHypothesis others

end CallChain

namespace Program

/-- Makes the statement that the chain of calls is at, after showing it with its procedure and the
callers. A procedure that the statement calls is added to the chain. -/
def followOne (program : Program) (vocabulary : Vocabulary σ ε)
    (observe : Frame → CallChain → Statement → Act σ ε Unit) :
    CallChain → Act σ (RunFailure ε) CallChain
  | [] => pure []
  | frame :: callers =>
    match frame.body[frame.index]? with
    | none => pure (CallChain.proceed callers)
    | some statement => do
      (observe frame callers statement).mapError .act
      let name ← resolve vocabulary statement
      let called ← program.perform vocabulary name
      match called with
      | none => pure (CallChain.proceed (frame :: callers))
      | some callee => pure (callee :: frame :: callers)

/-- Makes at most so many statements along a chain of calls and gives the chain that is left. -/
def follow (program : Program) (vocabulary : Vocabulary σ ε)
    (observe : Frame → CallChain → Statement → Act σ ε Unit) :
    Nat → CallChain → Act σ (RunFailure ε) CallChain
  | 0, chain => pure chain
  | _, [] => pure []
  | steps + 1, chain => do
    let chain ← program.followOne vocabulary observe chain
    program.follow vocabulary observe steps chain

/-- Runs the program along its chain of calls for at most so many statements. -/
def followCalls (program : Program) (vocabulary : Vocabulary σ ε)
    (observe : Frame → CallChain → Statement → Act σ ε Unit) (steps : Nat) :
    Act σ (RunFailure ε) CallChain :=
  match program.start with
  | .error fault => throw (.fault fault)
  | .ok chain => program.follow vocabulary observe steps chain

/-- The step that shows a statement. Its depth is one and as many more as there are callers with
statements left after the one that made their call. -/
def stepOf (frame : Frame) (callers : CallChain) (statement : Statement) : Step :=
  ⟨frame.procedure, frame.index, 1 + callers.countP Frame.hasMore, statement⟩

variable {program : Program} {vocabulary : Vocabulary σ ε} {observe : Step → Act σ ε Unit}

/-- A run starts with a procedure of the program, at its first statement. -/
theorem exists_of_start {stack : List Frame} (started : program.start = .ok stack) :
    ∃ frame, stack = [frame] ∧ frame.Of program ∧ frame.index = 0 := by
  unfold start at started
  split at started
  next => cases started
  next name _ =>
    split at started
    next frame found =>
      cases started
      obtain ⟨body, defined, rfl⟩ := Option.map_eq_some_iff.mp found
      exact ⟨_, rfl, defined, rfl⟩
    next => cases started

/-- A procedure at its first statement has one. -/
theorem Filled.live (filled : program.Filled) {frame : Frame} (defined : frame.Of program)
    (start : frame.index = 0) : frame.Live := by
  unfold Frame.Live
  rw [start]
  exact List.length_pos_iff.mpr (filled _ _ defined)

/-- A frame without a next statement is dropped. -/
theorem next_of_none {frame : Frame} (nothing : frame.body[frame.index]? = none)
    (callers : List Frame) :
    program.next vocabulary observe (frame :: callers) = pure callers := by
  rw [next, Frame.step?, nothing, Option.map_none]

/-- What a name calls is a procedure of the program, and then the name is not that of a command. -/
theorem perform_called {name : String} {state next : σ} {callee : Frame}
    (performed : (program.perform vocabulary name).apply state = (.ok (some callee), next)) :
    vocabulary.isCommand name = false ∧ callee.Of program ∧ callee.index = 0 := by
  unfold perform at performed
  split at performed
  next action known =>
    obtain ⟨_, _, _, nothing⟩ := Act.apply_bind_eq_ok_iff.mp performed
    cases nothing
  next unknown =>
    split at performed
    next frame found =>
      cases performed
      obtain ⟨body, defined, rfl⟩ := Option.map_eq_some_iff.mp found
      refine ⟨?_, defined, rfl⟩
      rw [Vocabulary.isCommand, Std.ExtTreeMap.contains_eq_isSome_getElem?, unknown]
      rfl
    next => cases performed

/-- What a name calls has a first statement. -/
theorem live_of_perform (filled : program.Filled) {name : String} {state next : σ} {callee : Frame}
    (performed : (program.perform vocabulary name).apply state = (.ok (some callee), next)) :
    callee.Live := by
  obtain ⟨-, defined, start⟩ := perform_called performed
  exact filled.live defined start

/-- A chain whose procedures have all come to a statement makes one and is such a chain again. -/
theorem live_followOne (filled : program.Filled)
    {shows : Frame → CallChain → Statement → Act σ ε Unit} {chain next : CallChain}
    {state last : σ} (live : ∀ frame ∈ chain, frame.Live)
    (made : (program.followOne vocabulary shows chain).apply state = (.ok next, last)) :
    ∀ frame ∈ next, frame.Live := by
  cases chain with
  | nil =>
      cases made
      exact live
  | cons frame callers =>
      obtain ⟨statement, found, -⟩ := Frame.exists_statement (live frame List.mem_cons_self)
      simp only [followOne, found] at made
      obtain ⟨_, _, _, made⟩ := Act.apply_bind_eq_ok_iff.mp made
      obtain ⟨name, _, _, made⟩ := Act.apply_bind_eq_ok_iff.mp made
      obtain ⟨called, _, performed, made⟩ := Act.apply_bind_eq_ok_iff.mp made
      cases called with
      | none =>
          cases made
          exact CallChain.live_proceed live
      | some callee =>
          cases made
          exact List.forall_mem_cons.mpr ⟨live_of_perform filled performed, live⟩

/-- The machine makes the statement that the chain makes, and shows it with one more than the number
of callers with statements left. -/
theorem next_stack {chain : CallChain} (live : ∀ frame ∈ chain, frame.Live) :
    program.next vocabulary observe (CallChain.stack chain) =
      CallChain.stack <$> program.followOne vocabulary
        (fun frame callers statement => observe (stepOf frame callers statement)) chain := by
  cases chain with
  | nil => rfl
  | cons frame callers =>
      obtain ⟨top, others⟩ := List.forall_mem_cons.mp live
      obtain ⟨statement, found, -⟩ := Frame.exists_statement top
      have depth : (CallChain.pending callers).length + 1 = 1 + callers.countP Frame.hasMore := by
        rw [CallChain.length_pending others, Nat.add_comm]
      rw [CallChain.stack, next_of_statement found, depth, followOne, found]
      simp only [map_bind]
      congr 1
      funext _
      congr 1
      funext name
      congr 1
      funext called
      cases called with
      | none => exact congrArg pure (CallChain.stack_proceed live).symm
      | some callee => rfl

/-- The machine makes the statements that the chain makes. The induction is on the number of
statements; that every procedure of the chain has come to a statement is what carries it. -/
theorem follow_stack (filled : program.Filled) (steps : Nat) {chain : CallChain}
    (live : ∀ frame ∈ chain, frame.Live) :
    program.advance vocabulary observe steps (CallChain.stack chain) =
      CallChain.stack <$> program.follow vocabulary
        (fun frame callers statement => observe (stepOf frame callers statement)) steps chain := by
  induction steps generalizing chain with
  | zero => rfl
  | succ steps inductionHypothesis =>
      cases chain with
      | nil => rfl
      | cons frame callers =>
          change program.next vocabulary observe (CallChain.stack (frame :: callers)) >>= _ =
            CallChain.stack <$> (program.followOne vocabulary _ (frame :: callers) >>= _)
          rw [next_stack live, map_bind, bind_map_left]
          exact Act.bind_congr_of_ok fun state next last made =>
            inductionHypothesis (live_followOne filled live made)

/-! ## Calls in the last statement -/

/-- Only the last statement of a procedure goes on with names that are no commands. -/
def CallsLast (program : Program) (vocabulary : Vocabulary σ ε) : Prop :=
  ∀ (name : String) (body : List Statement), program.procedures[name]? = some body →
    ∀ statement ∈ body.dropLast, ∀ target ∈ statement.targets, vocabulary.isCommand target = true

theorem callsLast_iff : program.CallsLast vocabulary ↔
    ∀ entry ∈ program.procedures.toList, ∀ statement ∈ entry.2.dropLast,
      ∀ target ∈ statement.targets, vocabulary.isCommand target = true := by
  unfold CallsLast
  simp only [Prod.forall, Std.ExtTreeMap.mem_toList_iff_getElem?_eq_some]

instance (program : Program) (vocabulary : Vocabulary σ ε) :
    Decidable (program.CallsLast vocabulary) :=
  decidable_of_iff _ callsLast_iff.symm

/-- A stack with one procedure of the program at most. -/
structure Shallow (program : Program) (stack : List Frame) : Prop where
  length_le : stack.length ≤ 1
  frames : ∀ frame ∈ stack, frame.Of program

theorem Chooses.mem_targets {statement : Statement} {state next : σ} {name : String}
    (chooses : Chooses vocabulary statement state name next) : name ∈ statement.targets := by
  cases chooses with
  | invoke => exact List.mem_cons_self
  | @choose _ _ _ _ holds => cases holds <;> simp [Statement.targets]

/-- A statement that calls is the last of its procedure, so its frame has left the stack when the one
of the called procedure comes. -/
theorem Shallow.next {stack left : List Frame} {state last : σ} (shallow : program.Shallow stack)
    (calls : program.CallsLast vocabulary)
    (made : (program.next vocabulary observe stack).apply state = (.ok left, last)) :
    program.Shallow left := by
  obtain ⟨length_le, frames⟩ := shallow
  match stack with
  | [] =>
      cases made
      exact ⟨length_le, frames⟩
  | [frame] =>
      have top : frame.Of program := frames frame List.mem_cons_self
      have none : program.Shallow [] := ⟨Nat.zero_le 1, List.forall_mem_nil _⟩
      cases found : frame.body[frame.index]? with
      | none =>
          rw [next_of_none found] at made
          cases made
          exact none
      | some statement =>
          rw [next_of_statement found] at made
          obtain ⟨_, _, _, made⟩ := Act.apply_bind_eq_ok_iff.mp made
          obtain ⟨name, _, chosen, made⟩ := Act.apply_bind_eq_ok_iff.mp made
          obtain ⟨called, _, performed, made⟩ := Act.apply_bind_eq_ok_iff.mp made
          have target := (resolve_eq_ok_iff.mp chosen).mem_targets
          cases called with
          | none =>
              cases made
              refine ⟨?_, Frame.of_remaining top none.frames⟩
              rw [Option.toList_none, List.nil_append, Frame.remaining]
              split <;> simp
          | some callee =>
              cases made
              obtain ⟨unknown, defined, -⟩ := perform_called performed
              have ends : frame.index + 1 = frame.body.length := by
                by_contra more
                obtain ⟨live, -⟩ := List.getElem?_eq_some_iff.mp found
                have early : statement ∈ frame.body.dropLast := by
                  refine List.mem_of_getElem? (i := frame.index) ?_
                  rw [List.getElem?_dropLast, if_pos (by omega), found]
                rw [calls _ _ top statement early name target] at unknown
                cases unknown
              rw [Frame.remaining, if_pos ends]
              exact ⟨Nat.le_refl 1, List.forall_mem_singleton.mpr defined⟩
  | _ :: _ :: _ => exact absurd length_le (by simp)

/-- The step of the only frame has depth one. -/
theorem Shallow.next_eq {stack : List Frame} (shallow : program.Shallow stack) :
    program.next vocabulary observe stack =
      program.next vocabulary (fun step => observe { step with depth := 1 }) stack := by
  match stack, shallow.length_le with
  | [], _ => rfl
  | [frame], _ =>
      cases found : frame.body[frame.index]? with
      | none => rw [next_of_none found, next_of_none found]
      | some statement =>
          rw [next_of_statement found, next_of_statement found]
          rfl

theorem Shallow.advance_eq {stack : List Frame} (shallow : program.Shallow stack)
    (calls : program.CallsLast vocabulary) (steps : Nat) :
    program.advance vocabulary observe steps stack =
      program.advance vocabulary (fun step => observe { step with depth := 1 }) steps stack := by
  induction steps generalizing stack with
  | zero => rfl
  | succ steps inductionHypothesis =>
      cases stack with
      | nil => rfl
      | cons frame callers =>
          rw [advance_cons, advance_cons, ← shallow.next_eq]
          exact Act.bind_congr_of_ok fun state next last made =>
            inductionHypothesis (shallow.next calls made)

/-- Without calls before the last statement, every step of a run has depth one. -/
theorem run_eq_of_callsLast (calls : program.CallsLast vocabulary) (steps : Nat) :
    program.run vocabulary observe steps =
      program.run vocabulary (fun step => observe { step with depth := 1 }) steps := by
  unfold run
  cases started : program.start with
  | error fault => rfl
  | ok stack =>
      obtain ⟨frame, rfl, defined, -⟩ := exists_of_start started
      have shallow : program.Shallow [frame] :=
        ⟨Nat.le_refl 1, List.forall_mem_singleton.mpr defined⟩
      exact shallow.advance_eq calls steps

end Program

/-- A condition on records that holds with the call added holds after the act that records it. -/
theorem Act.recorded_preserves {α : Type} {kept : List Call → Prop} {call : Call}
    (added : ∀ calls, kept calls → kept (calls ++ [call])) (act : Act σ ε α) :
    (act.recorded call).Preserves (fun state => kept state.2) fun _ state => kept state.2 :=
  .of_after fun state holds => added state.2 holds

/-- Every step that the calls show has depth one. -/
def Level (calls : List Call) : Prop := ∀ step, .shown step ∈ calls → step.depth = 1

theorem Level.concat {calls : List Call} {call : Call} (level : Level calls)
    (last : ∀ step, call = .shown step → step.depth = 1) : Level (calls ++ [call]) := by
  intro step member
  rcases List.mem_append.mp member with earlier | added
  · exact level step earlier
  · exact last step (List.mem_singleton.mp added).symm

theorem Vocabulary.recorded_judged {kept : List Call → Prop} (vocabulary : Vocabulary σ ε)
    (commanded : ∀ name calls, kept calls → kept (calls ++ [.commanded name]))
    (asked : ∀ name calls, kept calls → kept (calls ++ [.asked name])) :
    vocabulary.recorded.Judged (Act.preservation fun state => kept state.2)
      fun _ state => kept state.2 where
  command {name action} found := by
    rw [Vocabulary.recorded, Std.ExtTreeMap.getElem?_map] at found
    obtain ⟨inner, _, rfl⟩ := Option.map_eq_some_iff.mp found
    exact Act.recorded_preserves (commanded name) inner
  condition {name check} found := by
    rw [Vocabulary.recorded, Std.ExtTreeMap.getElem?_map] at found
    obtain ⟨inner, _, rfl⟩ := Option.map_eq_some_iff.mp found
    exact Act.recorded_preserves (asked name) inner

namespace Program

variable {program : Program} {vocabulary : Vocabulary σ ε} {observe : Step → Act σ ε Unit}

theorem CallsLast.recorded (calls : program.CallsLast vocabulary) :
    program.CallsLast vocabulary.recorded := by
  intro name body found statement early target member
  have known := calls name body found statement early target member
  unfold Vocabulary.isCommand at known ⊢
  rw [Vocabulary.recorded, Std.ExtTreeMap.contains_map]
  exact known

/-- Without calls before the last statement, every step that is shown has depth one, also the last
one before a failure. -/
theorem CallsLast.level (calls : program.CallsLast vocabulary) (steps : Nat) (state : σ) :
    Level ((program.run vocabulary.recorded (recordSteps observe) steps).apply (state, [])).2.2 := by
  have words : vocabulary.recorded.Judged (Act.preservation fun state => Level state.2)
      fun _ state => Level state.2 :=
    vocabulary.recorded_judged (fun name calls level => level.concat nofun)
      fun name calls level => level.concat nofun
  have shows : ∀ step : Step, (recordSteps observe { step with depth := 1 }).Preserves
      (fun state => Level state.2) fun _ state => Level state.2 := by
    refine fun step => Act.recorded_preserves (fun calls level => level.concat ?_) _
    rintro _ ⟨⟩
    rfl
  have kept := program.run_preserves words shows steps (state, []) (fun _ none => nomatch none)
  rw [run_eq_of_callsLast calls.recorded]
  rcases applied : (program.run vocabulary.recorded
    (fun step => recordSteps observe { step with depth := 1 }) steps).apply (state, []) with
    ⟨failure | stack, last⟩
  · cases kept.of_error applied with
    | fault level | act level => exact level
  · exact kept.of_ok applied

/-- In a run of a program that was read, with whatever words and observer and from every state, the
machine makes the statements along the chain of calls and shows each of them with a depth of one and
as many more as there are callers with statements left, those whose call was not made by their last
statement. So if procedures only call in their last statement, every step that is shown has depth
one, in a run of any length. -/
theorem depth_counts_callers {known : Vocabulary σ₀ ε₀} {source : String} {program : Program}
    (accepted : Language.read known source = .ok program) (vocabulary : Vocabulary σ ε)
    (observe : Step → Act σ ε Unit) :
    (∀ steps, program.run vocabulary observe steps =
      CallChain.stack <$> program.followCalls vocabulary (fun frame callers statement =>
        observe ⟨frame.procedure, frame.index, 1 + callers.countP Frame.hasMore, statement⟩)
        steps) ∧
    (program.CallsLast vocabulary → ∀ steps state step,
      .shown step ∈ ((program.run vocabulary.recorded (recordSteps observe) steps).apply
        (state, [])).2.2 → step.depth = 1) := by
  have filled := (Language.wellFormed_of_read accepted).filled
  refine ⟨fun steps => ?_, fun calls steps state => calls.level steps state⟩
  unfold run followCalls
  cases started : program.start with
  | error fault => rfl
  | ok stack =>
      obtain ⟨frame, rfl, defined, start⟩ := exists_of_start started
      exact follow_stack filled steps (List.forall_mem_singleton.mpr (filled.live defined start))

/-- The text of a program that walks to a wall. Its procedures call each other by their last
statements. -/
def strollSource : String :=
  "DEFINE stroll\n IFWALL skip pace\nEND\nDEFINE pace\n move\n stroll\nEND\nRUN stroll"

/-- The stroll shows its steps with depth one in every world and however long it takes. -/
theorem depth_counts_callers_stroll :
    ∃ program, Language.read (Vocabulary.standard : Vocabulary World Refusal) strollSource =
        .ok program ∧
      program.CallsLast (Vocabulary.standard : Vocabulary World Refusal) ∧
      ∀ steps (world : World) step, .shown step ∈ ((program.run
        (Vocabulary.standard : Vocabulary World Refusal).recorded
        (recordSteps fun _ => pure ()) steps).apply (world, [])).2.2 → step.depth = 1 := by
  have readable : (match Language.read (Vocabulary.standard : Vocabulary World Refusal)
      strollSource with
    | .ok program => decide (program.CallsLast (Vocabulary.standard : Vocabulary World Refusal))
    | .error _ => false) = true := by decide +kernel
  split at readable
  next program accepted =>
    have calls := of_decide_eq_true readable
    exact ⟨program, accepted, calls, (depth_counts_callers accepted Vocabulary.standard
      fun _ => pure ()).2 calls⟩
  next => cases readable

end Program

end Karel
