import Karel.Language.Machine
import Karel.Proofs.Language.Words

/-!
# Invariants of runs

The machine touches the state only through the words of its vocabulary and through the observer. What
all of them preserve, a run of any program preserves: `Program.run_preserves`. It may end early with
a fault of the program, and then the invariant holds, or because an act failed, and then what holds
after a failure of that act holds.
-/

namespace Karel

variable {σ κ τ ε δ α β : Type} {invariant : σ → Prop} {fails : ε → σ → Prop}

/-- From states that satisfy the invariant, the act leads to such states, or fails as stated. -/
def Act.Preserves (invariant : σ → Prop) (fails : ε → σ → Prop) (act : Act σ ε α) : Prop :=
  ∀ state, invariant state → act.Ensures state (fun _ next => invariant next) fails

namespace Act.Preserves

theorem pure (value : α) : (Pure.pure value : Act σ ε α).Preserves invariant fails :=
  fun _ holds => holds

theorem ask (question : σ → α) : (Act.ask question : Act σ ε α).Preserves invariant fails :=
  fun _ holds => holds

theorem throw {cause : ε} (failed : ∀ state, invariant state → fails cause state) :
    (MonadExcept.throw cause : Act σ ε α).Preserves invariant fails :=
  failed

/-- A change that may be refused is judged by what it does if it is not. -/
theorem change {step : σ → Except ε σ}
    (kept : ∀ state next, invariant state → step state = .ok next → invariant next) :
    (Act.change step).Preserves invariant fun _ => invariant := by
  intro state holds
  have changed : (Act.change step).Ensures state (fun _ next => invariant next) _ :=
    .change fun next => kept state next holds
  refine changed.mono (fun _ _ => id) ?_
  rintro cause _ rfl
  exact holds

theorem update {step : σ → σ} (kept : ∀ state, invariant state → invariant (step state)) :
    (Act.update step : Act σ ε Unit).Preserves invariant fails :=
  kept

/-- An act after which the invariant holds in any case. -/
theorem of_after {act : Act σ ε α} (kept : ∀ state, invariant state →
    invariant (act.apply state).2) : act.Preserves invariant fun _ => invariant := by
  intro state holds
  have left := kept state holds
  unfold Act.Ensures
  rcases applied : act.apply state with ⟨cause | value, next⟩ <;> rwa [applied] at left

/-- What is kept in any case holds of the state that the act leaves behind. -/
theorem after {act : Act σ ε α} (kept : act.Preserves invariant fun _ => invariant) {state : σ}
    (holds : invariant state) : invariant (act.apply state).2 := by
  have ensured := kept state holds
  rcases applied : act.apply state with ⟨cause | value, next⟩
  · exact ensured.of_error applied
  · exact ensured.of_ok applied

theorem bind {act : Act σ ε α} {next : α → Act σ ε β} (first : act.Preserves invariant fails)
    (second : ∀ value, (next value).Preserves invariant fails) :
    (act >>= next).Preserves invariant fails :=
  fun state holds => .bind (first state holds) fun value after => second value after

theorem mapError {wrap : ε → δ} {fails : δ → σ → Prop} {act : Act σ ε α}
    (inner : act.Preserves invariant fun cause next => fails (wrap cause) next) :
    (act.mapError wrap).Preserves invariant fails :=
  fun state holds => .mapError (inner state holds)

/-- What goes on with the result of an act goes on after a failure too. -/
theorem attempt_bind {fails' : δ → σ → Prop} {act : Act σ ε α} {next : Except ε α → Act σ δ β}
    (first : act.Preserves invariant fails)
    (ok : ∀ value, (next (.ok value)).Preserves invariant fails')
    (error : ∀ cause state, fails cause state →
      (next (.error cause)).Ensures state (fun _ next => invariant next) fails') :
    (act.attempt >>= next).Preserves invariant fails' :=
  fun state holds => .attempt_bind (first state holds) (fun value => ok value) error

end Act.Preserves

/-- A way to judge acts that sequences of acts respect. A judgement says what is left when an act
fails: a state, or something that is told of the act. -/
structure Act.Judgement (σ κ : Type) where
  /-- The act is good, and its failures leave what is stated. -/
  holds : {ε α : Type} → (ε → κ → Prop) → Act σ ε α → Prop
  /-- What a failure leaves before which nothing was done. -/
  idle : κ → Prop
  pure : ∀ {ε α : Type} {fails : ε → κ → Prop} (value : α),
    holds fails (Pure.pure value : Act σ ε α)
  throw : ∀ {ε α : Type} {fails : ε → κ → Prop} {cause : ε},
    (∀ left, idle left → fails cause left) → holds fails (MonadExcept.throw cause : Act σ ε α)
  bind : ∀ {ε α β : Type} {fails : ε → κ → Prop} {act : Act σ ε α} {next : α → Act σ ε β},
    holds fails act → (∀ value, holds fails (next value)) → holds fails (act >>= next)
  mapError : ∀ {ε δ α : Type} {fails : ε → κ → Prop} {failing : δ → κ → Prop} {wrap : ε → δ}
    {act : Act σ ε α}, holds fails act →
    (∀ cause left, fails cause left → failing (wrap cause) left) → holds failing (act.mapError wrap)

/-- Acts are judged by what they preserve. -/
def Act.preservation (invariant : σ → Prop) : Act.Judgement σ σ where
  holds fails act := act.Preserves invariant fails
  idle := invariant
  pure := .pure
  throw := .throw
  bind := .bind
  mapError inner wrapped :=
    .mapError fun state kept => (inner state kept).mono (fun _ _ => id) wrapped

/-- All words of a vocabulary are good. -/
structure Vocabulary.Judged (judgement : Act.Judgement σ κ) (fails : ε → κ → Prop)
    (vocabulary : Vocabulary σ ε) : Prop where
  command : ∀ {name : String} {action}, vocabulary.commands[name]? = some action →
    judgement.holds fails action
  condition : ∀ {name : String} {check}, vocabulary.conditions[name]? = some check →
    judgement.holds fails check

/-- The usual words are good if every way of driving Karel is. -/
theorem Vocabulary.standard_judged [Drivable σ ε] {judgement : Act.Judgement σ κ}
    {fails : ε → κ → Prop}
    (acts : Drivable.Corresponds (fun action (_ : Act σ ε Unit) => judgement.holds fails action)
      fun check (_ : Act σ ε Bool) => judgement.holds fails check) :
    (standard : Vocabulary σ ε).Judged judgement fails where
  command := acts.of_command
  condition := acts.of_condition

/-- What a stopped run leaves: after a fault of the program what is left if nothing was done, and
after an act failed what that act leaves. -/
inductive RunFailure.Leaves (idle : κ → Prop) (fails : ε → κ → Prop) : RunFailure ε → κ → Prop
  | fault {fault left} (nothing : idle left) : Leaves idle fails (.fault fault) left
  | act {cause left} (failed : fails cause left) : Leaves idle fails (.act cause) left

namespace Program

section

variable {vocabulary : Vocabulary σ ε} {observe : Step → Act σ ε Unit}
  {judgement : Act.Judgement σ κ} {fails : ε → κ → Prop}
  (words : vocabulary.Judged judgement fails)
include words

theorem resolve_judged (statement : Statement) :
    judgement.holds (RunFailure.Leaves judgement.idle fails) (resolve vocabulary statement) := by
  cases statement with
  | invoke name => exact judgement.pure name
  | choose condition yes no =>
      unfold resolve
      dsimp only
      cases found : vocabulary.conditions[condition]? with
      | none => exact judgement.throw fun _ => .fault
      | some check =>
          refine judgement.bind ?_ fun _ => judgement.pure _
          exact judgement.mapError (words.condition found) fun _ _ => .act

theorem perform_judged (program : Program) (name : String) :
    judgement.holds (RunFailure.Leaves judgement.idle fails)
      (program.perform vocabulary name) := by
  unfold perform
  cases found : vocabulary.commands[name]? with
  | none =>
      cases program.frame? name with
      | none => exact judgement.throw fun _ => .fault
      | some frame => exact judgement.pure _
  | some action =>
      refine judgement.bind ?_ fun _ => judgement.pure _
      exact judgement.mapError (words.command found) fun _ _ => .act

variable (shows : ∀ step, judgement.holds fails (observe step))
include shows

theorem next_judged (program : Program) (stack : List Frame) :
    judgement.holds (RunFailure.Leaves judgement.idle fails)
      (program.next vocabulary observe stack) := by
  cases stack with
  | nil => exact judgement.pure _
  | cons frame callers =>
      simp only [next]
      cases frame.step? callers with
      | none => exact judgement.pure _
      | some step =>
          refine judgement.bind (judgement.mapError (shows step) fun _ _ => .act) fun _ => ?_
          exact judgement.bind (resolve_judged words _) fun name =>
            judgement.bind (perform_judged words program name) fun _ => judgement.pure _

/-- The induction is on the number of steps. -/
theorem advance_judged (program : Program) (steps : Nat) (stack : List Frame) :
    judgement.holds (RunFailure.Leaves judgement.idle fails)
      (program.advance vocabulary observe steps stack) := by
  induction steps generalizing stack with
  | zero => exact judgement.pure _
  | succ steps inductionHypothesis =>
      cases stack with
      | nil => exact judgement.pure _
      | cons frame callers =>
          exact judgement.bind (next_judged words shows program _) inductionHypothesis

/-- A run is good if the words and the observer are. -/
theorem run_judged (program : Program) (steps : Nat) :
    judgement.holds (RunFailure.Leaves judgement.idle fails)
      (program.run vocabulary observe steps) := by
  unfold run
  cases program.start with
  | error fault => exact judgement.throw fun _ => .fault
  | ok stack => exact advance_judged words shows program steps stack

end

/-- A run preserves what the words and the observer preserve. -/
theorem run_preserves {vocabulary : Vocabulary σ ε} {observe : Step → Act σ ε Unit}
    (words : vocabulary.Judged (Act.preservation invariant) fails)
    (shows : ∀ step, (observe step).Preserves invariant fails) (program : Program) (steps : Nat) :
    (program.run vocabulary observe steps).Preserves invariant
      (RunFailure.Leaves invariant fails) :=
  run_judged words shows program steps

end Program

end Karel
