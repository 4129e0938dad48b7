import Karel.Proofs.Session.Ledger
import Karel.Proofs.Session.Upkeep

/-!
# How commands fail

What a command shows can fail as the screen does, what it waits for can end with the wish to quit, and
at some speeds it stops before it waits. Causes that include these make the mildest of ledgers, so all
that is left to say of a command is which failures it has of its own: an operation can be refused, and
a map can fail to be saved. From this follows what interactive mode fails with. It goes on after the
failures of single commands, ends where the user wants to quit, and knows no delay while it lasts, so
only failures of the screen are left: `interactive_failsWithin`.
-/

namespace Karel.Session

open Console

variable {σ α : Type} {paced : Option Float → Prop} {causes : SessionFault → Prop}

/-- At such speeds the command only fails with such causes, and does not change to other speeds. -/
def FailsWithin (paced : Option Float → Prop) (causes : SessionFault → Prop)
    (command : Command σ α) : Prop :=
  command.Preserves (fun session => paced session.settings.speed) fun cause session =>
    causes cause ∧ paced session.settings.speed

/-- All that the screen, the user and the delay can interrupt a command with is among the causes. -/
structure Interrupts (paced : Option Float → Prop) (causes : SessionFault → Prop) : Prop where
  display : ∀ fault, causes (.display fault)
  quit : causes .quit
  overlong : ∀ settings : SessionSettings, paced settings.speed → settings.delay? = none →
    causes .overlong

theorem FailsWithin.mono {others : SessionFault → Prop} {command : Command σ α}
    (within : FailsWithin paced causes command) (more : ∀ cause, causes cause → others cause) :
    FailsWithin paced others command :=
  fun session unhurried =>
    (within session unhurried).mono (fun _ _ => id) fun cause _ => .imp_left (more cause)

/-- To stop is a failure among others. -/
theorem FailsWithin.stop {cause : SessionFault} (among : causes cause) :
    FailsWithin paced causes (throw cause : Command σ α) :=
  .throw fun _ unhurried => ⟨among, unhurried⟩

section

variable (display : ∀ fault, causes (.display fault))
include display

/-- What works on the screen fails only as the screen does. -/
theorem onScreen_failsWithin (act : Act σ DisplayFault α) :
    FailsWithin paced causes (Session.display (onScreen act)) :=
  .mapError fun _ unhurried =>
    .onScreen (.of_forall (fun _ _ => unhurried) fun fault _ => ⟨display fault, unhurried⟩)

/-- What is drawn fails only as the screen does. -/
theorem draws_failsWithin [Screen σ] {drawing : Drawing σ Unit}
    (draws : ∀ session, ∃ strokes, Draws session drawing strokes) :
    FailsWithin paced causes (Session.display drawing) := by
  refine .mapError fun session unhurried => ?_
  obtain ⟨strokes, draws⟩ := draws session
  exact draws.ensures (.of_forall (fun _ _ => unhurried) fun fault _ => ⟨display fault, unhurried⟩)

theorem message_failsWithin [Screen σ] (text : String) (style : MessageStyle) :
    FailsWithin paced causes (message text style : Command σ Unit) :=
  draws_failsWithin display fun _ => ⟨_, draws_message text style⟩

end

/-- The condition of the ledger that keeps no tally. -/
def Paced (paced : Option Float → Prop) (_ : KeyTally) (session : Session σ) : Prop :=
  paced session.settings.speed

theorem paced_zero {session : Session σ} (unhurried : paced session.settings.speed) :
    Paced paced .zero session := unhurried

namespace Interrupts

variable [Screen σ] (interrupts : Interrupts paced causes)
include interrupts

theorem ledger : Ledger (σ := σ) (Paced paced) fun cause session =>
    causes cause ∧ paced session.settings.speed where
  congr unhurried _ settings := by
    rw [Paced, settings]
    exact unhurried
  draws unhurried draws := draws.ensures
    (.of_forall (fun _ _ => unhurried) fun fault _ => ⟨interrupts.display fault, unhurried⟩)
  nextKey _ unhurried := .onScreen
    (.of_forall (fun _ _ => unhurried) fun fault _ => ⟨interrupts.display fault, unhurried⟩)
  quit unhurried _ := ⟨interrupts.quit, unhurried⟩

theorem prompt (text : String) (style : MessageStyle) :
    FailsWithin paced causes (prompt text style : Command σ Unit) := fun _ unhurried =>
  interrupts.ledger.prompt text style (paced_zero unhurried)

theorem showError (text : String) : FailsWithin paced causes (showError text : Command σ Unit) :=
  fun _ unhurried => interrupts.ledger.showError text (paced_zero unhurried)

/-- A command that is refused can be refused. -/
theorem execute_apply (label : String) (changes : Redraw) (act : Act Window Refusal α)
    {session : Session σ} (unhurried : paced session.settings.speed)
    (refused : ∀ refusal window, act.apply session.window = (.error refusal, window) →
      causes (.refused refusal)) :
    (execute label changes act : Command σ α).Ensures session
      (fun _ next => paced next.settings.speed)
      fun cause next => causes cause ∧ paced next.settings.speed := by
  refine (interrupts.ledger.execute label changes act (paced_zero unhurried)).mono
    (fun _ _ => id) ?_
  rintro cause next ((interrupted | ⟨-, rfl, delay, unhurried⟩) | ⟨refusal, window, applied, rfl, kept⟩)
  · exact interrupted
  · exact ⟨interrupts.overlong _ unhurried delay, unhurried⟩
  · exact ⟨refused refusal window applied, kept⟩

theorem execute (label : String) (changes : Redraw) (act : Act Window Refusal α)
    (refused : ∀ window refusal next, act.apply window = (.error refusal, next) →
      causes (.refused refusal)) :
    FailsWithin paced causes (execute label changes act : Command σ α) :=
  fun _ unhurried => interrupts.execute_apply label changes act unhurried (refused _)

theorem query (label : String) (question : World → Bool) :
    FailsWithin paced causes (query label question : Command σ Bool) :=
  interrupts.execute label .nothing _ fun _ _ _ applied => by cases applied

theorem resize : FailsWithin paced causes (resize : Command σ Unit) := by
  refine .bind (onScreen_failsWithin interrupts.display _) fun size => .bind (.ask _) fun bounds => ?_
  dsimp only
  split
  next => exact FailsWithin.stop (interrupts.display _)
  next =>
    refine .bind (.update fun _ unhurried => unhurried) fun _ => ?_
    refine .bind (onScreen_failsWithin interrupts.display _) fun _ => ?_
    exact interrupts.execute _ _ _ fun _ _ _ applied => by cases applied

theorem toggleVerbosity : FailsWithin paced causes (toggleVerbosity : Command σ Verbosity) := by
  refine .bind (.ask _) fun old => .bind (.update fun _ unhurried => unhurried) fun _ => ?_
  refine .bind (draws_failsWithin interrupts.display fun _ => ?_) fun _ => .pure old
  exact ⟨_, .ask (fun _ => rfl) ((Draws.stroke (.message _ "" .status)).andThen
    ((draws_status "TOGGLE").andThen (.stroke .present)))⟩

theorem complete : FailsWithin paced causes (complete : Command σ Unit) := by
  refine .mapError (.bind (fun session unhurried => ?_) fun _ => .bind ?_ fun _ => .pure ())
  · exact interrupts.ledger.draws (paced_zero unhurried) (draws_message _ .complete)
  · exact fun session unhurried => interrupts.ledger.nextKey none (paced_zero unhurried)

/-- A map that can not be written is not saved. -/
theorem save (path : Option String) (unsaved : ∀ fault, causes (.save fault)) :
    FailsWithin paced causes (save path : Command σ String) := by
  have noted (event : Log.Event) : FailsWithin paced causes (note event : Command σ Unit) :=
    .update fun _ unhurried => unhurried
  refine .attempt_bind (writeWorld_preserves (fun _ _ => id) path) (fun path => ?_)
    fun fault session unhurried => ?_
  · exact .bind (noted _) fun _ => .bind (message_failsWithin interrupts.display _ _) fun _ =>
      .pure path
  · have told : FailsWithin paced causes (do
        note (.saveFailed fault)
        Session.showError fault.message
        throw (.save fault) : Command σ String) :=
      .bind (noted _) fun _ => .bind (interrupts.showError _) fun _ => FailsWithin.stop (unsaved fault)
    exact told session unhurried

end Interrupts

/-! ## Interactive mode -/

variable [Screen σ]

/-- Without a speed. -/
def Unhurried (speed : Option Float) : Prop := speed = none

/-- A cause that is neither one of a program nor one of a delay. -/
structure Immediate (cause : SessionFault) : Prop where
  unprogrammed : ∀ fault, cause ≠ .program fault
  measured : cause ≠ .overlong

/-- Without a speed no command is stopped by its delay. -/
theorem interrupts_immediate : Interrupts Unhurried Immediate where
  display _ := ⟨nofun, nofun⟩
  quit := ⟨nofun, nofun⟩
  overlong settings unhurried delay := by
    cases (SessionSettings.delay?_of_unhurried unhurried).symm.trans delay

/-- What a key asks for lacks nothing that a program could lack. -/
theorem request_failsWithin {key : Key} {command : Command σ Unit}
    (asked : request key = .perform command) : FailsWithin Unhurried Immediate command := by
  have executed (label : String) (changes : Redraw) (act : Act Window Refusal Unit) :
      FailsWithin Unhurried Immediate (execute label changes act : Command σ Unit) :=
    interrupts_immediate.execute label changes act fun _ _ _ _ => ⟨nofun, nofun⟩
  have shown (text : String) (style : MessageStyle) :
      FailsWithin Unhurried Immediate (message text style : Command σ Unit) :=
    message_failsWithin interrupts_immediate.display text style
  unfold request at asked
  split at asked <;> cases asked
  next => exact executed _ _ _
  next => exact executed _ _ _
  next => exact executed _ _ _
  next => exact executed _ _ _
  next => exact executed _ _ _
  next => exact interrupts_immediate.prompt _ _
  next => exact .bind (interrupts_immediate.save none fun _ => ⟨nofun, nofun⟩) fun _ => .pure ()
  next => exact executed _ _ _
  next => exact executed _ _ _
  next => exact executed _ _ _
  next => exact .bind interrupts_immediate.toggleVerbosity fun _ => .pure ()
  next => exact interrupts_immediate.resize
  next => exact interrupts_immediate.resize
  next => exact shown _ _
  next => exact shown _ _
  next =>
    split
    next => exact executed _ _ _
    next => exact .pure ()
  next => exact .pure ()

/-- A failure of the screen. -/
def IsDisplay (cause : SessionFault) : Prop := ∃ fault, cause = .display fault

/-- After a key, only a failure of the screen is not gone on from. -/
theorem respond_failsWithin (key : Key) :
    FailsWithin Unhurried IsDisplay (respond key : Command σ _) := by
  unfold respond
  split
  next exit _ => exact .pure _
  next command asked =>
    refine .attempt_bind (request_failsWithin asked) (fun _ => .pure none) ?_
    rintro cause session ⟨immediate, unhurried⟩
    cases cause with
    | refused _ | save _ | quit => exact unhurried
    | display fault => exact ⟨⟨fault, rfl⟩, unhurried⟩
    | program fault => exact absurd rfl (immediate.unprogrammed fault)
    | overlong => exact absurd rfl immediate.measured

/-- Whatever the speed is before, there is none while keys are answered. -/
theorem interactive_failsWithin (keys : Nat) (session : Session σ) :
    (interactive keys : Command σ _).Ensures session (fun _ _ => True) fun cause _ =>
      IsDisplay cause := by
  have answered : FailsWithin Unhurried IsDisplay (answerKeys keys : Command σ _) :=
    answerKeys_preserves (onScreen_failsWithin (fun fault => ⟨fault, rfl⟩) _) respond_failsWithin keys
  have announced : FailsWithin Unhurried IsDisplay
      (message "INTERACTIVE  Press q to quit, p to pause" .status : Command σ Unit) :=
    message_failsWithin (fun fault => ⟨fault, rfl⟩) _ _
  have begun := announced { session with settings := { session.settings with speed := none } } rfl
  refine .ask_bind (.update_bind (.bind (begun.mono (fun _ _ => id) fun _ _ => And.left) ?_))
  intro _ shown unhurried
  refine .attempt_bind (answered shown unhurried) (fun _ _ _ => trivial) ?_
  exact fun cause _ failed => failed.1

end Karel.Session
