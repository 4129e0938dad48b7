import Karel.Proofs.Console.Transcript
import Karel.Proofs.Language.Invariant
import Karel.Session.Running

/-!
# Ledgers of the keys

How many keys a session reads does not depend on what it draws. A `Ledger` is a condition on sessions
that keeps a tally of the keys and does not mind strokes, and there is one lemma for each command that
waits: `Ledger.prompt` costs one prompt, `Ledger.tick` one wait with a limit, and `Ledger.execute`
says which of them a command costs. A wait that no clock can measure costs nothing, because the
command stops before it: that is `Overlong`. The strictest ledger is that of a transcript, and the
mildest one only looks at how commands fail.
-/

namespace Karel

open Console

/-- The keys that were read. -/
structure KeyTally where
  /-- The number of waits with a limit. -/
  timed : Nat
  /-- The number of waits without a limit, less the pauses that the user asked for. It is one behind
  between the key that asks for a pause and the key that ends the pause. -/
  prompts : Int
  /-- Whether the user asked to quit. -/
  quits : Bool
deriving DecidableEq

namespace KeyTally

/-- Nothing was read. -/
def zero : KeyTally := ⟨0, 0, false⟩

/-- The tally after one more wait. -/
def read (tally : KeyTally) (limit : Option Nat) (key : Option Key) : KeyTally where
  timed := if limit.isSome then tally.timed + 1 else tally.timed
  prompts :=
    if limit.isNone then tally.prompts + 1
    else if key = some (.character 'p') then tally.prompts - 1
    else tally.prompts
  quits := tally.quits || key = some (.character 'q')

/-- The tally after so many prompts. -/
def prompted (tally : KeyTally) (prompts : Int) : KeyTally :=
  { tally with prompts := tally.prompts + prompts }

/-- The tally after the time of a command has passed. -/
def ticked (tally : KeyTally) : KeyTally := { tally with timed := tally.timed + 1 }

variable {tally : KeyTally} {key : Option Key}

theorem quits_read (limit : Option Nat) :
    (tally.read limit (some (.character 'q'))).quits = true :=
  Bool.or_true _

theorem read_none (other : key ≠ some (.character 'q')) : tally.read none key = tally.prompted 1 := by
  simp [read, prompted, other]

theorem read_some {limit : Nat} (stays : key ≠ some (.character 'q'))
    (goesOn : key ≠ some (.character 'p')) : tally.read (some limit) key = tally.ticked := by
  simp [read, ticked, stays, goesOn]

/-- The key that ends a pause makes up for the one that asked for it. -/
theorem read_pause {limit : Nat} :
    (tally.read (some limit) (some (.character 'p'))).prompted 1 = tally.ticked := by
  simp [read, prompted, ticked]

end KeyTally

/-- How many keys end the wait before a step. -/
def StepMode.prompts : StepMode → Nat
  | confirm => 1
  | off | announce | log => 0

namespace Session

variable {σ α : Type} [Screen σ]

/-- A condition on sessions with a tally of the keys that were read. The second condition is what
holds after a failure. -/
structure Ledger (holds : KeyTally → Session σ → Prop) (fails : SessionFault → Session σ → Prop) :
    Prop where
  congr : ∀ {tally session next}, holds tally session → next.screen = session.screen →
    next.settings = session.settings → holds tally next
  draws : ∀ {tally session drawing strokes}, holds tally session → Draws session drawing strokes →
    drawing.Ensures session (fun _ next => holds tally next)
      fun fault next => fails (.display fault) next
  nextKey : ∀ {tally session} limit, holds tally session →
    (onScreen (Screen.nextKey limit)).Ensures session
      (fun key next => holds (tally.read limit key) next)
      fun fault next => fails (.display fault) next
  quit : ∀ {tally session}, holds tally session → tally.quits = true → fails .quit session

/-- A command stopped before a wait that no clock can measure, in a session that meets the
condition. -/
structure Overlong (holds : Session σ → Prop) (cause : SessionFault) (session : Session σ) : Prop where
  cause : cause = .overlong
  delay : session.settings.delay? = none
  held : holds session

namespace Ledger

variable {holds : KeyTally → Session σ → Prop} {fails : SessionFault → Session σ → Prop}
  {tally : KeyTally} {session : Session σ} (ledger : Ledger holds fails)
include ledger

theorem note (event : Log.Event) :
    (note event : Command σ Unit).Preserves (holds tally) fails :=
  fun _ held => ledger.congr held rfl rfl

theorem showMessage (text : String) (style : MessageStyle) :
    (showMessage text style : Drawing σ Unit).Preserves (holds tally)
      fun fault next => fails (.display fault) next :=
  fun _ held => ledger.draws held (draws_message text style)

theorem message (text : String) (style : MessageStyle) :
    (message text style : Command σ Unit).Preserves (holds tally) fails :=
  .mapError (ledger.showMessage text style)

/-- A text that is shown until a key is pressed costs one key, if that key does not ask to quit. -/
theorem prompt (text : String) (style : MessageStyle) (held : holds tally session) :
    (prompt text style : Command σ Unit).Ensures session
      (fun _ next => holds (tally.prompted 1) next) fails := by
  have pressed : Act.Ensures (display do
      Session.showMessage (text ++ " Press any key to continue") style
      let key ← onScreen (Screen.nextKey none)
      Session.showMessage "" .status
      pure key) session (fun key next => holds (tally.read none key) next) fails := by
    refine .mapError (.bind (ledger.showMessage _ style session held) fun _ shown held => ?_)
    refine .bind (ledger.nextKey none held) fun key read held => ?_
    exact .bind (ledger.showMessage "" .status read held) fun _ _ held => .pure held
  refine .bind pressed fun key next held => ?_
  split
  next asked =>
    subst asked
    exact ledger.quit held (KeyTally.quits_read none)
  next other =>
    rw [KeyTally.read_none other] at held
    exact .pure held

/-- An error is shown until a key is pressed. -/
theorem showError (text : String) (held : holds tally session) :
    (showError text : Command σ Unit).Ensures session
      (fun _ next => holds (tally.prompted 1) next) fails := by
  refine .bind (.mapError (ledger.draws held (.stroke .alert))) ?_
  exact fun _ _ held => ledger.prompt text .error held

/-- The time of a command costs one wait with a limit, if a clock can measure it. A pause that the
user asks for is paid by the key that ends it. -/
theorem tick (held : holds tally session) :
    (tick : Command σ Unit).Ensures session (fun _ next => holds tally.ticked next)
      fun cause next => fails cause next ∨ Overlong (holds tally) cause next := by
  refine delay_bind (fun nanoseconds _ => ?_) fun told => .inr ⟨rfl, told, held⟩
  refine .bind (.mapError ((ledger.nextKey _ held).mono (fun _ _ => id) fun _ _ => .inl)) ?_
  intro key next held
  split
  next => exact .inl (ledger.quit held (KeyTally.quits_read _))
  next =>
    have paused := ledger.prompt "PAUSED" .status held
    rw [KeyTally.read_pause] at paused
    exact paused.mono (fun _ _ => id) fun _ _ => .inl
  next stays goesOn =>
    rw [KeyTally.read_some stays goesOn] at held
    exact .pure held

/-- What is shown after a success costs no key. -/
theorem report (label : String) (changes : Redraw) :
    (display do
      redraw changes
      showStatus label
      onScreen Screen.present : Command σ Unit).Preserves (holds tally) fails := by
  refine .mapError (.bind (fun _ held => ledger.draws held (draws_redraw changes)) fun _ => ?_)
  exact .bind (fun _ held => ledger.draws held (draws_status label)) fun _ _ held =>
    ledger.draws held (.stroke .present)

/-- The tally after a command that succeeded: its time passes if something was drawn. -/
def afterSuccess (tally : KeyTally) (changes : Redraw) : KeyTally :=
  if changes ≠ .nothing then tally.ticked else tally

/-- What a command does after its work has succeeded costs its time. It can only be stopped by its
delay if something was drawn. -/
theorem succeed (label : String) (changes : Redraw) (value : α) (held : holds tally session) :
    Act.Ensures (do
      let robot ← Act.ask robot
      Session.note (.executed label robot.position robot.facing)
      display do
        redraw changes
        Session.showStatus label
        onScreen Screen.present
      if changes ≠ .nothing then Session.tick
      pure value) session (fun _ next => holds (afterSuccess tally changes) next)
      fun cause next => fails cause next ∨
        changes ≠ .nothing ∧ Overlong (holds tally) cause next := by
  refine .ask_bind (.bind ((ledger.note _ _ held).mono (fun _ _ => id) fun _ _ => .inl) ?_)
  intro _ noted held
  refine .bind ((ledger.report label changes noted held).mono (fun _ _ => id) fun _ _ => .inl) ?_
  intro _ shown held
  unfold afterSuccess
  split
  next drawn =>
    exact .bind ((ledger.tick held).mono (fun _ _ => id) fun _ _ => .imp_right (.intro drawn))
      fun _ _ held => .pure held
  next => exact .pure held

/-- A command costs its time if it succeeds, and a prompt if it is refused. -/
theorem execute (label : String) (changes : Redraw) (act : Act Window Refusal α)
    (held : holds tally session) : (execute label changes act).Ensures session
      (fun _ next => holds (afterSuccess tally changes) next) fun cause next =>
        (fails cause next ∨ changes ≠ .nothing ∧ Overlong (holds tally) cause next) ∨
        ∃ refusal window, act.apply session.window = (.error refusal, window) ∧
          cause = .refused refusal ∧ holds (tally.prompted 1) next := by
  have moved : ∀ window, holds tally { session with window := window } :=
    fun _ => ledger.congr held rfl rfl
  unfold Act.Ensures
  rw [Session.execute, Act.apply_bind, Act.apply_attempt, onWindow, Act.apply_onPart]
  rcases applied : act.apply session.window with ⟨refusal | value, window⟩ <;> dsimp only
  · have told : Act.Ensures (Session.showError refusal.message)
        { session with window := window, records := session.records.note (.refused label refusal) }
        (fun _ next => holds (tally.prompted 1) next) fails :=
      ledger.showError refusal.message (ledger.congr (moved window) rfl rfl)
    refine Act.Ensures.update_bind (.bind (told.mono (fun _ _ => id) fun _ _ => .inl ∘ .inl) ?_)
    exact fun _ _ held => .inr ⟨refusal, window, rfl, rfl, held⟩
  · exact (ledger.succeed label changes value (moved window)).mono (fun _ _ => id) fun _ _ => .inl

/-- A question costs no key. -/
theorem query (label : String) (question : World → Bool) :
    (query label question : Command σ Bool).Preserves (holds tally) fails := by
  intro session held
  refine (ledger.execute label .nothing _ held).mono (fun _ _ => id) fun cause next failed => ?_
  rcases failed with (failed | ⟨drawn, -⟩) | ⟨refusal, window, refused, -, -⟩
  · exact failed
  · exact absurd rfl drawn
  · cases refused

/-- What happens before a step costs a key if the step is to be confirmed. -/
theorem observe (step : Step) (held : holds tally session) :
    (observe step : Command σ Unit).Ensures session
      (fun _ next => holds (tally.prompted session.settings.stepMode.prompts) next) fails := by
  have free : tally.prompted (0 : Nat) = tally := by simp [KeyTally.prompted]
  have noted : holds tally { session with records := session.records.note (.step step) } :=
    ledger.congr held rfl rfl
  refine .update_bind (.ask_bind ?_)
  dsimp only
  cases session.settings.stepMode with
  | off =>
    rw [StepMode.prompts, free]
    exact .pure noted
  | log =>
    rw [StepMode.prompts, free]
    exact ledger.note _ _ noted
  | announce =>
    rw [StepMode.prompts, free]
    exact ledger.message _ _ _ noted
  | confirm =>
    refine .bind (ledger.message _ _ _ noted) fun _ shown held => ?_
    refine .bind (.mapError (ledger.nextKey none held)) fun key next held => ?_
    split
    next asked =>
      subst asked
      exact ledger.quit held (KeyTally.quits_read none)
    next other =>
      rw [KeyTally.read_none other] at held
      exact .pure held

end Ledger

/-! ## The ledger of a transcript -/

/-- Entries in which nothing failed have this tally. -/
structure Tallies (news : List Entry) (tally : KeyTally) : Prop where
  sound : ∀ entry ∈ news, entry.fault? = none
  timed : news.countP Entry.isTimed = tally.timed
  prompts : (news.countP Entry.isUntimed : Int) = tally.prompts + news.countP Entry.isPause
  quits : news.any Entry.isQuit = tally.quits

theorem tallies_nil : Tallies [] .zero := ⟨List.forall_mem_nil _, rfl, rfl, rfl⟩

variable {news : List Entry} {tally : KeyTally}

theorem Tallies.stroke (tallies : Tallies news tally) (stroke : Stroke) :
    Tallies (news ++ [.stroke stroke (.ok ())]) tally := by
  obtain ⟨sound, timed, prompts, quits⟩ := tallies
  refine ⟨List.forall_mem_append.mpr ⟨sound, List.forall_mem_singleton.mpr rfl⟩, ?_, ?_, ?_⟩
  · simpa [Entry.isTimed] using timed
  · simpa [Entry.isUntimed, Entry.isPause] using prompts
  · simpa [Entry.isQuit] using quits

theorem Tallies.key (tallies : Tallies news tally) (limit : Option Nat) (key : Option Key) :
    Tallies (news ++ [.key limit (.ok key)]) (tally.read limit key) := by
  obtain ⟨sound, timed, prompts, quits⟩ := tallies
  refine ⟨List.forall_mem_append.mpr ⟨sound, List.forall_mem_singleton.mpr rfl⟩, ?_, ?_, ?_⟩
  · rw [List.countP_append, List.countP_singleton, timed]
    cases limit <;> rfl
  · rw [List.countP_append, List.countP_append, List.countP_singleton, List.countP_singleton]
    cases limit with
    | none =>
      simp only [Entry.isUntimed, Entry.isPause, KeyTally.read, Option.isNone_none, if_true,
        Bool.false_eq_true, if_false]
      omega
    | some limit =>
      by_cases paused : key = some (.character 'p') <;>
        simp only [Entry.isUntimed, Entry.isPause, KeyTally.read, Option.isNone_some, paused,
          decide_true, decide_false, if_true, Bool.false_eq_true, if_false] <;>
        omega
  · rw [List.any_append, quits]
    simp [Entry.isQuit, KeyTally.read]

/-- Why a command failed, in the transcript: an operation of the screen failed, or the user asked to
quit. -/
inductive Explains (news : List Entry) : SessionFault → Prop
  | broken {entry : Entry} {fault : DisplayFault} (member : entry ∈ news)
      (failed : entry.fault? = some fault) : Explains news (.display fault)
  | quit {entry : Entry} (member : entry ∈ news) (asked : entry.isQuit = true) : Explains news .quit

theorem Explains.concat {entry : Entry} {fault : DisplayFault} (failed : entry.fault? = some fault) :
    Explains (news ++ [entry]) (.display fault) :=
  .broken (List.mem_append_right _ (List.mem_singleton.mpr rfl)) failed

/-- Since that transcript, nothing failed and the keys that were read have this tally. -/
def Tallied (past : List Entry) (tally : KeyTally) (transcript : List Entry) : Prop :=
  ∃ news, transcript = past ++ news ∧ Tallies news tally

/-- The transcript since then explains the failure. -/
def Explained (past : List Entry) (cause : SessionFault) (transcript : List Entry) : Prop :=
  ∃ news, transcript = past ++ news ∧ Explains news cause

variable {past : List Entry}

/-- Strokes do not change the tally, as long as they do not fail. -/
theorem paint_tallied (strokes : List Stroke) : (paint strokes : Act (Transcriber σ) _ Unit).Preserves
    (fun transcriber => Tallied past tally transcriber.transcript)
    fun fault transcriber => Explained past (.display fault) transcriber.transcript := by
  induction strokes with
  | nil => exact .pure ()
  | cons stroke rest inductionHypothesis =>
    refine .bind ?_ fun _ => inductionHypothesis
    rintro ⟨screen, _⟩ ⟨news, rfl, tallies⟩
    rw [act_eq_transcribe]
    refine transcribe_ensures (fun _ next => ?_) fun fault next => ?_
    · exact ⟨_, List.append_assoc .., tallies.stroke stroke⟩
    · exact ⟨_, List.append_assoc .., .concat rfl⟩

/-- The keys that a session on a transcriber has read since then. -/
structure Accounted (past : List Entry) (settings : SessionSettings) (tally : KeyTally)
    (session : Session (Transcriber σ)) : Prop where
  transcript : Tallied past tally session.screen.transcript
  settings : session.settings = settings

omit [Screen σ] in
/-- At the beginning nothing was read. -/
theorem accounted_self (session : Session (Transcriber σ)) :
    Accounted session.screen.transcript session.settings .zero session :=
  ⟨⟨[], (List.append_nil _).symm, tallies_nil⟩, rfl⟩

/-- A transcript is a ledger, and it explains why commands fail. -/
theorem ledger_accounted (past : List Entry) (settings : SessionSettings) :
    Ledger (σ := Transcriber σ) (Accounted past settings) fun cause session =>
      Explained past cause session.screen.transcript where
  congr := by
    rintro tally session next ⟨transcript, same⟩ screen settings
    exact ⟨screen ▸ transcript, settings.trans same⟩
  draws := by
    rintro tally session drawing strokes ⟨transcript, same⟩ draws
    refine draws.ensures ((paint_tallied strokes session.screen transcript).mono ?_ fun _ _ => id)
    exact fun _ screen transcript => ⟨transcript, same⟩
  nextKey := by
    rintro tally session limit ⟨⟨news, transcript, tallies⟩, same⟩
    refine .onScreen (transcribe_ensures (fun key screen => ?_) fun fault screen => ?_)
    · exact ⟨⟨_, transcript ▸ List.append_assoc .., tallies.key limit key⟩, same⟩
    · exact ⟨_, transcript ▸ List.append_assoc .., .concat rfl⟩
  quit := by
    rintro tally session ⟨⟨news, transcript, tallies⟩, -⟩ quits
    rw [← tallies.quits, List.any_eq_true] at quits
    obtain ⟨entry, member, asked⟩ := quits
    exact ⟨news, transcript, .quit member asked⟩

end Session

end Karel
