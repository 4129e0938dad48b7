import Karel.Proofs.Console.Sheet
import Karel.Proofs.Language.Safety
import Karel.Proofs.Session.Ledger

/-!
# The keys that a program costs

A run of a program waits with a limit once for each command that succeeds, and without a limit once
for each command that is refused, for each pause and, if steps are to be confirmed, for each step.
`countProgram` is the run that counts its commands and steps; counting takes nothing away and adds
nothing. That the counts and the keys agree is one invariant of the run, `Balanced`: each command and
each step moves both sides of it alike, by the ledger of the transcript. A run ends early where the
transcript tells why, or where no clock can measure the wait after a command.
-/

namespace Karel.Session

open Console

variable {σ α : Type}

/-- How many commands succeeded, how many were refused and how many steps were shown. -/
structure Outcomes where
  succeeded : Nat
  refused : Nat
  shown : Nat
deriving DecidableEq

namespace Outcomes

/-- The outcomes before anything was done. -/
def zero : Outcomes := ⟨0, 0, 0⟩

/-- One more command succeeded. -/
def succeed (outcomes : Outcomes) : Outcomes :=
  { outcomes with succeeded := outcomes.succeeded + 1 }

/-- One more command was refused. -/
def refuse (outcomes : Outcomes) : Outcomes := { outcomes with refused := outcomes.refused + 1 }

/-- One more step was shown. -/
def step (outcomes : Outcomes) : Outcomes := { outcomes with shown := outcomes.shown + 1 }

/-- The keys that these outcomes cost. -/
def tally (outcomes : Outcomes) (mode : StepMode) : KeyTally :=
  ⟨outcomes.succeeded, outcomes.refused + mode.prompts * outcomes.shown, false⟩

variable {outcomes : Outcomes} {mode : StepMode}

theorem tally_zero : zero.tally mode = .zero := by
  simp [tally, zero, KeyTally.zero]

theorem tally_succeed : outcomes.succeed.tally mode = (outcomes.tally mode).ticked := rfl

theorem tally_refuse : outcomes.refuse.tally mode = (outcomes.tally mode).prompted 1 := by
  simp [tally, refuse, KeyTally.prompted, Int.add_right_comm]

theorem tally_step : outcomes.step.tally mode = (outcomes.tally mode).prompted mode.prompts := by
  simp [tally, step, KeyTally.prompted, Int.mul_add, Int.add_assoc]

end Outcomes

/-- A session that counts the outcomes of its commands. -/
structure Counted (σ : Type) where
  session : Session σ
  outcomes : Outcomes

/-- Does something in the session that does not count. -/
def uncounted (command : Command σ α) : Act (Counted σ) SessionFault α :=
  command.onPart Counted.session (fun counted session => { counted with session := session }) id

/-- Goes on after a refusal, and counts how the command came out. -/
def counted (command : Command σ Unit) : Act (Counted σ) SessionFault Unit :=
  .ofFunction fun state =>
    match command.apply state.session with
    | (.ok (), next) => (.ok (), ⟨next, state.outcomes.succeed⟩)
    | (.error (.refused _), next) => (.ok (), ⟨next, state.outcomes.refuse⟩)
    | (.error fault, next) => (.error fault, ⟨next, state.outcomes⟩)

variable [Screen σ]

instance : Drivable (Counted σ) SessionFault where
  move := counted move
  turnLeft := counted turnLeft
  turnRight := counted turnRight
  pick := counted pick
  put := counted put
  frontIsBlocked := uncounted frontIsBlocked
  frontIsTreasure := uncounted frontIsTreasure
  beeperIsPresent := uncounted beeperIsPresent
  isFacing direction := uncounted (isFacing direction)

/-- Shows a step and counts it. -/
def countStep (step : Step) : Act (Counted σ) SessionFault Unit := do
  uncounted (observe step)
  Act.update fun counted => { counted with outcomes := counted.outcomes.step }

/-- A program run in a session that counts. -/
def countProgram (program : Program) (steps : Nat) : Act (Counted σ) SessionFault (List Frame) := do
  uncounted (message "LOADED PROGRAM" .status)
  (program.run .standard countStep steps).mapError SessionFault.ofRun

/-! ## Counting changes nothing -/

/-- A session with any counts. -/
def Counts (session : Session σ) (counted : Counted σ) : Prop := counted.session = session

omit [Screen σ] in
theorem uncounted_simulates (command : Command σ α) :
    command.Simulates Counts (· = ·) (uncounted command) := by
  rintro _ ⟨session, outcomes⟩ rfl
  rw [uncounted, Act.apply_onPart]
  dsimp only
  rcases command.apply session with ⟨cause | value, next⟩
  · exact .failure rfl rfl
  · exact .value rfl

omit [Screen σ] in
theorem counted_simulates (command : Command σ Unit) :
    (ignoreRefusal command).Simulates Counts (· = ·) (counted command) := by
  rintro _ ⟨session, outcomes⟩ rfl
  rw [ignoreRefusal, counted, Act.apply_ofFunction, Act.apply_bind, Act.apply_attempt]
  dsimp only
  rcases command.apply session with ⟨cause | value, next⟩
  · cases cause with
    | refused refusal => exact .value rfl
    | save _ | display _ | program _ | quit | overlong => exact .failure rfl rfl
  · exact .value rfl

/-- The words of a session that counts are those of the session. -/
theorem vocabulary_simulates_counted : Vocabulary.Simulates Counts (· = ·)
    (vocabulary : Vocabulary (Session σ) SessionFault) .standard := by
  have corresponds : Drivable.Corresponds
      (fun (command : Command σ Unit) action => command.Simulates Counts (· = ·) action)
      fun (check : Command σ Bool) action => check.Simulates Counts (· = ·) action := {
    skip := .pure ()
    move := counted_simulates _
    turnLeft := counted_simulates _
    turnRight := counted_simulates _
    pick := counted_simulates _
    put := counted_simulates _
    frontIsBlocked := uncounted_simulates _
    frontIsTreasure := uncounted_simulates _
    beeperIsPresent := uncounted_simulates _
    isFacing := fun _ => uncounted_simulates _ }
  exact ⟨corresponds.commands_rel, corresponds.conditions_rel⟩

theorem observe_simulates_countStep (step : Step) :
    (observe step : Command σ Unit).Simulates Counts (· = ·) (countStep step) := by
  rintro _ ⟨session, outcomes⟩ rfl
  rw [countStep, Act.apply_bind, uncounted, Act.apply_onPart]
  dsimp only
  rcases (observe step : Command σ Unit).apply session with ⟨cause | value, next⟩
  · exact .failure rfl rfl
  · exact .value rfl

/-- Without the counts, a run that counts is the run. -/
theorem runProgram_simulates_countProgram (program : Program) (steps : Nat) :
    (runProgram program steps : Command σ _).Simulates Counts (· = ·)
      (countProgram program steps) := by
  refine .bind (uncounted_simulates _) fun _ => .mapError (Program.run_simulates
    vocabulary_simulates_counted observe_simulates_countStep program steps) ?_
  rintro _ _ alike
  rw [alike.eq]

/-! ## Keys and counts agree -/

section Balanced

variable {past : List Entry} {settings : SessionSettings}

/-- The keys that were read since then are those that the outcomes cost. -/
def Balanced (past : List Entry) (settings : SessionSettings) (counted : Counted (Transcriber σ)) :
    Prop :=
  Accounted past settings (counted.outcomes.tally settings.stepMode) counted.session

/-- What is written down since then explains the failure, or a delay is too long for any clock. -/
def Unbalanced (past : List Entry) (settings : SessionSettings) (cause : SessionFault)
    (counted : Counted (Transcriber σ)) : Prop :=
  Explained past cause counted.session.screen.transcript ∨
    cause = .overlong ∧ settings.delay? = none

omit [Screen σ] in
/-- What costs no key need not be counted. -/
theorem uncounted_balanced {command : Command (Transcriber σ) α}
    (free : ∀ tally, command.Preserves (Accounted past settings tally) fun cause next =>
      Explained past cause next.screen.transcript) :
    (uncounted command).Preserves (Balanced past settings) (Unbalanced past settings) := by
  rintro ⟨session, outcomes⟩ balanced
  exact .onPart ((free _ session balanced).mono (fun _ _ => id) fun _ _ => .inl)

/-- A command that draws something keeps the balance, whether it succeeds or is refused. -/
theorem counted_balanced (label : String) (changes : Redraw) (drawn : changes ≠ .nothing)
    (act : Act Window Refusal Unit) :
    (counted (execute label changes act : Command (Transcriber σ) Unit)).Preserves
      (Balanced past settings) (Unbalanced past settings) := by
  rintro ⟨session, outcomes⟩ balanced
  have costs := (ledger_accounted past settings).execute label changes act balanced
  rw [Ledger.afterSuccess, if_pos drawn] at costs
  unfold Act.Ensures
  rw [counted, Act.apply_ofFunction]
  dsimp only
  rcases applied : (execute label changes act : Command (Transcriber σ) Unit).apply session with
    ⟨cause | value, next⟩
  · rcases costs.of_error applied with
      (explained | ⟨-, rfl, delay, held⟩) | ⟨refusal, window, -, rfl, held⟩
    · have unbalanced : Unbalanced past settings cause ⟨next, outcomes⟩ := .inl explained
      obtain ⟨news, transcript, explains⟩ := explained
      cases explains <;> exact unbalanced
    · exact .inr ⟨rfl, held.settings ▸ delay⟩
    · rw [← Outcomes.tally_refuse] at held
      exact held
  · have held := costs.of_ok applied
    rw [← Outcomes.tally_succeed] at held
    exact held

theorem standard_balanced : (Vocabulary.standard : Vocabulary (Counted (Transcriber σ)) _).Judged
    (Act.preservation (Balanced past settings)) (Unbalanced past settings) := by
  have query : ∀ (label : String) (question : World → Bool),
      (uncounted (query label question : Command (Transcriber σ) Bool)).Preserves
        (Balanced past settings) (Unbalanced past settings) :=
    fun label question =>
      uncounted_balanced fun _ => (ledger_accounted past settings).query label question
  refine Vocabulary.standard_judged ?_
  exact {
    skip := .pure ()
    move := counted_balanced "MOVE" .moved nofun _
    turnLeft := counted_balanced "LEFT" .robot nofun _
    turnRight := counted_balanced "RIGHT" .robot nofun _
    pick := counted_balanced "TAKE" .robot nofun _
    put := counted_balanced "PUT" .robot nofun _
    frontIsBlocked := query _ _
    frontIsTreasure := query _ _
    beeperIsPresent := query _ _
    isFacing := fun direction => query _ fun world => world.isFacing direction }

theorem countStep_balanced (step : Step) :
    (countStep step : Act (Counted (Transcriber σ)) _ Unit).Preserves (Balanced past settings)
      (Unbalanced past settings) := by
  rintro ⟨session, outcomes⟩ balanced
  have costs := (ledger_accounted past settings).observe step balanced
  rw [balanced.settings, ← Outcomes.tally_step] at costs
  have shown : (uncounted (observe step)).Ensures ⟨session, outcomes⟩
      (fun _ next =>
        Accounted past settings (next.outcomes.step.tally settings.stepMode) next.session)
      (Unbalanced past settings) := .onPart (costs.mono (fun _ _ => id) fun _ _ => .inl)
  exact .bind shown fun _ _ held => .update held

/-- A run keeps the balance, and stops early only because of what the transcript tells, because of a
delay that no clock can measure or because the program does not say where to start. -/
theorem countProgram_balanced {program : Program}
    (wellFormed : program.WellFormed (.standard : Vocabulary (Counted (Transcriber σ)) _))
    (steps : Nat) :
    (countProgram program steps : Act (Counted (Transcriber σ)) _ _).Preserves
      (Balanced past settings) fun cause counted => Unbalanced past settings cause counted ∨
        cause = .program .noRun ∧ program.main = none := by
  refine .bind (fun counted balanced => ?_) fun _ => .mapError fun counted balanced => ?_
  · have loaded : (uncounted (message "LOADED PROGRAM" .status)).Ensures counted
        (fun _ next => Balanced past settings next) (Unbalanced past settings) :=
      uncounted_balanced (fun _ => (ledger_accounted past settings).message _ _) counted balanced
    exact loaded.mono (fun _ _ => id) fun _ _ => .inl
  · have kept := Program.run_preserves standard_balanced countStep_balanced program steps counted
      balanced
    unfold Act.Ensures
    rcases applied : (program.run .standard countStep steps).apply counted with
      ⟨failure | stack, last⟩
    · have left := kept.of_error applied
      cases left with
      | fault =>
        obtain ⟨rfl, silent⟩ := Program.fault_of_run wellFormed applied
        exact .inr ⟨rfl, silent⟩
      | act failed => exact .inl failed
    · exact kept.of_ok applied

end Balanced

/-- Nothing has failed since the run began and nobody asked to quit; the keys that were read are one
for the time of each command that succeeded, and one for each command that was refused, for each pause
that was asked for and, if steps are to be confirmed, for each step that was shown. -/
structure KeysAgree (first last : Session (Transcriber σ)) (outcomes : Outcomes) (news : List Entry) :
    Prop where
  transcript : last.screen.transcript = first.screen.transcript ++ news
  sound : ∀ entry ∈ news, entry.fault? = none
  stays : ∀ entry ∈ news, entry.isQuit = false
  timed : news.countP Entry.isTimed = outcomes.succeeded
  untimed : news.countP Entry.isUntimed = outcomes.refused + news.countP Entry.isPause +
    if first.settings.stepMode = .confirm then outcomes.shown else 0

omit [Screen σ] in
theorem Balanced.exists_keysAgree {first : Session (Transcriber σ)} {last : Counted (Transcriber σ)}
    (balanced : Balanced first.screen.transcript first.settings last) :
    ∃ news, KeysAgree first last.session last.outcomes news := by
  obtain ⟨⟨news, transcript, sound, timed, prompts, quits⟩, -⟩ := balanced
  refine ⟨news, transcript, sound, fun entry member => ?_, timed, ?_⟩
  · exact Bool.eq_false_iff.mpr (List.any_eq_false.mp quits entry member)
  · have steps : first.settings.stepMode.prompts * last.outcomes.shown =
        if first.settings.stepMode = .confirm then last.outcomes.shown else 0 := by
      cases first.settings.stepMode <;> simp [StepMode.prompts]
    rw [← steps]
    simp only [Outcomes.tally] at prompts
    omega

/-- No key was read since then. -/
def ReadsNothing (first last : Session (Transcriber σ)) : Prop :=
  ∃ news, last.screen.transcript = first.screen.transcript ++ news ∧
    ∀ entry ∈ news, entry.isTimed = false ∧ entry.isUntimed = false

/-- Where nothing is counted, no key was read: there are no pauses without waits with a limit. -/
theorem Tallies.reads_nothing {news : List Entry} (tallies : Tallies news .zero) :
    ∀ entry ∈ news, entry.isTimed = false ∧ entry.isUntimed = false := by
  obtain ⟨-, timed, prompts, -⟩ := tallies
  have pauses := Entry.countP_isPause_le news
  have noTimed : news.countP Entry.isTimed = 0 := timed
  have noUntimed : news.countP Entry.isUntimed = 0 := by
    simp only [KeyTally.zero] at prompts
    omega
  intro entry member
  exact ⟨Bool.eq_false_iff.mpr (List.countP_eq_zero.mp noTimed entry member),
    Bool.eq_false_iff.mpr (List.countP_eq_zero.mp noUntimed entry member)⟩

/-- A condition costs no key. -/
theorem condition_free {name : String} {check : Command (Transcriber σ) Bool}
    (known : (vocabulary : Vocabulary (Session (Transcriber σ)) _).conditions[name]? = some check)
    (first : Session (Transcriber σ)) :
    check.Ensures first (fun _ last => ReadsNothing first last) fun cause last =>
      Explained first.screen.transcript cause last.screen.transcript := by
  have ledger := ledger_accounted (σ := σ) first.screen.transcript first.settings
  have free : Drivable.Corresponds
      (fun (_ _ : Command (Transcriber σ) Unit) => True)
      fun (check _ : Command (Transcriber σ) Bool) => check.Preserves
        (Accounted first.screen.transcript first.settings .zero) fun cause last =>
          Explained first.screen.transcript cause last.screen.transcript := {
    skip := trivial
    move := trivial
    turnLeft := trivial
    turnRight := trivial
    pick := trivial
    put := trivial
    frontIsBlocked := ledger.query _ _
    frontIsTreasure := ledger.query _ _
    beeperIsPresent := ledger.query _ _
    isFacing := fun direction => ledger.query _ fun world => world.isFacing direction }
  refine (free.of_condition known first (accounted_self first)).mono ?_ fun _ _ => id
  rintro _ last ⟨⟨news, transcript, tallies⟩, -⟩
  exact ⟨news, transcript, tallies.reads_nothing⟩

/-- A run of a program that was read does the same whether its commands are counted or not. After any
number of steps, the keys that were read agree with the counts. It can only stop before them because
an operation of the screen failed, because the user asked to quit, because no clock can measure the
delay after a command, or because the program does not say where to start. No condition reads a key,
and to skip does nothing. -/
theorem runProgram_keysAgree {source : String} {program : Program}
    (accepted : Language.read (vocabulary : Vocabulary (Session (Transcriber σ)) SessionFault) source =
      .ok program) (session : Session (Transcriber σ)) :
    (∀ steps, (runProgram program steps).apply session =
      Prod.map id Counted.session ((countProgram program steps).apply ⟨session, .zero⟩)) ∧
    (∀ steps stack last, (countProgram program steps).apply ⟨session, .zero⟩ = (.ok stack, last) →
      ∃ news, KeysAgree session last.session last.outcomes news) ∧
    (∀ steps cause last, (countProgram program steps).apply ⟨session, .zero⟩ = (.error cause, last) →
      (Explained session.screen.transcript cause last.session.screen.transcript ∨
        cause = .overlong ∧ session.settings.delay? = none) ∨
        cause = .program .noRun ∧ program.main = none) ∧
    (∀ (name : String) (check : Command (Transcriber σ) Bool),
      vocabulary.conditions[name]? = some check → ∀ first : Session (Transcriber σ),
        check.Ensures first (fun _ last => ReadsNothing first last) fun cause last =>
          Explained first.screen.transcript cause last.screen.transcript) ∧
    vocabulary.commands["skip"]? = some (pure () : Command (Transcriber σ) Unit) := by
  have wellFormed := (Language.wellFormed_of_read accepted).congr
    (fun name => (Vocabulary.names_standard (σ := Counted (Transcriber σ)) name).1)
    (fun name => (Vocabulary.names_standard name).2)
  have balanced : Balanced session.screen.transcript session.settings ⟨session, .zero⟩ := by
    rw [Balanced, Outcomes.tally_zero]
    exact accounted_self session
  have kept := fun steps => countProgram_balanced wellFormed steps _ balanced
  refine ⟨fun steps => ?_, fun steps stack last done => ?_, fun steps cause last => ?_, ?_, ?_⟩
  · exact (runProgram_simulates_countProgram program steps session ⟨session, .zero⟩ rfl).eq_map
  · exact ((kept steps).of_ok done).exists_keysAgree
  · exact (kept steps).of_error
  · exact fun name check known first => condition_free known first
  · exact Vocabulary.commands_standard_skip

/-- A session in the plane without borders, whose user confirms each step and pauses once. -/
def confirmingSession : Session (Transcriber Sheet) where
  window := .onWorld ⟨.initial, .empty .unbounded⟩ .standard
  screen := ⟨.blank ⟨80, 25⟩ [.up, .up, .character 'p', .up] none, []⟩
  settings := { SessionSettings.standard with stepMode := .confirm }
  records := .ofStorage .empty

/-- The keys that the user presses agree with the counts of the walk. -/
theorem runProgram_keysAgree_walk :
    ∃ program, Language.read (vocabulary : Vocabulary (Session (Transcriber Sheet)) SessionFault)
        Language.walkSource = .ok program ∧
      ∀ steps stack last, (countProgram program steps).apply ⟨confirmingSession, .zero⟩ =
        (.ok stack, last) → ∃ news, KeysAgree confirmingSession last.session last.outcomes news := by
  have readable : (Language.read (vocabulary : Vocabulary (Session (Transcriber Sheet)) SessionFault)
      Language.walkSource).isOk = true := by
    decide +kernel
  obtain ⟨program, accepted⟩ := Language.exists_of_isOk readable
  exact ⟨program, accepted, (runProgram_keysAgree accepted confirmingSession).2.1⟩

end Karel.Session
