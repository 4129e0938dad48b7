import Karel.Proofs.Language.Sights
import Karel.Proofs.Console.Sheet
import Karel.Proofs.Language.WellFormed
import Karel.Proofs.Window.Driving

/-!
# Programs in a session act on the world alone

A program that drives a session does in the world what it does in the world without a session, if
there its refused commands are ignored. `runProgram_agrees` says this of runs of any length on a
quiet screen: they reach the same statements, find the same answers to the same conditions and leave
the same world. Of the settings only the speed has a part in it, and only where it is so slow that no
clock can measure the delay: then the run is cut short when the first command has succeeded. Pauses
and keys have none.
-/

namespace Karel.Session

open Console

variable {σ : Type} {quiet : σ → Prop} {delay : Option Nat}

/-- The words of programs that drive a bare world and are not stopped by refusals. -/
def bareVocabulary : Vocabulary World Refusal := Vocabulary.standard.forgiving

/-- A program run in a bare world, together with what is seen of the run. -/
def watchBare (program : Program) (steps : Nat) :
    Act (World × List Sight) (RunFailure Refusal) (List Frame) :=
  program.run bareVocabulary.sighted (sightSteps fun _ => pure ()) steps

/-- The session shows a window on that world, on a quiet screen, with that delay. -/
def Holds (quiet : σ → Prop) (delay : Option Nat) (session : Session σ) (world : World) : Prop :=
  ∃ window, Shows quiet delay session window ∧ window.Fronts world

theorem Holds.world_eq {session : Session σ} {world : World}
    (held : Holds quiet delay session world) : session.window.world = world := by
  obtain ⟨window, shown, behind⟩ := held
  rw [shown.window]
  exact behind

variable [Screen σ]

/-- A program run in a session, together with what is seen of the run. -/
def watchProgram (program : Program) (steps : Nat) :
    Act (Session σ × List Sight) SessionFault (List Frame) := do
  (message "LOADED PROGRAM" .status).sighted fun _ => []
  (program.run vocabulary.sighted (sightSteps observe) steps).mapError SessionFault.ofRun

omit [Screen σ] in
/-- Going on after a refusal is going on after every failure, if refusals are the only ones. What the
delay cuts short is not gone on from. -/
theorem ignoreRefusal_simulatesUntil {τ : Type} {related : Session σ → τ → Prop}
    {command : Command σ Unit} {action : Act τ Refusal Unit}
    (alike : command.SimulatesUntil related (fun cause refusal => cause = .refused refusal)
      (Halts delay) action) :
    (ignoreRefusal command).SimulatesUntil related (fun _ _ => False) (Halts delay)
      action.forgiven := by
  intro session other states
  have inner := alike session other states
  rw [ignoreRefusal, Act.apply_bind, Act.apply_attempt, Act.apply_forgiven]
  generalize command.apply session = left at inner ⊢
  generalize action.apply other = right at inner ⊢
  rcases inner with results | cut
  · cases results with
    | value onward => exact .inl (.value onward)
    | failure corresponds onward =>
        cases corresponds
        exact .inl (.value onward)
  · cases cut with
    | intro halts onward =>
        obtain ⟨rfl, endless⟩ := halts
        exact .inr (.intro ⟨rfl, endless⟩ onward)

omit [Screen σ] in
/-- What a session does apart from the world is nothing to a bare world. -/
theorem Idle.simulates {ε : Type} {act : Command σ Unit}
    (idle : ∀ session window, Shows quiet delay session window →
      Idle quiet delay window session act) :
    act.Simulates (Holds quiet delay) (fun _ _ => False) (pure () : Act World ε Unit) := by
  rintro session world ⟨window, shown, behind⟩
  refine .of_ok ((idle session window shown).mono (fun _ next after => ?_) fun _ _ => id)
  exact ⟨rfl, window, after, behind⟩

variable (device : Quiet quiet)
include device

/-- A command of a session is what its act does in the world behind the window, unless its delay cuts
it short. -/
theorem execute_simulatesUntil_world {α : Type} (label : String) (changes : Redraw)
    {act : Act Window Refusal α} {action : Act World Refusal α}
    (behind : act.Simulates Window.Fronts (· = ·) action) :
    (execute label changes act : Command σ α).SimulatesUntil (Holds quiet delay)
      (fun cause refusal => cause = .refused refusal)
      (fun cause => changes ≠ .nothing ∧ Halts delay cause) action :=
  (execute_simulatesUntil device label changes act).comp behind

/-- No question is refused and none takes time, so a session gives the answer of the world. -/
theorem query_simulates (label : String) (question : World → Bool) :
    (query label question : Command σ Bool).Simulates (Holds quiet delay) (fun _ _ => False)
      (Act.ask question : Act World Refusal Bool) := by
  intro session world states
  have timeless : (query label question : Command σ Bool).Simulates (Holds quiet delay)
      (fun cause refusal => cause = .refused refusal) (Act.ask question) :=
    (execute_simulatesUntil_world device label .nothing (Window.ask_simulates question)).simulates
      fun _ halts => halts.1 rfl
  have answered : Act.Alike (Holds quiet delay) (fun cause refusal => cause = .refused refusal)
      ((query label question : Command σ Bool).apply session) (.ok (question world), world) :=
    timeless session world states
  generalize (query label question : Command σ Bool).apply session = left at answered ⊢
  cases answered with
  | value onward => exact .value onward

/-- A session can be driven like a bare world in which refusals are ignored. -/
theorem drivable_corresponds (delay : Option Nat) : Drivable.Corresponds
    (fun (command : Command σ Unit) (action : Act World Refusal Unit) =>
      command.SimulatesUntil (Holds quiet delay) (fun _ _ => False) (Halts delay) action.forgiven)
    (Act.Simulates (Holds quiet delay) fun _ _ => False) := by
  have goesOn (label : String) (changes : Redraw) {act : Act Window Refusal Unit}
      {action : Act World Refusal Unit} (behind : act.Simulates Window.Fronts (· = ·) action) :
      (ignoreRefusal (execute label changes act) : Command σ Unit).SimulatesUntil
        (Holds quiet delay) (fun _ _ => False) (Halts delay) action.forgiven :=
    ignoreRefusal_simulatesUntil ((execute_simulatesUntil_world device label changes behind).mono
      fun _ halts => halts.2)
  exact {
    skip := (Act.Simulates.pure ()).until
    move := goesOn _ _ Window.move_simulates
    turnLeft := goesOn _ _ (Window.mapWorld_simulates _)
    turnRight := goesOn _ _ (Window.mapWorld_simulates _)
    pick := goesOn _ _ (Window.tryWorld_simulates _)
    put := goesOn _ _ (Window.tryWorld_simulates _)
    frontIsBlocked := query_simulates device _ _
    frontIsTreasure := query_simulates device _ _
    beeperIsPresent := query_simulates device _ _
    isFacing := fun direction => query_simulates device _ fun world => world.isFacing direction }

/-- The words of a session are those of a bare world. -/
theorem vocabulary_simulatesUntil : Vocabulary.SimulatesUntil (Holds quiet delay)
    (fun _ _ => False) (Halts delay) (vocabulary : Vocabulary (Session σ) SessionFault)
    bareVocabulary where
  command name := by
    have entry := (drivable_corresponds device delay).commands_rel name
    rw [vocabulary, bareVocabulary, Vocabulary.forgiving, Std.ExtTreeMap.getElem?_map]
    generalize (Vocabulary.standard : Vocabulary (Session σ) SessionFault).commands[name]? = left
      at entry ⊢
    generalize (Vocabulary.standard : Vocabulary World Refusal).commands[name]? = right at entry ⊢
    cases entry with
    | none => exact .none
    | some alike => exact .some alike
  condition name := (drivable_corresponds device delay).conditions_rel name
/-- A run in a session fails with the fault that the bare run has. -/
def SameFault (cause : SessionFault) (failure : RunFailure Refusal) : Prop :=
  ∃ fault, cause = .program fault ∧ failure = .fault fault

/-- A run in a session is seen like the run in the bare world, up to where its delay cuts it short. -/
theorem watchProgram_alike (program : Program) (steps : Nat) {session : Session σ × List Sight}
    {world : World × List Sight} (states : SeenAlike (Holds quiet delay) session world) :
    Act.Alike (SeenAlike (Holds quiet delay)) SameFault
        ((watchProgram program steps).apply session) ((watchBare program steps).apply world) ∨
      ∃ fewer ≤ steps, Act.CutShort (SeenAlike (Holds quiet delay)) (Halts delay)
        ((watchProgram program steps).apply session) ((watchBare program fewer).apply world) := by
  have loaded : Act.Simulates (Holds quiet delay) (fun _ _ => False)
      (message "LOADED PROGRAM" .status : Command σ Unit) (pure () : Act World Refusal Unit) :=
    Idle.simulates fun _ _ shown => idle_message device shown "LOADED PROGRAM" .status
  have shows : ∀ step, Act.Simulates (Holds quiet delay) (fun _ _ => False)
      (observe step : Command σ Unit) (pure () : Act World Refusal Unit) :=
    fun step => Idle.simulates fun _ _ shown => idle_observe device shown step
  have begun := (loaded.sighted fun _ => []) session world states
  rw [Act.sighted_pure, Act.apply_pure] at begun
  rw [watchProgram, Act.apply_bind]
  generalize ((message "LOADED PROGRAM" .status).sighted fun _ => []).apply session = left at begun ⊢
  cases begun with
  | @value _ begun _ states =>
    have runs := Program.run_simulatesUntil (vocabulary_simulatesUntil device).sighted
      (fun step => (shows step).sighted fun _ => [.reached step]) program steps states
    rcases runs with results | ⟨fewer, sooner, cut⟩
    · refine .inl (results.mapError_left ?_)
      rintro _ _ (_ | never)
      · exact ⟨_, rfl, rfl⟩
      · exact never.elim
    · refine .inr ⟨fewer, sooner, cut.mapError_left ?_⟩
      rintro _ ⟨halts⟩
      exact halts

omit device in
/-- Without what is seen, a watched run is the run. -/
theorem runProgram_simulates_watchProgram (program : Program) (steps : Nat) :
    (runProgram program steps : Command σ _).Simulates Sighted (· = ·)
      (watchProgram program steps) := by
  refine .bind (Act.simulates_sighted _ _) fun _ => ?_
  refine .mapError (Program.run_simulates_sighted program _ _ steps) ?_
  rintro _ _ rfl
  rfl

/-- In a session on a quiet screen, a program does what it does in the bare world if refusals are
ignored there. After any number of steps, the two runs have reached the same statements and found the
same answers, left the same frames or stopped with the same fault of the program, and left the same
world; and one ends without a fault exactly if the other does. The session can have any window,
settings and records, if only a clock can measure the delay after a command. If none can, the run in
the session may also be cut short by the delay: then it has done what the bare run does in as many
steps or fewer. What is seen of the runs changes neither. -/
theorem runProgram_agrees (program : Program) (session : Session σ) (calm : quiet session.screen) :
    (session.settings.delay? ≠ none →
      (∀ steps, Act.Alike (SeenAlike fun session world => session.window.world = world) SameFault
        ((watchProgram program steps).apply (session, []))
        ((watchBare program steps).apply (session.window.world, []))) ∧
      ((∃ steps last, (runProgram program steps).apply session = (.ok [], last)) ↔
        ∃ steps last, (program.run bareVocabulary (fun _ => pure ()) steps).apply
          session.window.world = (.ok [], last))) ∧
    (session.settings.delay? = none → ∀ steps,
      Act.Alike (SeenAlike fun session world => session.window.world = world) SameFault
          ((watchProgram program steps).apply (session, []))
          ((watchBare program steps).apply (session.window.world, [])) ∨
        ∃ fewer ≤ steps,
          Act.CutShort (SeenAlike fun session world => session.window.world = world) (· = .overlong)
            ((watchProgram program steps).apply (session, []))
            ((watchBare program fewer).apply (session.window.world, []))) ∧
    ∀ steps, (runProgram program steps).apply session =
        unsighted ((watchProgram program steps).apply (session, [])) ∧
      (program.run bareVocabulary (fun _ => pure ()) steps).apply session.window.world =
        unsighted ((watchBare program steps).apply (session.window.world, [])) := by
  have shown : SeenAlike (Holds quiet session.settings.delay?) (session, [])
      (session.window.world, []) :=
    ⟨⟨session.window, ⟨rfl, calm, rfl⟩, rfl⟩, rfl⟩
  have same : ∀ left right, SeenAlike (Holds quiet session.settings.delay?) left right →
      SeenAlike (fun session world => session.window.world = world) left right :=
    SeenAlike.imp fun _ _ held => held.world_eq
  have runs := fun steps => watchProgram_alike device program steps shown
  have driven := fun steps =>
    (runProgram_simulates_watchProgram program steps).apply_eq_unsighted session []
  have bare := fun steps => (program.run_simulates_sighted bareVocabulary (fun _ => pure ())
    steps).apply_eq_unsighted session.window.world []
  refine ⟨fun known => ?_, fun endless steps => ?_, fun steps => ⟨driven steps, bare steps⟩⟩
  · have agree : ∀ steps,
        Act.Alike (SeenAlike fun session world => session.window.world = world) SameFault
          ((watchProgram program steps).apply (session, []))
          ((watchBare program steps).apply (session.window.world, [])) := by
      intro steps
      rcases runs steps with alike | ⟨fewer, -, cut⟩
      · exact alike.imp same
      · obtain ⟨cause, halts⟩ := cut.exists_stops
        exact absurd halts.delay known
    refine ⟨agree, exists_congr fun steps => ?_⟩
    rw [driven, bare]
    have results := agree steps
    unfold watchBare at results
    generalize (watchProgram program steps).apply (session, []) = left at results ⊢
    generalize (program.run bareVocabulary.sighted (sightSteps fun _ => pure ()) steps).apply
      (session.window.world, []) = right at results ⊢
    cases results with
    | value states => simp [unsighted]
    | failure corresponds states => simp [unsighted]
  · rcases runs steps with alike | ⟨fewer, sooner, cut⟩
    · exact .inl (alike.imp same)
    · exact .inr ⟨fewer, sooner, cut.mono same fun _ => Halts.cause⟩

/-- A session in the plane without borders, whose user pauses it once. -/
def plainSession (settings : SessionSettings) : Session Sheet where
  window := .onWorld ⟨.initial, .empty .unbounded⟩ .standard
  screen := .blank ⟨80, 25⟩ [.character 'p', .up] none
  settings := settings
  records := .ofStorage .empty

omit device in
/-- The walk goes on for ever in the plane without borders. It does the same in a session whose user
pauses it, whatever it shows of its steps and at any speed that is not too slow for a clock, such as
the usual one. -/
theorem runProgram_agrees_walk :
    SessionSettings.standard.delay? ≠ none ∧
    ∃ program, Language.read (vocabulary : Vocabulary (Session Sheet) SessionFault)
        Language.walkSource = .ok program ∧
      ∀ settings : SessionSettings, settings.delay? ≠ none → ∀ steps, Act.Alike
        (SeenAlike fun session world => session.window.world = world) SameFault
        ((watchProgram program steps).apply (plainSession settings, []))
        ((watchBare program steps).apply (⟨.initial, .empty .unbounded⟩, [])) := by
  have readable : (Language.read (vocabulary : Vocabulary (Session Sheet) SessionFault)
      Language.walkSource).isOk = true := by
    decide +kernel
  obtain ⟨program, accepted⟩ := Language.exists_of_isOk readable
  have stays : Key.character 'q' ∉ [Key.character 'p', .up] := by decide
  refine ⟨by decide +kernel, program, accepted, fun settings known => ?_⟩
  exact ((runProgram_agrees Sheet.quiet program (plainSession settings) ⟨stays, rfl⟩).1 known).1

/-- A hundred million million million seconds for each command. -/
def slowestSettings : SessionSettings := { SessionSettings.standard with speed := some 1e-20 }

omit device in
/-- A program that turns left once ends in the bare world. In a session with such a speed it is cut
short: no clock can measure the delay after the turn. -/
theorem runProgram_overlong :
    slowestSettings.delay? = none ∧
    ∃ program, Language.read (vocabulary : Vocabulary (Session Sheet) SessionFault)
        "DEFINE turn\n left\nEND\nRUN turn" = .ok program ∧
      ((program.run bareVocabulary (fun _ => pure ()) 1).apply
        (plainSession slowestSettings).window.world).1 = .ok [] ∧
      ((runProgram program 1).apply (plainSession slowestSettings)).1 = .error .overlong := by
  have ends : (Language.read (vocabulary : Vocabulary (Session Sheet) SessionFault)
      "DEFINE turn\n left\nEND\nRUN turn").toOption.map (fun program =>
        (((program.run bareVocabulary (fun _ => pure ()) 1).apply
          (plainSession slowestSettings).window.world).1,
        ((runProgram program 1).apply (plainSession slowestSettings)).1)) =
      some (.ok [], .error .overlong) := by
    decide +kernel
  cases accepted : Language.read (vocabulary : Vocabulary (Session Sheet) SessionFault)
      "DEFINE turn\n left\nEND\nRUN turn" with
  | error fault =>
      rw [accepted] at ends
      cases ends
  | ok program =>
      rw [accepted] at ends
      obtain ⟨bare, driven⟩ := Prod.mk.inj (Option.some.inj ends)
      exact ⟨by decide +kernel, program, rfl, bare, driven⟩

end Karel.Session
