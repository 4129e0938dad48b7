import Karel.Proofs.Session.KeyReading

/-!
# A desk with keys

Between a session and the reading of a key script stands a desk: a bare world, with what its screen is
going to tell, but with nothing to be seen. What is done at a desk is done by acts like those of a
session, which ask for a key where the session asks for one, so a session can be compared with it act
by act. `Desk.answerKeys_eq` compares it with the reading. There a key that takes away a text is one
key of many, and here it is asked for by the act that shows the text; `Reading.settled` is what the
two have in common.
-/

namespace Karel.Session

open Console

/-- A world, and what a screen is going to tell. -/
structure Desk where
  world : World
  scripts : Scripts

/-- Why something at a desk did not succeed. -/
inductive Setback
  /-- It was refused, and the user has been told. -/
  | told
  | quit
  | display (fault : DisplayFault)

namespace Desk

/-- Waits for a key. -/
def nextKey : Act Desk Setback (Option Key) := .ofFunction fun desk =>
  match desk.scripts.keys with
  | [] => (.error (.display desk.scripts.ended), desk)
  | key :: rest => (.ok key, { desk with scripts := desk.scripts.withKeys rest })

/-- Waits for a key, but no longer than one command takes. -/
def timedKey : Act Desk Setback (Option Key) := .ofFunction fun desk =>
  (.ok desk.scripts.timedKeys.head?.join,
    { desk with scripts := desk.scripts.afterTimedKey })

/-- Asks for the size of the screen. -/
def size : Act Desk Setback ScreenSize := .ofFunction fun desk =>
  (.ok (desk.scripts.sizes 0), { desk with scripts := desk.scripts.afterSize })

/-- A text is shown, and any key takes it away. The key `q` asks to quit. -/
def prompt : Act Desk Setback Unit := do
  let key ← nextKey
  if key = some (.character 'q') then throw .quit

/-- The user is told why something did not succeed. -/
def tell : Act Desk Setback Unit := do
  prompt
  throw .told

/-- The time of one command passes. -/
def tick : Act Desk Setback Unit := do
  let key ← timedKey
  if key = some (.character 'q') then throw .quit
  else if key = some (.character 'p') then prompt
  else pure ()

/-- Works on the world. -/
def onWorld {α : Type} (act : Act World Refusal α) : Act Desk Refusal α :=
  act.onPart Desk.world (fun desk world => { desk with world := world }) id

/-- Does something in the world. Time passes after a success, and a refusal is told. -/
def perform (act : Act World Refusal Unit) : Act Desk Setback Unit := do
  match ← (onWorld act).attempt with
  | .ok () => tick
  | .error _ => tell

/-- Fits a window to the screen, if there is room for one. -/
def resize : Act Desk Setback Unit := do
  let size ← size
  if size.columns < 1 ∨ size.rows < 3 then throw (.display (.tooSmall size ⟨1, 3⟩))
  tick

/-- Does what a key says. The answer tells whether it is to leave. -/
def obey (saves : Bool) : Meaning → Act Desk Setback (Option Exit)
  | .leave exit => pure (some exit)
  | .operate operation => do perform operation.act; pure none
  | .pause => do prompt; pure none
  | .save => do (if saves then pure () else tell); pure none
  | .resize => do resize; pure none
  | .nothing => pure none

/-- Answers a key. The answer tells whether the keys end with it. -/
def respond (saves : Bool) (key : Key) : Act Desk Setback (Option Exit) := do
  match ← (obey saves (meaning key)).attempt with
  | .ok exit => pure exit
  | .error .told => pure none
  | .error .quit => pure (some .quit)
  | .error (.display fault) => throw (.display fault)

/-- Answers at most so many keys. -/
def answerKeys (saves : Bool) : Nat → Act Desk Setback (Option Exit)
  | 0 => pure none
  | keys + 1 => do
    match ← nextKey with
    | none => answerKeys saves keys
    | some key =>
      match ← respond saves key with
      | some exit => pure (some exit)
      | none => answerKeys saves keys

end Desk

/-! ## A desk and a reading -/

/-- The desk at which the reading of a script has got to these keys. -/
def Reading.desk (reading : Reading) (ended : DisplayFault) (keys : List (Option Key)) : Desk :=
  ⟨reading.world, ⟨keys, reading.timedKeys, reading.sizes, ended⟩⟩

/-- What the end of a reading is in the terms of a desk. -/
def Ending.outcome (ended : DisplayFault) : Ending → Except Setback (Option Exit)
  | .exit how => .ok (some how)
  | .tooSmall size => .error (.display (.tooSmall size ⟨1, 3⟩))
  | .ranOut => .error (.display ended)

/-- What a reading that has come to its end is in the terms of a desk. -/
def Reading.finished (ended : DisplayFault) :
    Ending × Reading × List (Option Key) → Except Setback (Option Exit) × Desk
  | (ending, last, rest) => (ending.outcome ended, last.desk ended rest)

/-- What has come of a key when the text that it may have brought up is taken away again. -/
def Reading.settled (ended : DisplayFault) :
    Option Ending × Reading → List (Option Key) → Except Setback (Option Exit) × Desk
  | (some ending, after), keys => (ending.outcome ended, after.desk ended keys)
  | (none, after), keys =>
    if after.prompted then
      match keys with
      | [] => (.error (.display ended), after.desk ended [])
      | pressed :: rest =>
        (.ok (if pressed = some (.character 'q') then some .quit else none), after.desk ended rest)
    else (.ok none, after.desk ended keys)

variable {saves : Bool} {reading after : Reading} {ended : DisplayFault} {keys : List (Option Key)}

/-- What interactive mode makes of the result of a command. -/
def Desk.answered : Except Setback (Option Exit) × Desk → Except Setback (Option Exit) × Desk
  | (.ok exit, desk) => (.ok exit, desk)
  | (.error .told, desk) => (.ok none, desk)
  | (.error .quit, desk) => (.ok (some .quit), desk)
  | (.error (.display fault), desk) => (.error (.display fault), desk)

theorem Desk.apply_respond (key : Key) (desk : Desk) : (Desk.respond saves key).apply desk =
    answered ((obey saves (meaning key)).apply desk) := by
  unfold respond
  rw [Act.apply_bind, Act.apply_attempt]
  rcases (obey saves (meaning key)).apply desk with ⟨(_ | _ | _) | exit, after⟩ <;> rfl

/-- A command that ends by showing a text ends when the next key has taken the text away. -/
theorem Desk.answered_prompt {next : Unit → Act Desk Setback (Option Exit)}
    (goesOn : ∀ desk, answered ((next ()).apply desk) = (.ok none, desk)) :
    answered ((prompt >>= next).apply (reading.desk ended keys)) =
      Reading.settled ended reading.prompt keys := by
  cases keys with
  | nil => rfl
  | cons pressed rest =>
      have asked : prompt.apply (reading.desk ended (pressed :: rest)) =
          (if pressed = some (.character 'q') then throw .quit else pure () :
            Act Desk Setback Unit).apply (reading.desk ended rest) := rfl
      rw [Act.apply_bind, asked]
      by_cases quits : pressed = some (.character 'q')
      · simp only [Reading.settled, Reading.prompt, quits, if_true]
        rfl
      · simp only [Reading.settled, Reading.prompt, quits, if_true, if_false]
        exact goesOn _

theorem Desk.answered_tell : answered ((do tell; pure none).apply (reading.desk ended keys)) =
    Reading.settled ended reading.prompt keys := by
  unfold tell
  rw [bind_assoc]
  exact answered_prompt fun _ => rfl

theorem Desk.answered_tick (fresh : reading.prompted = false) :
    answered ((do tick; pure none).apply (reading.desk ended keys)) =
      Reading.settled ended reading.passTime keys := by
  have waited : timedKey.apply (reading.desk ended keys) = (.ok reading.timedKeys.head?.join,
      Reading.desk { reading with timedKeys := reading.timedKeys.tail } ended keys) := rfl
  unfold Reading.passTime tick
  rw [bind_assoc, Act.apply_bind, waited]
  generalize reading.timedKeys.head?.join = pressed
  dsimp only
  by_cases quits : pressed = some (.character 'q')
  · rw [if_pos quits, if_pos quits]
    rfl
  rw [if_neg quits, if_neg quits]
  by_cases pauses : pressed = some (.character 'p')
  · rw [if_pos pauses, if_pos pauses]
    exact answered_prompt fun _ => rfl
  · rw [if_neg pauses, if_neg pauses]
    simp only [Reading.settled, fresh]
    rfl

theorem Desk.apply_onWorld {α : Type} (act : Act World Refusal α) :
    (onWorld act).apply (reading.desk ended keys) = ((act.apply reading.world).1,
      Reading.desk { reading with world := (act.apply reading.world).2 } ended keys) := by
  rw [onWorld, Act.apply_onPart]
  rw [show (reading.desk ended keys).world = reading.world from rfl]
  rcases act.apply reading.world with ⟨_ | _, _⟩ <;> rfl

theorem Desk.answered_operate (fresh : reading.prompted = false) (operation : World.Operation) :
    answered ((do perform operation.act; pure none).apply (reading.desk ended keys)) =
      Reading.settled ended (reading.obey saves (.operate operation)) keys := by
  unfold perform
  rw [bind_assoc, Act.apply_bind, Act.apply_attempt, apply_onWorld]
  dsimp only [Reading.obey]
  rcases done : operation.act.apply reading.world with ⟨refusal | _, world⟩
  · cases operation.eq_of_refused done
    exact answered_tell
  · exact answered_tick fresh

theorem Desk.answered_resize (fresh : reading.prompted = false) :
    answered ((do resize; pure none).apply (reading.desk ended keys)) =
      Reading.settled ended (reading.obey saves .resize) keys := by
  have asked : size.apply (reading.desk ended keys) = (.ok (reading.sizes 0),
      Reading.desk { reading with sizes := fun question => reading.sizes (question + 1) }
        ended keys) := rfl
  unfold resize
  rw [bind_assoc, Act.apply_bind, asked]
  dsimp only [Reading.obey]
  split
  next => rfl
  next => exact answered_tick fresh

theorem Desk.respond_eq (fresh : reading.prompted = false) (key : Key) :
    (respond saves key).apply (reading.desk ended keys) =
      Reading.settled ended (reading.obey saves (meaning key)) keys := by
  rw [apply_respond]
  cases meaning key with
  | leave exit => rfl
  | operate operation => exact answered_operate fresh operation
  | pause => exact answered_prompt fun _ => rfl
  | save =>
      cases saves with
      | true =>
          simp only [Reading.settled, Reading.obey, fresh, if_true]
          rfl
      | false => exact answered_tell
  | resize => exact answered_resize fresh
  | nothing =>
      simp only [Reading.settled, Reading.obey, fresh]
      rfl

/-- At a desk the keys are answered as they are read. The induction is on the number of keys that may
be answered; a text that is shown takes one key more from the script than from this number. -/
theorem Desk.answerKeys_eq (limit : Nat) (enough : keys.length < limit)
    (fresh : reading.prompted = false) :
    (answerKeys saves limit).apply (reading.desk ended keys) =
      Reading.finished ended (reading.readAll saves keys) := by
  induction limit generalizing reading keys with
  | zero => omega
  | succ limit inductionHypothesis =>
      cases keys with
      | nil => rfl
      | cons pressed rest =>
          have shorter : rest.length < limit := Nat.lt_of_succ_lt_succ enough
          cases pressed with
          | none =>
              rw [Reading.readAll_none fresh, ← inductionHypothesis shorter fresh]
              rfl
          | some key =>
              have given : (answerKeys saves (limit + 1)).apply
                  (reading.desk ended (some key :: rest)) =
                (respond saves key >>= fun
                  | some exit => pure (some exit)
                  | none => answerKeys saves limit).apply (reading.desk ended rest) := rfl
              rw [given, Act.apply_bind, respond_eq fresh, Reading.readAll_key fresh]
              rcases reading.obey saves (meaning key) with ⟨_ | ending, after⟩
              · cases prompted : after.prompted with
                | false =>
                    simp only [Reading.settled, prompted, Bool.false_eq_true, if_false]
                    exact inductionHypothesis shorter prompted
                | true =>
                    cases rest with
                    | nil =>
                        simp only [Reading.settled, prompted, if_true]
                        rfl
                    | cons taken rest =>
                        have left : rest.length < limit := Nat.lt_of_succ_lt shorter
                        dsimp only
                        rw [Reading.readAll_prompted prompted]
                        by_cases quits : taken = some (.character 'q')
                        · simp only [Reading.settled, prompted, quits, if_true]
                          rfl
                        · simp only [Reading.settled, prompted, quits, if_true, if_false]
                          exact @inductionHypothesis { after with prompted := false } rest left rfl
              · cases ending <;> rfl

end Karel.Session
