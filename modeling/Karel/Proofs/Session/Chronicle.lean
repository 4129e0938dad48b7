import Karel.Proofs.Language.Invariant
import Karel.Proofs.Session.Strokes

/-!
# What a session does, deed by deed

A chronicle of an act lists in order what it does: what it draws, which keys it reads, what it tells
its log and which window it leaves after it has worked on the world. A chronicle comes to the result
of the act (`Chronicle.apply_eq`), its deeds tell all that becomes of the session but its screen
(`Chronicle.exists_final_eq`), and a screen that writes down the keys has those of the deeds
(`Chronicle.answers_eq`). `Act.Tells` is the logic of chronicles.
-/

namespace Karel

open Console

variable {σ ε δ α β : Type}

namespace Session

/-- Something that a session does. Of a drawing and of the wait for a key it is known how they came
out. -/
inductive Deed
  | drew (strokes : List Stroke) (outcome : Except DisplayFault Unit)
  | read (limit : Option Nat) (outcome : Except DisplayFault (Option Key))
  | noted (event : Log.Event)
  /-- Work on the window left it like this. -/
  | became (window : Window)

/-- From a session, the act does these deeds and comes to this result and this session. Questions are
no deeds, but they do not look at the screen. -/
inductive Chronicle [Screen σ] : {ε α : Type} → Act (Session σ) ε α → Session σ → List Deed →
    Except ε α → Session σ → Prop
  | pure {ε α : Type} {session : Session σ} (value : α) :
      Chronicle (Pure.pure value : Act (Session σ) ε α) session [] (.ok value) session
  | throw {ε α : Type} {session : Session σ} (cause : ε) :
      Chronicle (MonadExcept.throw cause : Act (Session σ) ε α) session [] (.error cause) session
  | ask {ε α : Type} {session : Session σ} {question : Session σ → α}
      (steady : ∀ screen, question { session with screen := screen } = question session) :
      Chronicle (Act.ask question : Act (Session σ) ε α) session [] (.ok (question session)) session
  | note {ε : Type} {session : Session σ} (event : Log.Event) :
      Chronicle (note event : Act (Session σ) ε Unit) session [.noted event] (.ok ())
        { session with records := session.records.note event }
  | window {α : Type} {session : Session σ} {act : Act Window Refusal α}
      {result : Except Refusal α} {next : Window}
      (applied : act.apply session.window = (result, next)) :
      Chronicle (onWindow act) session [.became next] result { session with window := next }
  | draw {session final : Session σ} {drawing : Drawing σ Unit} {strokes : List Stroke}
      {outcome : Except DisplayFault Unit} (draws : Draws session drawing strokes)
      (applied : drawing.apply session = (outcome, final)) :
      Chronicle drawing session [.drew strokes outcome] outcome final
  | key {session final : Session σ} {limit : Option Nat}
      {outcome : Except DisplayFault (Option Key)}
      (applied : (onScreen (Screen.nextKey limit)).apply session = (outcome, final)) :
      Chronicle (onScreen (Screen.nextKey limit)) session [.read limit outcome] outcome final
  | andThen {ε α β : Type} {act : Act (Session σ) ε α} {next : α → Act (Session σ) ε β}
      {session middle final : Session σ} {deeds others : List Deed} {value : α}
      {result : Except ε β} (first : Chronicle act session deeds (.ok value) middle)
      (second : Chronicle (next value) middle others result final) :
      Chronicle (act >>= next) session (deeds ++ others) result final
  | stopped {ε α β : Type} {act : Act (Session σ) ε α} {next : α → Act (Session σ) ε β}
      {session final : Session σ} {deeds : List Deed} {cause : ε}
      (first : Chronicle act session deeds (.error cause) final) :
      Chronicle (act >>= next) session deeds (.error cause) final
  | mapError {ε δ α : Type} {act : Act (Session σ) ε α} {session final : Session σ}
      {deeds : List Deed} {result : Except ε α} (wrap : ε → δ)
      (inner : Chronicle act session deeds result final) :
      Chronicle (act.mapError wrap) session deeds (result.mapError wrap) final
  | attempt {ε δ α : Type} {act : Act (Session σ) ε α} {session final : Session σ}
      {deeds : List Deed} {result : Except ε α} (inner : Chronicle act session deeds result final) :
      Chronicle (act.attempt : Act (Session σ) δ (Except ε α)) session deeds (.ok result) final

/-- What a deed makes of a session, apart from its screen. -/
def leave (session : Session σ) : Deed → Session σ
  | .noted event => { session with records := session.records.note event }
  | .became window => { session with window := window }
  | .drew .. | .read .. => session

/-- What deeds make of a session, apart from its screen. -/
def leaveAll (session : Session σ) (deeds : List Deed) : Session σ := deeds.foldl leave session

theorem leaveAll_screen (session : Session σ) (screen : σ) (deeds : List Deed) :
    leaveAll { session with screen := screen } deeds =
      { leaveAll session deeds with screen := screen } := by
  induction deeds generalizing session with
  | nil => rfl
  | cons deed rest inductionHypothesis =>
      have first : leave { session with screen := screen } deed =
          { leave session deed with screen := screen } := by
        cases deed <;> rfl
      rw [leaveAll, List.foldl_cons, first]
      exact inductionHypothesis (leave session deed)

/-- Work on the screen leaves everything else alone. -/
theorem exists_screen_eq {act : Act σ DisplayFault α} {session final : Session σ}
    {outcome : Except DisplayFault α} (applied : (onScreen act).apply session = (outcome, final)) :
    ∃ screen, act.apply session.screen = (outcome, screen) ∧
      final = { session with screen := screen } := by
  rw [onScreen, Act.apply_onPart] at applied
  rcases inner : act.apply session.screen with ⟨cause | value, next⟩ <;> rw [inner] at applied <;>
    cases applied <;> exact ⟨next, rfl, rfl⟩

namespace Chronicle

variable [Screen σ] {act : Act (Session σ) ε α} {session final : Session σ} {deeds : List Deed}
  {result : Except ε α}

/-- The act that a chronicle is of comes to what the chronicle says. -/
theorem apply_eq (chronicle : Chronicle act session deeds result final) :
    act.apply session = (result, final) := by
  induction chronicle with
  | pure | throw | ask | note => rfl
  | window applied =>
      rw [onWindow, Act.apply_onPart, applied]
      rename_i result _
      cases result <;> rfl
  | draw _ applied => exact applied
  | key applied => exact applied
  | andThen _ _ first second =>
      rw [Act.apply_bind, first]
      exact second
  | stopped _ first => rw [Act.apply_bind, first]
  | mapError wrap _ inner =>
      rw [Act.apply_mapError, inner]
      rename_i result _
      cases result <;> rfl
  | attempt _ inner => rw [Act.apply_attempt, inner]

/-- All that becomes of the session, apart from its screen, is told by the deeds. -/
theorem exists_final_eq (chronicle : Chronicle act session deeds result final) :
    ∃ screen, final = { leaveAll session deeds with screen := screen } := by
  induction chronicle with
  | pure | throw | ask | note | window => exact ⟨_, rfl⟩
  | @draw session _ _ strokes _ draws applied =>
      obtain ⟨screen, -, rfl⟩ := exists_screen_eq ((draws session.screen).symm.trans applied)
      exact ⟨screen, rfl⟩
  | key applied =>
      obtain ⟨screen, -, rfl⟩ := exists_screen_eq applied
      exact ⟨screen, rfl⟩
  | andThen _ _ first second =>
      obtain ⟨screen, rfl⟩ := first
      obtain ⟨last, rfl⟩ := second
      refine ⟨last, ?_⟩
      rw [leaveAll_screen, leaveAll, leaveAll, leaveAll, List.foldl_append]
  | stopped _ inner | mapError _ _ inner | attempt _ inner => exact inner

end Chronicle

/-! ## Screens that write down the keys -/

/-- A screen with the answers that it gave when it was asked for a key. -/
structure Recorder (σ : Type) where
  screen : σ
  answers : List (Except DisplayFault (Option Key))

namespace Recorder

/-- Works on the screen inside, of which nothing is written down. -/
def inside (act : Act σ DisplayFault α) : Act (Recorder σ) DisplayFault α :=
  act.onPart Recorder.screen (fun recorder screen => { recorder with screen := screen }) id

instance [Screen σ] : Screen (Recorder σ) where
  size := inside Screen.size
  clear := inside Screen.clear
  draw column row glyph := inside (Screen.draw column row glyph)
  message row text style := inside (Screen.message row text style)
  present := inside Screen.present
  alert := inside Screen.alert
  nextKey limit := .ofFunction fun recorder =>
    let (answer, screen) := (Screen.nextKey limit).apply recorder.screen
    (answer, ⟨screen, recorder.answers ++ [answer]⟩)

theorem inside_preserves {answers : List (Except DisplayFault (Option Key))}
    (act : Act σ DisplayFault α) : (inside act).Preserves
      (fun recorder => recorder.answers = answers) fun _ recorder => recorder.answers = answers := by
  refine .of_after fun recorder same => ?_
  rw [inside, Act.apply_onPart]
  rcases act.apply recorder.screen with ⟨cause | value, next⟩ <;> exact same

theorem paint_preserves [Screen σ] {answers : List (Except DisplayFault (Option Key))}
    (strokes : List Stroke) : (paint strokes : Act (Recorder σ) DisplayFault Unit).Preserves
      (fun recorder => recorder.answers = answers) fun _ recorder => recorder.answers = answers := by
  induction strokes with
  | nil => exact .pure ()
  | cons stroke rest inductionHypothesis =>
      refine .bind ?_ fun _ => inductionHypothesis
      cases stroke <;> exact inside_preserves _

end Recorder

/-- The answer that a deed got when it asked for a key. -/
def Deed.answer? : Deed → Option (Except DisplayFault (Option Key))
  | read _ outcome => some outcome
  | drew .. | noted _ | became _ => none

/-- A screen that writes down the keys has written down those of the deeds. -/
theorem Chronicle.answers_eq [Screen σ] {act : Act (Session (Recorder σ)) ε α}
    {session final : Session (Recorder σ)} {deeds : List Deed} {result : Except ε α}
    (chronicle : Chronicle act session deeds result final) :
    final.screen.answers = session.screen.answers ++ deeds.filterMap Deed.answer? := by
  induction chronicle with
  | pure | throw | ask | note | window => exact (List.append_nil _).symm
  | @draw session _ _ strokes _ draws applied =>
      obtain ⟨screen, painted, rfl⟩ :=
        exists_screen_eq ((draws session.screen).symm.trans applied)
      have kept : ((paint strokes).apply session.screen).2.answers = session.screen.answers :=
        (Recorder.paint_preserves strokes).after rfl
      rw [painted] at kept
      exact kept.trans (List.append_nil _).symm
  | key applied =>
      obtain ⟨screen, read, rfl⟩ := exists_screen_eq applied
      cases read
      rfl
  | andThen _ _ first second =>
      rw [second, first, List.filterMap_append, List.append_assoc]
  | stopped _ inner | mapError _ _ inner | attempt _ inner => exact inner

end Session

/-! ## The logic of chronicles -/

open Session

/-- From a session, and with these deeds done before, the act has a chronicle that ends as stated. The
conditions are on the value or the failure and on all deeds together. -/
def Act.Tells [Screen σ] (act : Act (Session σ) ε α) (session : Session σ) (past : List Deed)
    (returns : α → List Deed → Prop) (fails : ε → List Deed → Prop) : Prop :=
  ∃ deeds result final, Chronicle act session deeds result final ∧
    match result with
    | .ok value => returns value (past ++ deeds)
    | .error cause => fails cause (past ++ deeds)

namespace Act.Tells

variable [Screen σ] {act : Act (Session σ) ε α} {session : Session σ} {past : List Deed}
  {returns : α → List Deed → Prop} {fails : ε → List Deed → Prop}

/-- Less can be told. -/
theorem mono {weaker : α → List Deed → Prop} {failing : ε → List Deed → Prop}
    (told : act.Tells session past returns fails)
    (value : ∀ result log, returns result log → weaker result log)
    (failure : ∀ cause log, fails cause log → failing cause log) :
    act.Tells session past weaker failing := by
  obtain ⟨deeds, result, final, chronicle, ends⟩ := told
  refine ⟨deeds, result, final, chronicle, ?_⟩
  cases result with
  | ok result => exact value _ _ ends
  | error cause => exact failure _ _ ends

theorem pure {value : α} (holds : returns value past) :
    (Pure.pure value : Act (Session σ) ε α).Tells session past returns fails :=
  ⟨[], .ok value, session, .pure value, (List.append_nil past).symm ▸ holds⟩

theorem throw {cause : ε} (holds : fails cause past) :
    (MonadExcept.throw cause : Act (Session σ) ε α).Tells session past returns fails :=
  ⟨[], .error cause, session, .throw cause, (List.append_nil past).symm ▸ holds⟩

theorem note {event : Log.Event} {returns : Unit → List Deed → Prop}
    (holds : returns () (past ++ [.noted event])) :
    (Session.note event : Act (Session σ) ε Unit).Tells session past returns fails :=
  ⟨_, _, _, .note event, holds⟩

theorem window {act : Act Window Refusal α} {fails : Refusal → List Deed → Prop}
    (ok : ∀ value next, act.apply session.window = (.ok value, next) →
      returns value (past ++ [.became next]))
    (error : ∀ refusal next, act.apply session.window = (.error refusal, next) →
      fails refusal (past ++ [.became next])) :
    (onWindow act).Tells session past returns fails := by
  rcases applied : act.apply session.window with ⟨refusal | value, next⟩
  · exact ⟨_, _, _, .window applied, error refusal next applied⟩
  · exact ⟨_, _, _, .window applied, ok value next applied⟩

theorem draw {drawing : Drawing σ Unit} {strokes : List Stroke} {returns : Unit → List Deed → Prop}
    {fails : DisplayFault → List Deed → Prop} (draws : Draws session drawing strokes)
    (ok : returns () (past ++ [.drew strokes (.ok ())]))
    (error : ∀ fault, fails fault (past ++ [.drew strokes (.error fault)])) :
    drawing.Tells session past returns fails := by
  rcases applied : drawing.apply session with ⟨fault | value, final⟩
  · exact ⟨_, _, _, .draw draws applied, error fault⟩
  · exact ⟨_, _, _, .draw draws applied, ok⟩

theorem key {limit : Option Nat} {returns : Option Key → List Deed → Prop}
    {fails : DisplayFault → List Deed → Prop}
    (ok : ∀ pressed, returns pressed (past ++ [.read limit (.ok pressed)]))
    (error : ∀ fault, fails fault (past ++ [.read limit (.error fault)])) :
    (onScreen (Screen.nextKey limit)).Tells session past returns fails := by
  rcases applied : (onScreen (Screen.nextKey limit)).apply session with ⟨fault | pressed, final⟩
  · exact ⟨_, _, _, .key applied, error fault⟩
  · exact ⟨_, _, _, .key applied, ok pressed⟩

/-- A sequence tells what its second act tells after all that the first one can tell. -/
theorem bind {middle : α → List Deed → Prop} {next : α → Act (Session σ) ε β}
    {returns : β → List Deed → Prop} (first : act.Tells session past middle fails)
    (second : ∀ value session log, middle value log →
      (next value).Tells session log returns fails) :
    (act >>= next).Tells session past returns fails := by
  obtain ⟨deeds, result, session, chronicle, ends⟩ := first
  cases result with
  | error cause => exact ⟨deeds, _, session, .stopped chronicle, ends⟩
  | ok value =>
      obtain ⟨others, result, final, following, ends⟩ := second value session _ ends
      rw [List.append_assoc] at ends
      exact ⟨deeds ++ others, result, final, .andThen chronicle following, ends⟩

/-- What follows a question gets the answer in the same session. -/
theorem ask_bind {question : Session σ → α} {next : α → Act (Session σ) ε β}
    {returns : β → List Deed → Prop}
    (steady : ∀ screen, question { session with screen := screen } = question session)
    (second : (next (question session)).Tells session past returns fails) :
    (Act.ask question >>= next).Tells session past returns fails := by
  obtain ⟨deeds, result, final, following, ends⟩ := second
  exact ⟨deeds, result, final, .andThen (.ask steady) following, ends⟩

theorem mapError {wrap : ε → δ} {failing : δ → List Deed → Prop}
    (inner : act.Tells session past returns fun cause log => failing (wrap cause) log) :
    (act.mapError wrap).Tells session past returns failing := by
  obtain ⟨deeds, result, final, chronicle, ends⟩ := inner
  refine ⟨deeds, _, final, .mapError wrap chronicle, ?_⟩
  cases result with
  | ok value => exact ends
  | error cause => exact ends

/-- What goes on with the result of an act goes on after a failure too. -/
theorem attempt_bind {middle : α → List Deed → Prop} {stops : ε → List Deed → Prop}
    {next : Except ε α → Act (Session σ) δ β} {returns : β → List Deed → Prop}
    {fails : δ → List Deed → Prop} (first : act.Tells session past middle stops)
    (ok : ∀ value session log, middle value log →
      (next (.ok value)).Tells session log returns fails)
    (error : ∀ cause session log, stops cause log →
      (next (.error cause)).Tells session log returns fails) :
    (act.attempt >>= next).Tells session past returns fails := by
  have tried : (act.attempt : Act (Session σ) δ (Except ε α)).Tells session past
      (fun result log => match result with
        | .ok value => middle value log
        | .error cause => stops cause log) fails := by
    obtain ⟨deeds, result, session, chronicle, ends⟩ := first
    exact ⟨deeds, _, session, .attempt chronicle, ends⟩
  refine bind tried fun result session log holds => ?_
  cases result with
  | ok value => exact ok value session log holds
  | error cause => exact error cause session log holds

end Act.Tells

/-- From every session, and whatever was done before with the condition on it, the act tells that the
condition holds again, or fails as stated. -/
def Act.Reports [Screen σ] (condition : List Deed → Prop) (fails : ε → List Deed → Prop)
    (act : Act (Session σ) ε α) : Prop :=
  ∀ session past, condition past → act.Tells session past (fun _ log => condition log) fails

/-- Acts are judged by what they report. -/
def Act.reporting [Screen σ] (condition : List Deed → Prop) :
    Act.Judgement (Session σ) (List Deed) where
  holds fails act := act.Reports condition fails
  idle := condition
  pure _ := fun _ _ holds => .pure holds
  throw failed := fun _ past holds => .throw (failed past holds)
  bind first second := fun session past holds =>
    .bind (first session past holds) fun value session log holds => second value session log holds
  mapError inner wrapped := fun session past holds =>
    .mapError ((inner session past holds).mono (fun _ _ => id) wrapped)

end Karel
