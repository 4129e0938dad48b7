import Karel.Proofs.Session.Strokes

/-!
# Transcripts

A transcriber is a screen around another one. It does what the screen inside does, and writes down
each operation with its outcome: sizes, strokes and keys, in the order in which they were asked for.
Since the screen inside can be any, what holds of all transcripts holds of all that screens are asked.
-/

namespace Karel.Console

variable {σ α : Type}

/-- An operation of a screen and how it came out. -/
inductive Entry
  | size (outcome : Except DisplayFault ScreenSize)
  | stroke (stroke : Stroke) (outcome : Except DisplayFault Unit)
  | key (limit : Option Nat) (outcome : Except DisplayFault (Option Key))

namespace Entry

/-- The fault of an operation that failed. -/
def fault? : Entry → Option DisplayFault
  | size (.error fault) | stroke _ (.error fault) | key _ (.error fault) => some fault
  | size (.ok _) | stroke _ (.ok _) | key _ (.ok _) => none

/-- Whether the screen was asked for its size. -/
def isSize : Entry → Bool
  | size _ => true
  | stroke .. | key .. => false

/-- Whether a key was waited for with a limit. -/
def isTimed : Entry → Bool
  | key limit _ => limit.isSome
  | size _ | stroke .. => false

/-- Whether a key was waited for without a limit. -/
def isUntimed : Entry → Bool
  | key limit _ => limit.isNone
  | size _ | stroke .. => false

/-- Whether the key `p` was pressed during a wait with a limit. -/
def isPause : Entry → Bool
  | key (some _) (.ok pressed) => pressed = some (.character 'p')
  | key .. | size _ | stroke .. => false

/-- Whether the key `q` was pressed. -/
def isQuit : Entry → Bool
  | key _ (.ok pressed) => pressed = some (.character 'q')
  | key _ (.error _) | size _ | stroke .. => false

/-- There are no more pauses than waits with a limit. -/
theorem countP_isPause_le (entries : List Entry) :
    entries.countP isPause ≤ entries.countP isTimed := by
  refine List.countP_mono_left fun entry _ pause => ?_
  unfold isPause at pause
  split at pause
  next => rfl
  all_goals cases pause

end Entry

/-- A screen with a transcript of its operations. -/
structure Transcriber (σ : Type) where
  screen : σ
  transcript : List Entry

/-- Does something on the screen inside and writes it down. -/
def transcribe (entry : Except DisplayFault α → Entry) (act : Act σ DisplayFault α) :
    Act (Transcriber σ) DisplayFault α := .ofFunction fun transcriber =>
  let (outcome, screen) := act.apply transcriber.screen
  (outcome, ⟨screen, transcriber.transcript ++ [entry outcome]⟩)

instance [Screen σ] : Screen (Transcriber σ) where
  size := transcribe .size Screen.size
  clear := transcribe (.stroke .clear) Screen.clear
  draw column row glyph := transcribe (.stroke (.draw column row glyph)) (Screen.draw column row glyph)
  message row text style :=
    transcribe (.stroke (.message row text style)) (Screen.message row text style)
  present := transcribe (.stroke .present) Screen.present
  nextKey limit := transcribe (.key limit) (Screen.nextKey limit)
  alert := transcribe (.stroke .alert) Screen.alert

/-- What is written down of an operation is its outcome. -/
theorem transcribe_ensures {entry : Except DisplayFault α → Entry} {act : Act σ DisplayFault α}
    {transcriber : Transcriber σ} {returns : α → Transcriber σ → Prop}
    {fails : DisplayFault → Transcriber σ → Prop}
    (ok : ∀ value screen, returns value ⟨screen, transcriber.transcript ++ [entry (.ok value)]⟩)
    (error : ∀ fault screen, fails fault ⟨screen, transcriber.transcript ++ [entry (.error fault)]⟩) :
    (transcribe entry act).Ensures transcriber returns fails := by
  unfold Act.Ensures
  rw [transcribe, Act.apply_ofFunction]
  rcases act.apply transcriber.screen with ⟨fault | value, screen⟩
  · exact error fault screen
  · exact ok value screen

theorem act_eq_transcribe [Screen σ] (stroke : Stroke) :
    (stroke.act : Act (Transcriber σ) DisplayFault Unit) =
      transcribe (.stroke stroke) stroke.act := by
  cases stroke <;> rfl

end Karel.Console
