import Karel.Proofs.Acts
import Karel.Session.Saving

/-!
# When saving succeeds

A session can save its world if a file is named, the world has borders, and the path of the file
leads to where a file can be. `Session.canSave` says so, and it is a question of a few parts of the
session: whatever keeps the named file, the borders and the directories keeps the answer. What is
written to a file is not among them.
-/

namespace Karel

/-- A sequence gives a value if its first step does and the second one does from there. -/
theorem toOption_bind {ε α β : Type} (first : Except ε α) (next : α → Except ε β) :
    (first >>= next).toOption = first.toOption.bind fun value => (next value).toOption := by
  cases first <;> rfl

namespace Storage

variable {storage other : Storage}

theorem hasDirectory_eq (same : other.directories = storage.directories) (location : Location) :
    other.hasDirectory location = storage.hasDirectory location := by
  unfold hasDirectory
  rw [same]

theorem toOption_follow (same : other.directories = storage.directories) (location : Location)
    (part : String) :
    (other.follow location part).toOption = (storage.follow location part).toOption := by
  unfold follow
  rw [hasDirectory_eq same]
  split <;> rfl

theorem toOption_resolve (same : other.directories = storage.directories) (path : String) :
    (other.resolve path).toOption = (storage.resolve path).toOption := by
  have followed : ∀ (parts : List String) location, (parts.foldlM other.follow location).toOption =
      (parts.foldlM storage.follow location).toOption := by
    intro parts
    induction parts with
    | nil => exact fun _ => rfl
    | cons part rest inductionHypothesis =>
        intro location
        simp only [List.foldlM_cons, toOption_bind, toOption_follow same, inductionHypothesis]
  unfold resolve
  split
  · rfl
  split
  · rfl
  split
  · rfl
  exact followed _ _

/-- Where a path can be written is a question of the directories alone. -/
theorem toOption_target (same : other.directories = storage.directories) (path : String) :
    (other.target path).toOption = (storage.target path).toOption := by
  unfold target
  simp only [toOption_bind, toOption_resolve same, hasDirectory_eq same]

end Storage

namespace Session

open Console

variable {σ ε : Type}

/-- Whether the world could be saved now. -/
def canSave (session : Session σ) : Bool :=
  session.settings.output.any fun path =>
    session.window.world.grid.bounds.size?.isSome &&
      (session.records.storage.target path).toOption.isSome

/-- Whether a world can be saved is a question of the named file, the borders and the
directories. -/
theorem canSave_eq {next : Session σ} (session : Session σ)
    (output : next.settings.output = session.settings.output)
    (bounds : next.window.world.grid.bounds = session.window.world.grid.bounds)
    (directories : next.records.storage.directories = session.records.storage.directories) :
    next.canSave = session.canSave := by
  unfold canSave
  simp only [output, bounds, Storage.toOption_target directories]

/-- Telling the log makes no directories. -/
theorem directories_note (records : Records) (event : Log.Event) :
    (records.note event).storage.directories = records.storage.directories := by
  unfold Records.note
  cases records.logFile <;> rfl

/-- A file is written exactly if its path leads to where a file can be. A failure changes nothing,
and a success makes no directories. -/
theorem writeFile_ensures (session : Session σ) (path text : String) :
    Act.Ensures (writeFile path text) session
      (fun _ next => (session.records.storage.target path).toOption.isSome = true ∧
        ∃ storage : Storage, storage.directories = session.records.storage.directories ∧
          next = { session with records := { session.records with storage := storage } })
      fun _ next => (session.records.storage.target path).toOption.isSome = false ∧
        next = session := by
  unfold Act.Ensures writeFile Storage.write
  rw [Act.apply_change]
  cases session.records.storage.target path with
  | error fault => exact ⟨rfl, rfl⟩
  | ok location =>
      exact ⟨rfl, { session.records.storage with
        files := session.records.storage.files.insert location text }, rfl, rfl⟩

/-- The world is written to the named file exactly if it can be saved. -/
theorem writeWorld_ensures (session : Session σ) :
    Act.Ensures (writeWorld none) session
      (fun _ next => session.canSave = true ∧ ∃ storage : Storage,
        storage.directories = session.records.storage.directories ∧
          next = { session with records := { session.records with storage := storage } })
      fun _ next => session.canSave = false ∧ next = session := by
  refine .ask_bind ?_
  unfold canSave
  dsimp only [id_eq]
  rw [show (none <|> session.settings.output) = session.settings.output from rfl]
  cases session.settings.output with
  | none => exact ⟨rfl, rfl⟩
  | some path =>
      unfold MapText.writeTable
      cases session.window.world.grid.bounds.size? with
      | none => exact ⟨rfl, rfl⟩
      | some size => exact .bind (writeFile_ensures session path _) fun _ _ written => .pure written

end Session

end Karel
