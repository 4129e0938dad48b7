import Karel.Session.Basic

/-!
# Saving

The world is saved as a table. A failure is shown to the user like a refused command, and leaves
world and file as they are.
-/

namespace Karel.Session

open Console

variable {σ : Type} [Screen σ]

/-- Replaces the text of a file in the storage of the session. -/
def writeFile (path text : String) : Act (Session σ) SaveFault Unit :=
  .change fun session =>
    match session.records.storage.write path text with
    | .ok storage => .ok { session with records := { session.records with storage := storage } }
    | .error fault => .error (.storage path fault)

/-- Writes the world to a file, or to the one named in the settings, and gives its path. -/
def writeWorld (path : Option String) : Act (Session σ) SaveFault String := do
  let session ← Act.ask id
  match path <|> session.settings.output with
  | none => throw .noOutput
  | some path =>
    match MapText.writeTable session.window.world with
    | .error fault => throw (.notWritable fault)
    | .ok text =>
      writeFile path text
      pure path

/-- Saves the world and tells the user. -/
def save (path : Option String) : Command σ String := do
  match ← (writeWorld path).attempt with
  | .ok path =>
    note (.savedMap path)
    display (showMessage s!"Saved to {path}" .status)
    pure path
  | .error fault =>
    note (.saveFailed fault)
    showError fault.message
    throw (.save fault)

end Karel.Session
