import Karel.Log.Filter
import Karel.Log.Line
import Karel.Storage

/-!
# Records

What a call keeps apart from the world and the screen: its files, and the events it told the log. If
there is a log file, an event that passes its filter is written to the end of it as soon as it is
told, so whoever reads the file next finds it there.
-/

namespace Karel

/-- A log file that was opened, the filter for what is written to it, and the time stamp that stands
before each line. -/
structure LogFile where
  location : Location
  filter : Log.Filter
  stamp : String

/-- The files of a call and what it told the log. -/
structure Records where
  storage : Storage
  /-- What was told to the log, the last event first. -/
  journal : List Log.Event
  logFile : Option LogFile

namespace Records

/-- Files to work on, without a log file. -/
def ofStorage (storage : Storage) : Records := ⟨storage, [], none⟩

/-- Files to work on, with a log file, which is made if it is not there. -/
def openLog (storage : Storage) (path : String) (filter : Log.Filter) (stamp : String) :
    Except StorageFault Records := do
  let location ← storage.target path
  return ⟨storage.extend location "", [], some ⟨location, filter, stamp⟩⟩

/-- What an event adds to a log file. -/
def logged (logFile : LogFile) (event : Log.Event) : String :=
  if logFile.filter.passes event then s!"{logFile.stamp} {Log.line event}\n" else ""

/-- Tells the log. -/
def note (event : Log.Event) (records : Records) : Records where
  storage := match records.logFile with
    | none => records.storage
    | some logFile => records.storage.extend logFile.location (logged logFile event)
  journal := event :: records.journal
  logFile := records.logFile

end Records

end Karel
