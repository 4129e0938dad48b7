import Std.Data.ExtTreeMap

/-!
# Storage

The files a call can see, with the directories they lie in. A path is followed part by part, each
part from a directory, so `./a` and `b/../a` name the same file as `a`. The failures are those of a
Linux file system, in its words.
-/

namespace Karel

/-- Why a file can not be read or written. -/
inductive StorageFault
  | notFound
  | notDirectory
  | isDirectory
  | nameTooLong
  /-- The path has a character that no file name can have. -/
  | nulInName
deriving DecidableEq

/-- The wording of a fault. -/
def StorageFault.message : StorageFault → String
  | notFound => "No such file or directory (os error 2)"
  | notDirectory => "Not a directory (os error 20)"
  | isDirectory => "Is a directory (os error 21)"
  | nameTooLong => "File name too long (os error 36)"
  | nulInName => "file name contained an unexpected NUL byte"

/-- Where something is: the names that lead there from the working directory, the last one first.
Only the names that lead out of that directory can be special: `..` leads one up, and `/` stands for
the root. -/
abbrev Location : Type := List String

namespace Location

/-- The directory around a location. The root lies in itself. -/
def parent : Location → Location
  | [] => [".."]
  | ["/"] => ["/"]
  | ".." :: names => ".." :: ".." :: names
  | _ :: names => names

/-- Where one part of a path leads from a location. -/
def follow (location : Location) (part : String) : Location :=
  if part = "." then location else if part = ".." then location.parent else part :: location

/-- The locations on the way that the parts of a path lead, the first and the last included. -/
def route (location : Location) : List String → List Location
  | [] => [location]
  | part :: parts => location :: (location.follow part).route parts

/-- Whether every file system has a directory there: the working directory, those around it and the
root. -/
def isAround : Location → Bool
  | [] => true
  | name :: _ => name == ".." || name == "/"

/-- The shortest path to a location. -/
def path (location : Location) : String :=
  match location.reverse with
  | [] => "."
  | "/" :: names => "/" ++ "/".intercalate names
  | names => "/".intercalate names

end Location

/-- Text files, and the directories besides those around the working directory. -/
structure Storage where
  directories : List Location
  files : Std.ExtTreeMap Location String

namespace Storage

/-- The empty working directory. -/
def empty : Storage := ⟨[], ∅⟩

/-- A working directory with the listed files and nothing else. -/
def ofList (files : List (String × String)) : Storage :=
  ⟨[], files.foldl (fun stored file => stored.insert [file.1] file.2) ∅⟩

/-- Whether there is a directory at a location. -/
def hasDirectory (storage : Storage) (location : Location) : Bool :=
  location.isAround || storage.directories.contains location

/-- Where a path starts. -/
def start (path : String) : Location := if path.front = '/' then ["/"] else []

/-- The parts of a path. Slashes that follow each other count as one. -/
def parts (path : String) : List String :=
  ((path.toList.splitOn '/').filter fun part => !part.isEmpty).map String.ofList

/-- Follows one part of a path. -/
def follow (storage : Storage) (location : Location) (part : String) :
    Except StorageFault Location :=
  if storage.hasDirectory location then
    if part.utf8ByteSize > 255 then .error .nameTooLong else .ok (location.follow part)
  else
    .error (if storage.files.contains location then .notDirectory else .notFound)

/-- The location a path leads to, whether something is there or not. -/
def resolve (storage : Storage) (path : String) : Except StorageFault Location :=
  if path.toList.contains '\x00' then
    .error .nulInName
  else if path.isEmpty then
    .error .notFound
  else if path.utf8ByteSize > 4095 then
    .error .nameTooLong
  else
    (parts path).foldlM storage.follow (start path)

/-- Whether a path says by its end that it names a directory. -/
def namesDirectory (path : String) : Bool := path.back == '/'

/-- The text of a file. -/
def read (storage : Storage) (path : String) : Except StorageFault String := do
  let location ← storage.resolve path
  if storage.hasDirectory location then throw .isDirectory
  match storage.files[location]? with
  | none => throw .notFound
  | some text => if namesDirectory path then throw .notDirectory else return text

/-- The location at which a path can be written. -/
def target (storage : Storage) (path : String) : Except StorageFault Location := do
  let location ← storage.resolve path
  if storage.hasDirectory location || namesDirectory path then throw .isDirectory
  return location

/-- Writes a file, in place of an earlier one. -/
def write (storage : Storage) (path text : String) : Except StorageFault Storage := do
  let location ← storage.target path
  return { storage with files := storage.files.insert location text }

/-- Adds to the end of a file, which is made if it is not there. -/
def extend (storage : Storage) (location : Location) (text : String) : Storage :=
  { storage with
    files := storage.files.alter location fun earlier => some (earlier.getD "" ++ text) }

end Storage

end Karel
