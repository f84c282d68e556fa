import SourceAtlas.Disk.Change

/-!
Cache databases on a disk. Opening one makes the directories above it and, if nothing is there yet or an
empty file, the table itself. A connection is the real place of an open database.
-/

namespace SourceAtlas.Database

/-- Why a database cannot be opened: its path can be that of no file, the directory for it cannot be made,
what its path leads to cannot be opened, or it is a file of another kind. -/
inductive Cause where
  | unnamable (fault : Disk.Unresolved)
  | directory (failure : Disk.Failure)
  | notOpenable
  | notADatabase
deriving DecidableEq, Repr

/-- A database that cannot be opened. -/
structure OpenFault where
  path : Path
  cause : Cause
deriving DecidableEq, Repr

/-- The wording of a cause. -/
def Cause.message : Cause → Text
  | .unnamable fault => fault.message
  | .directory failure => failure.message
  | .notOpenable => "unable to open database file"
  | .notADatabase => "file is not a database"

/-- The wording of a database that cannot be opened. Of a path that can be that of no file, nothing else is said. -/
def OpenFault.message (f : OpenFault) : Text :=
  match f.cause with
  | .unnamable fault => fault.message
  | cause => "Cannot open cache at " ++ f.path.toText ++ ": " ++ cause.message

/-- The real names of an open database. -/
abbrev Connection := List Text

/-- Opens what a path leads to, in a directory that is there. -/
def openAt (disk : Disk) (path : Path) : Except Cause (Disk × Connection) :=
  match Disk.walk disk true path with
  | .error _ => .error .notOpenable
  | .ok ⟨names, node⟩ =>
    match node with
    | none => .ok (disk.put names (.database .empty), names)
    | some (.file []) => .ok (disk.put names (.database .empty), names)
    | some (.file _) => .error .notADatabase
    | some (.database _) => .ok (disk, names)
    | some _ => .error .notOpenable

/-- Opens a database. The directories that were made stay even if it cannot be opened. -/
def connect (disk : Disk) (path : Path) : Disk × Except OpenFault Connection :=
  match Disk.refusal? path.parent with
  | some fault => (disk, .error ⟨path, .unnamable fault⟩)
  | none => match Disk.ensureDirectories disk path.parent with
    | (changed, some failure) => (changed, .error ⟨path, .directory failure⟩)
    | (changed, none) => match Disk.refusal? path with
      | some fault => (changed, .error ⟨path, .unnamable fault⟩)
      | none => match openAt changed path with
        | .ok (opened, connection) => (opened, .ok connection)
        | .error cause => (changed, .error ⟨path, cause⟩)

/-- The table of an open database. -/
def table (disk : Disk) (connection : Connection) : Store :=
  match disk.find? connection with
  | some (.database t) => t
  | _ => .empty

/-- Sets the table of an open database. -/
def setTable (disk : Disk) (connection : Connection) (t : Store) : Disk := disk.put connection (.database t)

/-! ## Databases in use -/

/-- What the files of databases hold by their places, as they are read in a run: the databases themselves, and beside
an open one the log of its changes and the index of that. -/
abbrev Storage := List Text → Bytes

mutual

/-- A disk with files in place of its databases. `place` is where it stands itself. -/
def laidOut (storage : Storage) (place : List Text) : Node → Node
  | .directory entries => .directory (entriesLaidOut storage place entries)
  | .database _ => .file (storage place)
  | .file content => .file content
  | .link target => .link target
  | .special => .special

/-- The entries of a directory at a place, with files in place of databases. -/
def entriesLaidOut (storage : Storage) (place : List Text) : List (Text × Node) → List (Text × Node)
  | [] => []
  | (name, node) :: rest => (name, laidOut storage (place ++ [name]) node) :: entriesLaidOut storage place rest

end

/-- The place beside another one whose name goes on with a suffix. -/
def beside (place : List Text) (suffix : Text) : List Text := place.dropLast ++ [place.getLast?.getD [] ++ suffix]

/-- The file at a place in a directory, in which nothing else but another file may stand there. -/
def lay (disk : Disk) (storage : Storage) (place : List Text) : Disk :=
  match disk.find? place.dropLast, disk.find? place with
  | some (.directory _), none => disk.put place (.file (storage place))
  | some (.directory _), some (.file _) => disk.put place (.file (storage place))
  | _, _ => disk

/-- The places of the files of an open database. -/
def files (connection : Connection) : List (List Text) :=
  [connection, beside connection "-wal", beside connection "-shm"]

/-- The disk as it is seen while a database on it is open: databases are files, and beside the open one there are its
log and the index of that. -/
def seen (disk : Disk) (connection : Connection) (storage : Storage) : Disk :=
  lay (lay (laidOut storage [] disk) storage (beside connection "-wal")) storage (beside connection "-shm")

end SourceAtlas.Database
