import SourceAtlas.Disk.Walk
import SourceAtlas.Ignore.Spec

/-!
Scans: the files of a directory tree that are not ignored. Directories are entered unless they are
ignored; links to files count as files and links to directories are left out. Within a directory the files
come first, by name, and then the directories, by name.
-/

namespace SourceAtlas

/-- A file that a scan has found. -/
structure FoundFile where
  path : Path
  size : Nat
deriving DecidableEq, Repr

/-- What a scan has found: files in order, the number of entries that are ignored, and links that could
not be followed. -/
structure Listing where
  files : List FoundFile := []
  ignored : Nat := 0
  failures : List Disk.Failure := []
deriving DecidableEq, Repr

namespace Listing

/-- One listing after another. -/
def append (a b : Listing) : Listing := ⟨a.files ++ b.files, a.ignored + b.ignored, a.failures ++ b.failures⟩

/-- Listings one after another. -/
def concat : List Listing → Listing
  | [] => {}
  | a :: rest => a.append (concat rest)

/-- The bytes of all files found. -/
def totalBytes (l : Listing) : Nat := l.files.foldl (fun total f => total + f.size) 0

end Listing

namespace Scan

/-! ## Order -/

/-- What an entry of a directory comes to: what it is itself, and what lies in it. -/
structure Found where
  name : Text
  itself : Listing := {}
  inside : Listing := {}

/-- Puts an entry in its place among entries in the order of their names. -/
def insertByName (f : Found) : List Found → List Found
  | [] => [f]
  | g :: rest => if f.name < g.name then f :: g :: rest else g :: insertByName f rest

/-- Entries in the order of their names. -/
def sortByName : List Found → List Found
  | [] => []
  | f :: rest => insertByName f (sortByName rest)

/-- The listing of a directory: all entries themselves, then what lies in them. -/
def assemble (found : List Found) : Listing :=
  let sorted := sortByName found
  (Listing.concat (sorted.map Found.itself)).append (Listing.concat (sorted.map Found.inside))

/-! ## Entries -/

/-- A file, unless it is ignored. -/
def file (spec : Ignore.Spec) (path : Path) (relative : Text) (size : Nat) : Listing :=
  if spec.ignores relative then { ignored := 1 } else { files := [⟨path, size⟩] }

/-- A link: as the file it leads to, if it does. A link that leads nowhere is passed over, any other fault
is reported. -/
def link (disk : Disk) (spec : Ignore.Spec) (path : Path) (relative : Text) : Listing :=
  match Disk.look disk path with
  | .ok (.directory _) => {}
  | .ok .special => {}
  | .ok node => file spec path relative node.size
  | .error .notFound => {}
  | .error fault => { failures := [⟨fault, path⟩] }

mutual

/-- An entry of a directory, by its path and its path as seen from the root of the scan. -/
def entry (disk : Disk) (spec : Ignore.Spec) (path : Path) (relative : Text) (name : Text) : Node → Found
  | .directory entries =>
    if spec.ignores (relative ++ "/") then { name, itself := { ignored := 1 } }
    else { name, inside := assemble (allEntries disk spec path (relative ++ "/") entries) }
  | .file content => { name, itself := file spec path relative (Node.file content).size }
  | .database table => { name, itself := file spec path relative (Node.database table).size }
  | .link _ => { name, itself := link disk spec path relative }
  | .special => { name }

/-- The entries of a directory. `lead` is what their paths start with as seen from the root of the scan. -/
def allEntries (disk : Disk) (spec : Ignore.Spec) (directory : Path) (lead : Text) :
    List (Text × Node) → List Found
  | [] => []
  | (name, node) :: rest =>
    entry disk spec (directory.child name) (lead ++ name) name node
      :: allEntries disk spec directory lead rest

end

/-- The listing of a directory. -/
def directory (disk : Disk) (spec : Ignore.Spec) (root : Path) : Node → Listing
  | .directory entries => assemble (allEntries disk spec root [] entries)
  | _ => {}

/-! ## Scans -/

/-- What is left out of scans: the patterns that hold everywhere, and whether the list of patterns in the
scanned directory counts. -/
structure Exclusions where
  patterns : List Text
  useGitignore : Bool

/-- Patterns that hold unless others are given. -/
def standardPatterns : List Text := [".git/", "node_modules/", "dist/"]

/-- The usual exclusions. -/
def Exclusions.standard : Exclusions := ⟨standardPatterns, true⟩

/-- Why a directory cannot be scanned. -/
inductive Fault where
  | unresolved (fault : Disk.Unresolved)
  | missing (root : Path)
  | pattern (fault : Ignore.SpecFault)

/-- The list of patterns in a directory, if it has one. -/
def gitignore? (disk : Disk) (root : Path) : Option Bytes :=
  match Disk.look disk (root.child ".gitignore") with
  | .ok (.file content) => some content
  | _ => none

/-- The rules that hold in a directory. -/
def rules (disk : Disk) (exclusions : Exclusions) (root : Path) : Except Ignore.SpecFault Ignore.Spec :=
  Ignore.Spec.ofFile (if exclusions.useGitignore then gitignore? disk root else none) exclusions.patterns

/-- The listing of the directory that a path leads to. Nothing is found where no directory is. -/
def listing (disk : Disk) (exclusions : Exclusions) (root : Path) : Except Fault Listing :=
  match rules disk exclusions root with
  | .error fault => .error (.pattern fault)
  | .ok spec => .ok (directory disk spec root ((Disk.look disk root).toOption.getD .special))

/-- The real path of a directory that is to be scanned. -/
def realRoot (disk : Disk) (root : Path) : Except Fault Path := (Disk.resolve disk root).mapError .unresolved

/-- Scans a directory; one that is missing has no files. -/
def scanQuietly (disk : Disk) (exclusions : Exclusions) (root : Path) : Except Fault Listing := do
  listing disk exclusions (← realRoot disk root)

/-- Scans a directory, which must be there. Its path is made real twice: to ask for the directory, and for the files
in it. -/
def scan (disk : Disk) (exclusions : Exclusions) (root : Path) : Except Fault Listing := do
  let root ← realRoot disk root
  if Disk.isDirectory disk root then scanQuietly disk exclusions root
  else .error (.missing root)

/-- The wording of a directory that is missing. -/
def missingMessage (root : Path) : Text := "Directory \"" ++ root.toText ++ "\" does not exist."

/-- The wording of a fault. -/
def Fault.message : Fault → Text
  | .unresolved fault => fault.message
  | .missing root => missingMessage root
  | .pattern fault => fault.message

end Scan

end SourceAtlas
