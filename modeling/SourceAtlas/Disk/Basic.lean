import SourceAtlas.Path
import SourceAtlas.Store
import SourceAtlas.Text.Quoted

/-!
Disks: trees of directories, files, links and cache databases. Every place on a disk has real names, which
lead to it from the root without links.
-/

namespace SourceAtlas

/-- What stands on a disk under a name. A cache database is a file whose content is a table; the entries of
a directory have each name once. -/
inductive Node where
  | file (content : Bytes)
  | directory (entries : List (Text × Node))
  | link (target : Text)
  | database (table : Store)
  | special

/-- A disk, given by its root. -/
abbrev Disk := Node

namespace Node

instance : Inhabited Node := ⟨.special⟩

/-- The disk with nothing on it. -/
def blank : Disk := .directory []

/-- Is it a directory? -/
def isDirectory : Node → Bool
  | .directory _ => true
  | _ => false

/-- Is it a link? -/
def isLink : Node → Bool
  | .link _ => true
  | _ => false

/-- The number of bytes of a file. Tables are not counted in bytes. -/
def size : Node → Nat
  | .file content => content.length
  | _ => 0

/-! ## Places -/

/-- What stands at a place. -/
def find? : List Text → Node → Option Node
  | [], node => some node
  | name :: rest, .directory entries => (Association.find? name entries).bind (find? rest)
  | _ :: _, _ => none

/-- Puts something at a place, in the directories on the way to it. -/
def put : Node → List Text → Node → Node
  | _, [], new => new
  | .directory entries, name :: rest, new =>
    .directory (Association.set name (put ((Association.find? name entries).getD blank) rest new) entries)
  | other, _ :: _, _ => other

/-- Removes what stands at a place. -/
def remove : List Text → Node → Node
  | [], node => node
  | [name], .directory entries => .directory (entries.filter fun e => e.1 ≠ name)
  | name :: rest, .directory entries =>
    .directory (entries.map fun e => if e.1 = name then (e.1, remove rest e.2) else e)
  | _ :: _, other => other

mutual

/-- The number of links on a disk. -/
def linkCount : Node → Nat
  | .directory entries => linkCountOf entries
  | .link _ => 1
  | _ => 0

/-- The number of links in the entries of a directory. -/
def linkCountOf : List (Text × Node) → Nat
  | [] => 0
  | (_, node) :: rest => linkCount node + linkCountOf rest

end

end Node

/-! ## Faults -/

namespace Disk

/-- Why something cannot be done on a disk. -/
inductive Fault where
  | notFound
  | exists
  | notADirectory
  | isADirectory
  | tooManyLinks
deriving DecidableEq, Repr

/-- The number of a fault. -/
def Fault.number : Fault → Nat
  | .notFound => 2
  | .exists => 17
  | .notADirectory => 20
  | .isADirectory => 21
  | .tooManyLinks => 40

/-- The wording of a fault. -/
def Fault.reason : Fault → Text
  | .notFound => "No such file or directory"
  | .exists => "File exists"
  | .notADirectory => "Not a directory"
  | .isADirectory => "Is a directory"
  | .tooManyLinks => "Too many levels of symbolic links"

/-- A fault with the path that it was met with. -/
structure Failure where
  fault : Fault
  path : Path
deriving DecidableEq, Repr

/-- The wording of a failure. -/
def Failure.message (f : Failure) : Text :=
  "[Errno " ++ Text.ofNat f.fault.number ++ "] " ++ f.fault.reason ++ ": " ++ Text.quoted f.path.toText

/-- The wording of a path that holds a null character. -/
def nullMessage : Text := "embedded null byte"

end Disk

end SourceAtlas
