import SourceAtlas.Disk.Walk

/-!
Changes to a disk: directories that are made with those above them, files, links and removals.
-/

namespace SourceAtlas.Disk

/-- Makes a directory in one that is there. -/
def makeDirectory (disk : Disk) (path : Path) : Except Fault Disk := do
  let spot ← walk disk false path
  match spot.node with
  | some _ => throw .exists
  | none => return disk.put spot.names .blank

/-- Makes a directory; one that is there is fine. -/
def ensureDirectory (disk : Disk) (path : Path) : Except Failure Disk :=
  match makeDirectory disk path with
  | .ok changed => .ok changed
  | .error fault => if isDirectory disk path then .ok disk else .error ⟨fault, path⟩

/-- Makes a directory and those above it that are missing, given by its names in reverse. What has been
made stays if a further one cannot be made. -/
def ensureFrom (disk : Disk) (anchor : Anchor) : (reversed : List Text) → Disk × Option Failure
  | [] =>
    match ensureDirectory disk ⟨anchor, []⟩ with
    | .ok changed => (changed, none)
    | .error failure => (disk, some failure)
  | name :: above =>
    let path : Path := ⟨anchor, above.reverse ++ [name]⟩
    match makeDirectory disk path with
    | .ok changed => (changed, none)
    | .error .notFound =>
      match ensureFrom disk anchor above with
      | (changed, some failure) => (changed, some failure)
      | (changed, none) =>
        match ensureDirectory changed path with
        | .ok final => (final, none)
        | .error failure => (changed, some failure)
    | .error fault => if isDirectory disk path then (disk, none) else (disk, some ⟨fault, path⟩)

/-- Makes a directory and those above it that are missing. -/
def ensureDirectories (disk : Disk) (path : Path) : Disk × Option Failure :=
  ensureFrom disk path.anchor path.parts.reverse

/-- Puts something where a path leads, through links or in place of one. A path that leads nowhere changes
nothing. -/
def place (disk : Disk) (through : Bool) (path : Path) (node : Node) : Disk :=
  match walk disk through path with
  | .ok spot => disk.put spot.names node
  | .error _ => disk

/-- Writes a file, and makes the directories above it. -/
def write (disk : Disk) (path : Path) (content : Bytes) : Disk :=
  (ensureDirectories disk path.parent).1.place true path (.file content)

/-- Makes a link, and the directories above it. -/
def link (disk : Disk) (path : Path) (target : Text) : Disk :=
  (ensureDirectories disk path.parent).1.place false path (.link target)

/-- Removes a file, a link or a whole tree. -/
def erase (disk : Disk) (path : Path) : Disk :=
  match walk disk false path with
  | .ok spot => disk.remove spot.names
  | .error _ => disk

end SourceAtlas.Disk
