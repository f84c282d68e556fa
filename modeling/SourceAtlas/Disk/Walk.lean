import SourceAtlas.Disk.Basic

/-!
Walks over a disk. A walk follows names from the root and goes through links on its way. Where it ends is
given by real names, and the last of them may be missing. Resolving a path makes its names real as far as
they lead to something, and keeps the rest.
-/

namespace SourceAtlas.Disk

/-! ## Walking -/

/-- A walk may go through this many links. -/
def maxLinks : Nat := 40

/-- Where a walk has ended: the real names, and what stands there. -/
structure Spot where
  names : List Text
  node : Option Node

/-- The end of a walk, which may be asked to be a directory. -/
def Spot.demand (asked : Bool) (spot : Spot) : Except Fault Spot :=
  match spot.node with
  | none => if asked then .error .notFound else .ok spot
  | some node => if asked && !node.isDirectory then .error .notADirectory else .ok spot

/-- Follows names up to the first link that has to be gone through; `enter` goes on from there. A link at the very end
whose text ends in a slash asks for a directory. -/
def walkWith (disk : Disk) (through : Bool) (enter : List Text → List Text → Except Fault Spot)
    (done : List Text) : List Text → Except Fault Spot
  | [] => .ok ⟨done, disk.find? done⟩
  | name :: rest =>
    if name = Path.above then walkWith disk through enter done.dropLast rest
    else
      match disk.find? (done ++ [name]) with
      | none => if rest.isEmpty then .ok ⟨done ++ [name], none⟩ else .error .notFound
      | some (.link target) =>
        if rest.isEmpty && !through then .ok ⟨done ++ [name], some (.link target)⟩
        else enter (if (Path.ofText target).isAbsolute then [] else done) ((Path.ofText target).parts ++ rest)
          >>= Spot.demand (rest.isEmpty && Path.endsSilently target)
      | some node =>
        if rest.isEmpty then .ok ⟨done ++ [name], some node⟩
        else if node.isDirectory then walkWith disk through enter (done ++ [name]) rest
        else .error .notADirectory

/-- Follows names through at most so many links. -/
def walkFrom (disk : Disk) (through : Bool) : (links : Nat) → List Text → List Text → Except Fault Spot
  | 0 => walkWith disk through fun _ _ => .error .tooManyLinks
  | links + 1 => walkWith disk through (walkFrom disk through links)

/-- Follows an absolute path. `through` says whether to go through a link at the very end. -/
def walk (disk : Disk) (through : Bool) (path : Path) : Except Fault Spot :=
  walkFrom disk through maxLinks [] path.parts

/-- What a path leads to, through links. -/
def look (disk : Disk) (path : Path) : Except Fault Node := do
  match (← walk disk true path).node with
  | some node => return node
  | none => throw .notFound

/-- Does a path lead to a directory? -/
def isDirectory (disk : Disk) (path : Path) : Bool :=
  match look disk path with
  | .ok node => node.isDirectory
  | .error _ => false

/-- The content of the file that a path leads to. A database that is not in use reads as an empty file. -/
def read (disk : Disk) (path : Path) : Except Failure Bytes :=
  match look disk path with
  | .ok (.file content) => .ok content
  | .ok (.directory _) => .error ⟨.isADirectory, path⟩
  | .ok _ => .ok []
  | .error fault => .error ⟨fault, path⟩

/-! ## Resolving -/

/-- The names under which a written place stands. A relative one is seen from a working directory. -/
def placeOf (current written : Path) : List Text :=
  if written.isAbsolute then written.parts else Path.collapse true (current.parts ++ written.parts)

/-- What a path comes to on the way to its real path: the written place to which it has been made real, or, if a link
leads back to itself, a path that is left as it is. -/
inductive Resolved where
  | real (place : Path)
  | left (path : Path)
deriving DecidableEq

/-- Is a path left as it is? -/
def Resolved.isLeft : Resolved → Bool
  | .real _ => false
  | .left _ => true

/-- Makes the pieces of a path real up to the first link; `enter` makes the pieces of a link real. `open_` are the
places of the links that are being gone through, as they were written. -/
def resolveWith (disk : Disk) (current : Path) (enter : List Path → Path → List Text → Resolved)
    (open_ : List Path) (done : Path) : List Text → Resolved
  | [] => .real done
  | piece :: rest =>
    if Path.isSilent piece then resolveWith disk current enter open_ done rest
    else if piece = Path.above then resolveWith disk current enter open_ done.up rest
    else
      let place := done.child piece
      match disk.find? (placeOf current place) with
      | some (.link target) =>
        if open_.contains place then .left (place.followedBy rest)
        else
          let start := if (Path.ofText target).isAbsolute then .ofNames [] else done
          match enter (place :: open_) start (Text.split '/' target) with
          | .left path => .left (path.followedBy rest)
          | .real inner => resolveWith disk current enter open_ inner rest
      | _ => resolveWith disk current enter open_ place rest

/-- Makes pieces real through links nested at most so deep. -/
def resolveFrom (disk : Disk) (current : Path) : (links : Nat) → List Path → Path → List Text → Resolved
  | 0 => resolveWith disk current fun _ done pieces => .left (done.followedBy pieces)
  | links + 1 => resolveWith disk current (resolveFrom disk current links)

/-- What an absolute path comes to. No more links can be nested than there are. -/
def resolved (disk : Disk) (path : Path) : Resolved :=
  resolveFrom disk (.ofNames []) (disk.linkCount + 1) [] (.ofNames []) path.parts

/-- What a path comes to in a working directory. A place may be written from the root on, or with up to as many steps up
as there are names in the working directory, and so often a link may be nested in itself. -/
def resolvedIn (disk : Disk) (current path : Path) : Resolved :=
  resolveFrom disk current ((disk.linkCount + 1) * (current.parts.length + 2)) [] ⟨.relative, []⟩ path.parts

/-- The names of what a path comes to. What is left of it is collapsed. -/
def namesOf (current : Path) : Resolved → List Text
  | .real place => placeOf current place
  | .left path => Path.collapse true ((current.join path).parts.filter fun piece => !Path.isSilent piece)

/-- The real names of an absolute path, as far as there are any. -/
def realNames (disk : Disk) (path : Path) : List Text := namesOf (.ofNames []) (resolved disk path)

/-- The real names of a path that is seen from a working directory. How the places on the way are written counts only
where a link leads back to itself. -/
def realNamesIn (disk : Disk) (current path : Path) : List Text :=
  if (resolved disk (current.join path)).isLeft then namesOf current (resolvedIn disk current path)
  else realNames disk (current.join path)

/-- Why a path has no real path: a link on it leads back to itself, it holds a null character or a surrogate that
stands for no byte, or it begins in a working directory that has been removed. The path of a loop is what is left of
the path there. -/
inductive Unresolved where
  | loop (path : Path)
  | null
  | unencodable (error : Utf8.EncodeError)
  | nowhere
deriving DecidableEq, Repr

/-- The wording of a working directory that has been removed. -/
def nowhereMessage : Text := "[Errno 2] No such file or directory"

/-- The wording of a path that has no real path. -/
def Unresolved.message : Unresolved → Text
  | .loop path => "Symlink loop from " ++ Text.quoted path.toText
  | .null => nullMessage
  | .unencodable error => error.message
  | .nowhere => nowhereMessage

/-- What is wrong with a path that has a name which no file can have. -/
def refusalOf (path : Path) : Unresolved :=
  match Utf8.firstUnnamable 0 path.toText with
  | some error => .unencodable error
  | none => .null

/-- What is wrong with a path, if any of its names can be that of no file. -/
def refusal? (path : Path) : Option Unresolved :=
  if path.isSound then none else some (refusalOf path)

/-- The first fault that is met while names are made real. They are asked for one after another, up to a link that
leads back to itself, each behind the real names of those before it; at last the real path is asked for. `shown` says
how the paths that are asked for are written. -/
def refusalOnWay? (disk : Disk) (shown : Path → Path) (path : Path) (real : List Text) : Option Unresolved :=
  let front := path.parts.takeWhile Path.isSoundName
  match path.parts.drop front.length, resolved disk ⟨path.anchor, front⟩ with
  | name :: _, .real place => some (refusalOf (shown (place.child name)))
  | _, _ => refusal? (.ofNames real)

/-- The path of real names, unless the names themselves go through too many links. -/
def realPathOf (disk : Disk) (names : List Text) : Except Unresolved Path :=
  match look disk (.ofNames names) with
  | .error .tooManyLinks => .error (.loop (.ofNames names))
  | _ => .ok (.ofNames names)

/-- The real path of an absolute path. -/
def resolve (disk : Disk) (path : Path) : Except Unresolved Path :=
  match refusalOnWay? disk id path (realNames disk path) with
  | some fault => .error fault
  | none => realPathOf disk (realNames disk path)

/-- The real path of a path, seen from a working directory. That has to be there unless the path is absolute. -/
def resolveIn (disk : Disk) (current path : Path) : Except Unresolved Path :=
  if path.isAbsolute then resolve disk path
  else match refusalOnWay? disk (Path.relativeTo current) (current.join path) (realNamesIn disk current path) with
  | some fault => .error fault
  | none =>
    if isDirectory disk current then realPathOf disk (realNamesIn disk current path) else .error .nowhere

end SourceAtlas.Disk
