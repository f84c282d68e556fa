import SourceAtlas.Text.Utf8

/-!
Paths as sequences of names. Slashes that repeat, slashes at the end and single dots say nothing and are
dropped; two dots are kept, since they mean different things before and after links are followed. A path
that starts with exactly two slashes keeps both.
-/

namespace SourceAtlas

/-- Where a path starts. -/
inductive Anchor where
  | relative
  | root
  | doubleRoot
deriving DecidableEq, Repr

/-- A path: where it starts, and the names from there on. -/
structure Path where
  anchor : Anchor
  parts : List Text
deriving DecidableEq, Repr

namespace Path

/-- The name of the directory a name stands in. -/
def here : Text := "."

/-- The name of the directory above. -/
def above : Text := ".."

/-- Does a piece between slashes say nothing? -/
def isSilent (piece : Text) : Bool := piece.isEmpty || piece = here

/-- Does a text end in a piece that says nothing? Only the path of a directory may. -/
def endsSilently (t : Text) : Bool := isSilent ((Text.split '/' t).getLast?.getD [])

/-- The names in a text, without pieces that say nothing. -/
def partsOf (t : Text) : List Text := (Text.split '/' t).filter fun piece => !isSilent piece

/-- Where the path of a text starts. -/
def anchorOf (t : Text) : Anchor :=
  if Text.beginsWith "///" t then .root
  else if Text.beginsWith "//" t then .doubleRoot
  else if Text.beginsWith "/" t then .root
  else .relative

/-- The path of a text. -/
def ofText (t : Text) : Path := ⟨anchorOf t, partsOf t⟩

/-- What the text of a path starts with. -/
def lead : Anchor → Text
  | .relative => []
  | .root => "/"
  | .doubleRoot => "//"

/-- The text of a path; the empty relative path is a dot. -/
def toText (p : Path) : Text :=
  if p.anchor = .relative && p.parts.isEmpty then here
  else lead p.anchor ++ Text.join "/" p.parts

/-- Does a path hold a null character? Nothing on a disk is named so. -/
def hasNull (p : Path) : Bool := p.parts.any fun name => name.any (·.val = 0)

/-- Can a file have this name? It holds no null character, and no surrogate but for a byte. -/
def isSoundName (name : Text) : Bool := !name.any fun c => c.val = 0 || c.isSurrogate && !c.isByte

/-- Can all names of a path be those of files? -/
def isSound (p : Path) : Bool := p.parts.all isSoundName

/-- The path of names below the root. -/
def ofNames (names : List Text) : Path := ⟨.root, names⟩

/-- Does a path start at the root? -/
def isAbsolute (p : Path) : Bool := p.anchor ≠ .relative

/-- A path seen from another one; an absolute path is seen alike from everywhere. -/
def join (p q : Path) : Path := if q.isAbsolute then q else ⟨p.anchor, p.parts ++ q.parts⟩

/-- A path with a further name. -/
def child (p : Path) (name : Text) : Path := ⟨p.anchor, p.parts ++ [name]⟩

/-- The path without its last name. -/
def parent (p : Path) : Path := ⟨p.anchor, p.parts.dropLast⟩

/-- The last name of a path. -/
def name (p : Path) : Text := p.parts.getLast?.getD []

/-- One step up from a path. Where a relative path has no name left to drop, the step is kept. -/
def up (p : Path) : Path :=
  if p.anchor = .relative && (p.parts.isEmpty || p.name = above) then p.child above else p.parent

/-- A path with the pieces of a text behind it. Pieces that begin with a slash are a path from the root on. -/
def followedBy (p : Path) : List Text → Path
  | [] :: piece :: rest => ⟨.root, piece :: rest⟩
  | pieces => ⟨p.anchor, p.parts ++ pieces⟩

/-- What a name ends in, from its last dot on. A dot at either end of the name does not count. -/
def suffixOf (name : Text) : Text :=
  let tail := name.reverse.takeWhile fun c : CodePoint => c != '.'
  if tail.isEmpty || name.length ≤ tail.length + 1 then []
  else '.' :: tail.reverse

/-- What the last name of a path ends in. -/
def suffix (p : Path) : Text := suffixOf p.name

/-! ## Collapsing -/

/-- Takes in one name: two dots undo the name before. Names are kept in reverse. -/
def collapseOne (absolute : Bool) (done : List Text) (name : Text) : List Text :=
  if name ≠ above then name :: done
  else match done with
    | [] => if absolute then [] else [above]
    | last :: rest => if last = above then above :: done else rest

/-- The names of a path without two dots as far as that can be, no matter what the names stand for. -/
def collapse (absolute : Bool) (names : List Text) : List Text :=
  (names.foldl (collapseOne absolute) []).reverse

/-- Drops what two lists begin with alike. -/
def dropCommon : List Text → List Text → List Text × List Text
  | a :: as, b :: bs => if a = b then dropCommon as bs else (a :: as, b :: bs)
  | as, bs => (as, bs)

/-- An absolute path as seen from an absolute directory: up as often as needed, and down again. -/
def relativeTo (directory p : Path) : Path :=
  let (up, down) := dropCommon (collapse true directory.parts) (collapse true p.parts)
  ⟨.relative, up.map (fun _ => above) ++ down⟩

end Path

end SourceAtlas
