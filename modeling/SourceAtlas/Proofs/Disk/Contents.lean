import SourceAtlas.Proofs.Disk.Ways
import SourceAtlas.Proofs.Except

/-!
Contents of files. Where paths lead, what is a directory and how many links there are does not depend on what files
and tables hold, so that it is the same on a disk with their contents changed.

Main statements: `walk_mapContents`, `sameWays_mapContents`, `sameWays_of_bare_eq`.
-/

namespace SourceAtlas

variable (file : Bytes → Bytes) (table : Store → Store)

namespace Node

mutual

/-- A disk with the contents of its files and its tables changed. -/
def mapContents : Node → Node
  | .directory entries => .directory (mapContentsOf entries)
  | .file content => .file (file content)
  | .database t => .database (table t)
  | .link target => .link target
  | .special => .special

/-- The entries of a directory with all contents changed. -/
def mapContentsOf : List (Text × Node) → List (Text × Node)
  | [] => []
  | (name, node) :: rest => (name, mapContents node) :: mapContentsOf rest

end

/-! ## Places -/

/-- An entry of a name is there as before, with its contents changed. -/
theorem find?_mapContentsOf (name : Text) (entries : List (Text × Node)) :
    Association.find? name (mapContentsOf file table entries)
      = (Association.find? name entries).map (mapContents file table) := by
  induction entries with
  | nil => rfl
  | cons e rest ih =>
    rw [mapContentsOf, Association.find?, Association.find?]
    split
    · rfl
    · exact ih

/-- An entry may be set before the contents are changed or after that. -/
theorem set_mapContentsOf (name : Text) (node : Node) (entries : List (Text × Node)) :
    Association.set name (node.mapContents file table) (mapContentsOf file table entries)
      = mapContentsOf file table (Association.set name node entries) := by
  induction entries with
  | nil => rfl
  | cons e rest ih =>
    rw [mapContentsOf, Association.set, Association.set]
    split
    · rfl
    · rw [ih, mapContentsOf]

/-- What stands at a place of the changed disk is what stands there, changed. -/
theorem find?_mapContents (node : Node) (names : List Text) :
    (node.mapContents file table).find? names = (node.find? names).map (mapContents file table) := by
  induction names generalizing node with
  | nil => rfl
  | cons name rest ih =>
    cases node with
    | directory entries =>
      rw [mapContents, find?, find?, find?_mapContentsOf]
      cases Association.find? name entries with
      | none => rfl
      | some next => exact ih next
    | _ => rfl

/-- So may something be put at a place. -/
theorem mapContents_put (node new : Node) (names : List Text) : (node.put names new).mapContents file table
    = (node.mapContents file table).put names (new.mapContents file table) := by
  induction names generalizing node with
  | nil => rw [put, put]
  | cons name rest ih =>
    cases node with
    | directory entries =>
      rw [put, mapContents, mapContents, put, find?_mapContentsOf, ← set_mapContentsOf, ih]
      cases Association.find? name entries with
      | none => rfl
      | some next => rfl
    | _ => rfl

mutual

/-- No link is added or removed. -/
theorem linkCount_mapContents (node : Node) : (node.mapContents file table).linkCount = node.linkCount := by
  match node with
  | .directory entries => exact linkCountOf_mapContentsOf entries
  | .file _ => rfl
  | .database _ => rfl
  | .link _ => rfl
  | .special => rfl

theorem linkCountOf_mapContentsOf (entries : List (Text × Node)) :
    linkCountOf (mapContentsOf file table entries) = linkCountOf entries := by
  match entries with
  | [] => rfl
  | (name, node) :: rest =>
    rw [mapContentsOf, linkCountOf, linkCountOf, linkCount_mapContents node, linkCountOf_mapContentsOf rest]

end

theorem all_mapContentsOf (name : Text) (entries : List (Text × Node)) :
    (mapContentsOf file table entries).all (fun e => e.1 != name) = entries.all fun e => e.1 != name := by
  induction entries with
  | nil => rfl
  | cons e rest ih => rw [mapContentsOf, List.all_cons, List.all_cons, ih]

mutual

/-- The names stay such as there are, and distinct. -/
theorem isWellFormed_mapContents (node : Node) :
    (node.mapContents file table).isWellFormed = node.isWellFormed := by
  match node with
  | .directory entries => exact areWellFormed_mapContentsOf entries
  | .file _ => rfl
  | .database _ => rfl
  | .link _ => rfl
  | .special => rfl

theorem areWellFormed_mapContentsOf (entries : List (Text × Node)) :
    areWellFormed (mapContentsOf file table entries) = areWellFormed entries := by
  match entries with
  | [] => rfl
  | (name, node) :: rest =>
    rw [mapContentsOf, areWellFormed, areWellFormed, isWellFormed_mapContents node, all_mapContentsOf,
      areWellFormed_mapContentsOf rest]

end

end Node

/-! ## Walks -/

namespace Disk

/-- A spot on the changed disk. -/
def Spot.mapContents (spot : Spot) : Spot := ⟨spot.names, spot.node.map (Node.mapContents file table)⟩

/-- It is asked for the same. -/
theorem map_bind_demand (x : Except Fault Spot) (asked : Bool) :
    x.map (Spot.mapContents file table) >>= Spot.demand asked
      = (x >>= Spot.demand asked).map (Spot.mapContents file table) := by
  rcases x with fault | ⟨names, _ | node⟩
  · rfl
  · cases asked <;> rfl
  · cases asked <;> cases node <;> rfl

/-- One leg of a walk leads to the same place, provided that the links on it do. -/
theorem walkWith_mapContents (disk : Disk) (through : Bool)
    {enter other : List Text → List Text → Except Fault Spot}
    (henter : ∀ start names, other start names = (enter start names).map (Spot.mapContents file table))
    (done names : List Text) : walkWith (disk.mapContents file table) through other done names
      = (walkWith disk through enter done names).map (Spot.mapContents file table) := by
  induction names generalizing done with
  | nil =>
    rw [walkWith, walkWith, Node.find?_mapContents]
    rfl
  | cons name rest ih =>
    rw [walkWith, walkWith]
    split
    · exact ih _
    · rw [Node.find?_mapContents]
      cases disk.find? (done ++ [name]) with
      | none => simp only [Option.map_none]; split <;> rfl
      | some node =>
        cases node with
        | link target =>
          simp only [Option.map_some, Node.mapContents]
          split
          · rfl
          · rw [henter, map_bind_demand]
        | directory entries =>
          simp only [Option.map_some, Node.mapContents, Node.isDirectory, if_true]
          split
          · rfl
          · exact ih _
        | _ => simp only [Option.map_some, Node.mapContents, Node.isDirectory]; split <;> rfl

/-- A walk leads to the same place, where the contents are changed. -/
theorem walk_mapContents (disk : Disk) (through : Bool) (path : Path) :
    walk (disk.mapContents file table) through path
      = (walk disk through path).map (Spot.mapContents file table) := by
  have walkFrom_mapContents : ∀ links done names, walkFrom (disk.mapContents file table) through links done names
      = (walkFrom disk through links done names).map (Spot.mapContents file table) := by
    intro links
    induction links with
    | zero =>
      intro done names
      rw [walkFrom, walkFrom]
      refine walkWith_mapContents file table disk through (fun _ _ => ?_) done names
      rfl
    | succ links ih => exact fun done names => walkWith_mapContents file table disk through ih done names
  exact walkFrom_mapContents _ _ _

/-- What a path leads to is what it has led to, with its contents changed. -/
theorem look_mapContents (disk : Disk) (path : Path) :
    look (disk.mapContents file table) path = (look disk path).map (Node.mapContents file table) := by
  unfold look
  rw [walk_mapContents]
  rcases walk disk true path with fault | ⟨names, _ | node⟩
  · rfl
  · rfl
  · rfl

/-- The ways over a disk are the same whatever files and tables hold. -/
theorem sameWays_mapContents (disk : Disk) : SameWays (disk.mapContents file table) disk where
  signpost_eq names := by
    rw [Node.find?_mapContents]
    rcases disk.find? names with _ | node
    · rfl
    · cases node <;> rfl
  linkCount_eq := Node.linkCount_mapContents file table disk

end Disk

/-! ## Trees alike but for contents -/

namespace Node

/-- A disk with nothing left in its files and tables. -/
def bare (node : Node) : Node := node.mapContents (fun _ => []) fun _ => .empty

theorem isLink_bare (node : Node) : node.bare.isLink = node.isLink := by
  cases node with
  | _ => rfl

/-- What stands at a place of a bare disk is what stands there, bare. -/
theorem find?_bare (node : Node) (names : List Text) : node.bare.find? names = (node.find? names).map bare :=
  node.find?_mapContents _ _ names

/-- A disk with something put on it is bare as the bare disk with that put on it. -/
theorem bare_put (node new : Node) (names : List Text) : (node.put names new).bare = node.bare.put names new.bare :=
  node.mapContents_put _ _ new names

/-- A bare disk is as well formed as the disk. -/
theorem isWellFormed_bare (node : Node) : node.bare.isWellFormed = node.isWellFormed :=
  node.isWellFormed_mapContents _ _

variable {node other : Node}

/-- Of nodes that are alike but for contents both are links or neither is. -/
theorem isLink_eq_of_bare_eq (h : node.bare = other.bare) : node.isLink = other.isLink := by
  rw [← isLink_bare, h, isLink_bare]

/-- Where something stands in one of two trees alike, something alike stands in the other. -/
theorem exists_find?_of_bare_eq (h : node.bare = other.bare) {names : List Text} {found : Node}
    (hfound : other.find? names = some found) : ∃ there, node.find? names = some there ∧ there.bare = found.bare := by
  have same := node.find?_bare names
  rw [h, find?_bare, hfound] at same
  obtain ⟨there, hthere, hbare⟩ := Option.map_eq_some_iff.1 same.symm
  exact ⟨there, hthere, hbare⟩

end Node

namespace Disk

variable {disk other : Disk} (h : disk.bare = other.bare)

include h

/-- On disks that are alike but for contents a path leads to nodes that are so. -/
theorem exists_look_of_bare_eq {path : Path} {found : Node} (hfound : look other path = .ok found) :
    ∃ there, look disk path = .ok there ∧ there.bare = found.bare := by
  have same : look disk.bare path = (look disk path).map Node.bare := look_mapContents _ _ disk path
  have changed : look other.bare path = (look other path).map Node.bare := look_mapContents _ _ other path
  rw [h, changed, hfound] at same
  obtain ⟨there, hthere, hbare⟩ := map_eq_ok_iff.1 same.symm
  exact ⟨there, hthere, hbare⟩

/-- Disks that are alike but for contents have the same ways. -/
theorem sameWays_of_bare_eq : SameWays disk other := by
  have first : SameWays disk.bare disk := sameWays_mapContents _ _ disk
  have second : SameWays other.bare other := sameWays_mapContents _ _ other
  rw [← h] at second
  exact first.symm.trans second

end Disk

end SourceAtlas
