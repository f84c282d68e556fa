import SourceAtlas.Proofs.Disk.Contents
import SourceAtlas.Scan

/-!
Tables on a disk. Where paths lead is the same whatever the cache databases on a disk hold, so that it can be said of
the disk with all its tables emptied.

Main statements: `emptied_put_database`, `sameWays_emptied`, `walk_emptied`.
-/

namespace SourceAtlas

/-! ## Places -/

namespace Association

variable {κ α : Type} [DecidableEq κ]

/-- To set what is there changes nothing. -/
theorem set_of_find? {key : κ} {value : α} {entries : List (κ × α)} (h : find? key entries = some value) :
    set key value entries = entries := by
  induction entries with
  | nil => cases h
  | cons e rest ih =>
    unfold find? at h
    unfold set
    split at h
    · next heq => rw [if_pos heq, ← Option.some.inj h]
    · next hne => rw [if_neg hne, ih h]

/-- What is set last stays. -/
theorem set_set (key : κ) (first value : α) (entries : List (κ × α)) :
    set key value (set key first entries) = set key value entries := by
  induction entries with
  | nil => simp [set]
  | cons e rest ih =>
    by_cases h : e.1 = key
    · simp [set, h]
    · simp [set, h, ih]

end Association

namespace Node

/-- What stands at a place is put there again. -/
theorem put_of_find? {node found : Node} {names : List Text} (h : node.find? names = some found) :
    node.put names found = node := by
  induction names generalizing node with
  | nil =>
    rw [put]
    exact (Option.some.inj h).symm
  | cons name rest ih =>
    cases node with
    | directory entries =>
      obtain ⟨next, hnext, hfound⟩ := Option.bind_eq_some_iff.1 h
      rw [put, hnext, Option.getD_some, ih hfound, Association.set_of_find? hnext]
    | _ => cases h

/-- The last put at a place wins. -/
theorem put_put (node first new : Node) (names : List Text) :
    (node.put names first).put names new = node.put names new := by
  induction names generalizing node with
  | nil => rw [put, put]
  | cons name rest ih =>
    cases node with
    | directory entries =>
      rw [put, put, put, Association.find?_set_self, Option.getD_some, ih, Association.set_set]
    | _ => rfl

/-- What is put at a place where something stands is found there. -/
theorem find?_put_self {node found : Node} {names : List Text} (h : node.find? names = some found) (new : Node) :
    (node.put names new).find? names = some new := by
  induction names generalizing node with
  | nil => rw [put, find?]
  | cons name rest ih =>
    cases node with
    | directory entries =>
      obtain ⟨next, hnext, hfound⟩ := Option.bind_eq_some_iff.1 h
      rw [put, hnext, Option.getD_some, find?, Association.find?_set_self]
      exact ih hfound
    | _ => cases h

/-- What is put into a directory is found in it. -/
theorem find?_put_concat {node : Node} {front : List Text} {entries : List (Text × Node)}
    (h : node.find? front = some (.directory entries)) (name : Text) (new : Node) :
    (node.put (front ++ [name]) new).find? (front ++ [name]) = some new := by
  induction front generalizing node with
  | nil =>
    obtain rfl := Option.some.inj h
    rw [List.nil_append, put, put, find?, Association.find?_set_self]
    rfl
  | cons first rest ih =>
    cases node with
    | directory all =>
      obtain ⟨next, hnext, hdirectory⟩ := Option.bind_eq_some_iff.1 h
      rw [List.cons_append, put, hnext, Option.getD_some, find?, Association.find?_set_self]
      exact ih hdirectory
    | _ => cases h

/-! ## Emptied tables -/

mutual

/-- A disk with all its tables emptied. -/
def emptied : Node → Node
  | .directory entries => .directory (emptiedEntries entries)
  | .database _ => .database .empty
  | .file content => .file content
  | .link target => .link target
  | .special => .special

/-- The entries of a directory with all tables emptied. -/
def emptiedEntries : List (Text × Node) → List (Text × Node)
  | [] => []
  | (name, node) :: rest => (name, emptied node) :: emptiedEntries rest

end

mutual

theorem emptied_eq_mapContents (node : Node) : node.emptied = node.mapContents id fun _ => .empty := by
  match node with
  | .directory entries => rw [emptied, mapContents, emptiedEntries_eq_mapContentsOf entries]
  | .file _ => rfl
  | .database _ => rfl
  | .link _ => rfl
  | .special => rfl

theorem emptiedEntries_eq_mapContentsOf (entries : List (Text × Node)) :
    emptiedEntries entries = mapContentsOf id (fun _ => .empty) entries := by
  match entries with
  | [] => rfl
  | (name, node) :: rest =>
    rw [emptiedEntries, mapContentsOf, emptied_eq_mapContents node, emptiedEntries_eq_mapContentsOf rest]

end

/-- To empty tables is to change contents. -/
theorem emptied_eq : emptied = mapContents id fun _ => .empty := funext emptied_eq_mapContents

/-- Something may be put at a place before tables are emptied or after that. -/
theorem emptied_put (node new : Node) (names : List Text) :
    (node.put names new).emptied = node.emptied.put names new.emptied := by
  rw [emptied_eq, mapContents_put]

/-- A table is emptied whatever it holds. -/
theorem emptied_put_database {node : Node} {names : List Text} {old : Store}
    (h : node.find? names = some (.database old)) (new : Store) :
    (node.put names (.database new)).emptied = node.emptied := by
  have same : (Node.database new).emptied = (Node.database old).emptied := rfl
  rw [emptied_put, same, ← emptied_put, put_of_find? h]

/-- The emptied disk is as well formed as the disk. -/
theorem isWellFormed_emptied (node : Node) : node.emptied.isWellFormed = node.isWellFormed := by
  rw [emptied_eq, isWellFormed_mapContents]

end Node

/-! ## Walks -/

namespace Disk

/-- A spot on the emptied disk. -/
def Spot.emptied (spot : Spot) : Spot := ⟨spot.names, spot.node.map Node.emptied⟩

/-- A walk leads to the same place of the emptied disk. -/
theorem walk_emptied (disk : Disk) (through : Bool) (path : Path) :
    walk disk.emptied through path = (walk disk through path).map Spot.emptied := by
  have spot : Spot.emptied = Spot.mapContents id fun _ => .empty := by
    funext spot
    rw [Spot.emptied, Spot.mapContents, Node.emptied_eq]
  rw [spot, Node.emptied_eq, walk_mapContents]

/-- The emptied disk has the same ways. -/
theorem sameWays_emptied (disk : Disk) : SameWays disk.emptied disk := by
  rw [Node.emptied_eq]
  exact sameWays_mapContents _ _ disk

end Disk

end SourceAtlas
