import SourceAtlas.Database
import SourceAtlas.Proofs.Disk.Real
import SourceAtlas.Proofs.Disk.Tables

/-!
Databases that are there. Opening a cache database that stands on a disk changes nothing and connects to the
place where it stands, whatever its table holds. Setting the table changes that and nothing else. One that is not
there yet has a table once it has been opened.

Main statements: `exists_table_of_connect`, `StandsAt.connect_eq`.
-/

namespace SourceAtlas

/-- Is it a cache database? -/
def Node.isDatabase : Node → Bool
  | .database _ => true
  | _ => false

namespace Disk

variable {disk : Disk}

/-! ## Directories that are there -/

/-- A walk that does not go through a last link ends at something as well. -/
theorem Walks.exists_short {fin done names : List Text} {node : Node} {links : Nat}
    (h : Walks disk fin node links done names) :
    ∃ end_ found, walkFrom disk false links done names = .ok ⟨end_, some found⟩ := by
  induction h with
  | @nil links hfind =>
    obtain ⟨enter, heq⟩ := exists_walkFrom_eq disk false links
    exact ⟨fin, node, by rw [heq, walkWith, hfind]⟩
  | @up links done rest _ ih =>
    obtain ⟨enter, heq⟩ := exists_walkFrom_eq disk false links
    rwa [heq, walkWith_above, ← heq]
  | @pass links done rest name found hname hfind hlink hdirectory _ ih =>
    obtain ⟨enter, heq⟩ := exists_walkFrom_eq disk false links
    rwa [heq, walkWith_pass hname hfind hlink hdirectory, ← heq]
  | @follow links done rest name target hname hfind _ _ ih =>
    rw [walkFrom, walkWith_link hname hfind]
    split
    · exact ⟨_, _, rfl⟩
    · next hlast =>
      have more : rest.isEmpty = false := by simpa using hlast
      rw [more, Bool.false_and, bind_demand_false]
      exact ih

/-- Directories that are there need not be made. -/
theorem ensureDirectories_of_isDirectory {path : Path} (h : isDirectory disk path = true) :
    ensureDirectories disk path = (disk, none) := by
  have exists_ : makeDirectory disk path = .error .exists := by
    unfold isDirectory at h
    split at h
    · next node hlook =>
      obtain ⟨fin, hwalks⟩ := look_eq_ok_iff.1 hlook
      obtain ⟨end_, found, hshort⟩ := hwalks.exists_short
      rw [makeDirectory, walk, hshort]
      rfl
    · cases h
  obtain ⟨anchor, parts⟩ := path
  rw [ensureDirectories]
  dsimp only
  cases hparts : parts.reverse with
  | nil =>
    obtain rfl := List.reverse_eq_nil_iff.1 hparts
    rw [ensureFrom, ensureDirectory, exists_]
    dsimp only
    rw [h, if_pos rfl]
  | cons name above =>
    have names : above.reverse ++ [name] = parts := by
      rw [← List.reverse_cons, ← hparts, List.reverse_reverse]
    rw [ensureFrom, names, exists_]
    dsimp only
    rw [h, if_pos rfl]

/-! ## Places that are free -/

/-- There is a directory in which a place would be. -/
def IsInDirectory (disk : Disk) (place : List Text) : Prop :=
  ∃ front name entries, place = front ++ [name] ∧ disk.find? front = some (.directory entries)

/-- A walk that comes to nothing has come to a directory before. -/
theorem isInDirectory_of_walkWith {through : Bool} {enter : List Text → List Text → Except Fault Spot}
    (henter : ∀ start names fin, (∃ entries, disk.find? start = some (.directory entries)) →
      enter start names = .ok ⟨fin, none⟩ → IsInDirectory disk fin)
    (hroot : ∃ entries, disk.find? [] = some (.directory entries)) {done names fin : List Text}
    (hdone : ∃ entries, disk.find? done = some (.directory entries))
    (h : walkWith disk through enter done names = .ok ⟨fin, none⟩) : IsInDirectory disk fin := by
  induction names generalizing done with
  | nil =>
    obtain ⟨entries, hentries⟩ := hdone
    rw [walkWith, hentries] at h
    simp at h
  | cons name rest ih =>
    obtain ⟨entries, hentries⟩ := hdone
    by_cases hname : name = Path.above
    · rw [hname, walkWith_above] at h
      refine ih ?_ h
      by_cases hlast : done.dropLast = done
      · rw [hlast]
        exact ⟨entries, hentries⟩
      · exact Node.exists_directory_of_prefix hentries (List.dropLast_prefix done) hlast
    · rw [walkWith, if_neg hname] at h
      split at h
      · split at h
        · obtain ⟨rfl, -⟩ := Spot.mk.inj (Except.ok.inj h)
          exact ⟨done, name, entries, rfl, hentries⟩
        · cases h
      · split at h
        · simp at h
        · refine henter _ _ fin ?_ (eq_none_of_bind_demand h)
          split
          · exact hroot
          · exact ⟨entries, hentries⟩
      · next node _ hfind =>
        split at h
        · simp at h
        · split at h
          · next hdirectory =>
            cases node with
            | directory inner => exact ih ⟨inner, hfind⟩ h
            | _ => cases hdirectory
          · cases h

/-- A walk that ends at nothing ends in a directory. -/
theorem isInDirectory_of_walk {through : Bool} {path : Path} {fin : List Text}
    (hroot : ∃ entries, disk.find? [] = some (.directory entries))
    (h : walk disk through path = .ok ⟨fin, none⟩) : IsInDirectory disk fin := by
  have all : ∀ links done names fin, (∃ entries, disk.find? done = some (.directory entries)) →
      walkFrom disk through links done names = .ok ⟨fin, none⟩ → IsInDirectory disk fin := by
    intro links
    -- the induction is on how many links the walk may still go through
    induction links with
    | zero =>
      intro done names fin hdone
      exact isInDirectory_of_walkWith (fun _ _ _ _ h => by cases h) hroot hdone
    | succ links ih =>
      intro done names fin hdone
      exact isInDirectory_of_walkWith (fun start names fin => ih start names fin) hroot hdone
  exact all maxLinks [] path.parts fin hroot h

/-- Directories are on disks whose root is one. -/
theorem isDirectory_root (hdisk : disk.isWellFormed = true) {path : Path} (h : isDirectory disk path = true) :
    Node.isDirectory disk = true := by
  obtain ⟨real, entries, -, -, hfind, -⟩ := exists_resolve_of_isDirectory hdisk h
  cases disk with
  | directory _ => rfl
  | _ =>
    -- on another disk nothing stands but the root itself
    cases hparts : real.parts with
    | nil =>
      rw [hparts] at hfind
      cases hfind
    | cons name rest =>
      rw [hparts] at hfind
      cases hfind

end Disk

namespace Database

variable {disk : Disk} {path : Path} {connection : Connection}

/-! ## Tables -/

section

variable {old : Store} (h : disk.find? connection = some (.database old))
include h

/-- A table that has been set is there. -/
theorem table_setTable (table : Store) : Database.table (setTable disk connection table) connection = table := by
  rw [Database.table, setTable, Node.find?_put_self h]

/-- To set a table changes nothing else. -/
theorem emptied_setTable (table : Store) : (setTable disk connection table).emptied = disk.emptied :=
  Node.emptied_put_database h table

/-- Another table changes no way over the disk. -/
theorem sameWays_setTable (table : Store) : Disk.SameWays (setTable disk connection table) disk :=
  (Disk.sameWays_emptied _).symm.trans (emptied_setTable h table ▸ Disk.sameWays_emptied disk)

/-- A disk stays well formed with another table. -/
theorem isWellFormed_setTable (table : Store) :
    (setTable disk connection table).isWellFormed = disk.isWellFormed := by
  rw [← Node.isWellFormed_emptied, emptied_setTable h, Node.isWellFormed_emptied]

end

/-- A cache database stands where a path leads. -/
def StandsAt (disk : Disk) (path : Path) (connection : Connection) : Prop :=
  ∃ table, Disk.walk disk true path = .ok ⟨connection, some (.database table)⟩

namespace StandsAt

/-- A path that walks to a database stands at it. -/
theorem of_walk {spot : Disk.Spot} (hwalk : Disk.walk disk true path = .ok spot) (hnames : spot.names = connection)
    (hnode : spot.node.any Node.isDatabase = true) : StandsAt disk path connection := by
  obtain ⟨names, node⟩ := spot
  subst hnames
  cases node with
  | none => cases hnode
  | some node =>
    cases node with
    | database table => exact ⟨table, hwalk⟩
    | _ => cases hnode

/-- Where a database stands there is a table. -/
theorem find? (h : StandsAt disk path connection) : ∃ table, disk.find? connection = some (.database table) := by
  obtain ⟨table, hwalk⟩ := h
  exact ⟨table, (Disk.walkFrom_eq_some_iff.1 hwalk).find?⟩

theorem table_setTable (h : StandsAt disk path connection) (table : Store) :
    Database.table (setTable disk connection table) connection = table := by
  obtain ⟨old, hold⟩ := h.find?
  exact Database.table_setTable hold table

theorem emptied_setTable (h : StandsAt disk path connection) (table : Store) :
    (setTable disk connection table).emptied = disk.emptied := by
  obtain ⟨old, hold⟩ := h.find?
  exact Database.emptied_setTable hold table

/-- The database still stands there with another table. -/
theorem setTable (h : StandsAt disk path connection) (table : Store) :
    StandsAt (setTable disk connection table) path connection := by
  obtain ⟨old, hold⟩ := id h
  have same := Disk.walk_emptied (Database.setTable disk connection table) true path
  rw [h.emptied_setTable table, Disk.walk_emptied, hold] at same
  -- the walk comes to the same place, and there is a table
  rcases hwalk : Disk.walk (Database.setTable disk connection table) true path with fault | ⟨names, _ | node⟩
  · rw [hwalk] at same
    cases same
  · rw [hwalk] at same
    cases same
  · rw [hwalk] at same
    obtain ⟨rfl, hnode⟩ := Disk.Spot.mk.inj (Except.ok.inj same)
    cases node with
    | database found => exact ⟨found, hwalk⟩
    | _ => cases Option.some.inj hnode

end StandsAt

/-- The table that is set last stays. -/
theorem setTable_setTable (disk : Disk) (connection : Connection) (first table : Store) :
    setTable (setTable disk connection first) connection table = setTable disk connection table :=
  Node.put_put disk _ _ connection

/-! ## Opening -/

/-- What is put leaves the root of a disk a directory only if it was one. -/
theorem isDirectory_of_put {disk new : Node} {place : List Text} (hnew : new.isDirectory = false)
    (h : (disk.put place new).isDirectory = true) : disk.isDirectory = true := by
  cases place with
  | nil =>
    rw [Node.put, hnew] at h
    cases h
  | cons name rest =>
    cases disk with
    | directory entries => rfl
    | _ => cases h

/-- A database that has been opened has a table. -/
theorem exists_table_of_openAt {opened : Disk} (hroot : Node.isDirectory opened = true)
    (h : openAt disk path = .ok (opened, connection)) :
    ∃ table, opened.find? connection = some (.database table) := by
  unfold openAt at h
  split at h
  · cases h
  · next names node hwalk =>
    split at h
    -- nothing is there yet, and the table is put into a directory
    · obtain ⟨rfl, rfl⟩ := Prod.mk.inj (Except.ok.inj h)
      have root := isDirectory_of_put (show (Node.database .empty).isDirectory = false from rfl) hroot
      obtain ⟨front, name, entries, rfl, hfront⟩ : Disk.IsInDirectory disk names := by
        cases disk with
        | directory all => exact Disk.isInDirectory_of_walk ⟨all, rfl⟩ hwalk
        | _ => cases root
      exact ⟨_, Node.find?_put_concat hfront name _⟩
    · obtain ⟨rfl, rfl⟩ := Prod.mk.inj (Except.ok.inj h)
      exact ⟨_, Node.find?_put_self (Disk.walkFrom_eq_some_iff.1 hwalk).find? _⟩
    · cases h
    · obtain ⟨rfl, rfl⟩ := Prod.mk.inj (Except.ok.inj h)
      exact ⟨_, (Disk.walkFrom_eq_some_iff.1 hwalk).find?⟩
    · cases h

/-- The place of a database that has been opened holds a table, which was there or is made. -/
theorem exists_table_of_connect {opened : Disk} (hroot : Node.isDirectory opened = true)
    (h : connect disk path = (opened, .ok connection)) :
    ∃ table, opened.find? connection = some (.database table) := by
  unfold connect at h
  split at h
  · cases h
  · split at h
    · cases h
    · split at h
      · cases h
      · split at h
        · next final place hopen =>
          obtain ⟨rfl, hplace⟩ := Prod.mk.inj h
          obtain rfl := Except.ok.inj hplace
          exact exists_table_of_openAt hroot hopen
        · cases h

/-- A database that is there is opened, and nothing is changed by that. -/
theorem StandsAt.connect_eq (hdisk : disk.isWellFormed = true) {place : Path} {name : Text}
    (hname : name ≠ Path.above) (h : StandsAt disk (place.child name) connection) :
    connect disk (place.child name) = (disk, .ok connection) := by
  obtain ⟨table, hwalk⟩ := h
  have walks := Disk.walkFrom_eq_some_iff.1 hwalk
  have names := walks.isName hdisk
  obtain ⟨mid, entries, hmid⟩ := walks.exists_directory hname
  have parent : (place.child name).parent = place := by
    rw [Path.parent, Path.child, List.dropLast_concat]
  have directory : Disk.isDirectory disk place = true := by
    rw [Disk.isDirectory, Disk.look_eq_ok_iff.2 ⟨mid, hmid⟩]
    rfl
  have sound : (place.child name).isSound = true := Disk.isSound_of_isName names
  have above : place.isSound = true :=
    Disk.isSound_of_isName fun other hother => names other (List.mem_append_left _ hother)
  rw [connect, parent, Disk.refusal?_eq_none_iff.2 above]
  dsimp only
  rw [Disk.ensureDirectories_of_isDirectory directory]
  dsimp only
  rw [Disk.refusal?_eq_none_iff.2 sound]
  dsimp only
  rw [openAt, hwalk]

end Database

end SourceAtlas
