import SourceAtlas.Proofs.Scan.Monotone

/-!
What scans see of contents. Once the rules are read, contents tell nothing but the sizes of files: on disks that are
alike but for contents, the same rules find the same files in the same order, count the same entries as ignored and
meet the same failures.

Main statement: `scan_bare_eq`.
-/

namespace SourceAtlas

/-- A directory is bare when its entries are. -/
theorem Node.bare_directory (entries : List (Text × Node)) : (Node.directory entries).bare
    = .directory (mapContentsOf (fun _ => []) (fun _ => .empty) entries) := rfl

/-! ## Listings -/

/-- A file that has been found, without its size. -/
def FoundFile.bare (f : FoundFile) : FoundFile := ⟨f.path, 0⟩

namespace Listing

/-- A listing without the sizes of files. -/
def bare (l : Listing) : Listing := { l with files := l.files.map FoundFile.bare }

/-- Listings are bare one by one. -/
theorem bare_append (a b : Listing) : (a.append b).bare = a.bare.append b.bare := by
  unfold bare append
  rw [List.map_append]

/-- So are several of them. -/
theorem bare_concat (listings : List Listing) : (concat listings).bare = concat (listings.map bare) := by
  induction listings with
  | nil => rfl
  | cons a rest ih => rw [concat, bare_append, ih, List.map_cons, concat]

/-- Listings that are alike but for sizes have the same paths, in the same order. -/
theorem paths_eq_of_bare_eq {a b : Listing} (h : a.bare = b.bare) :
    a.files.map FoundFile.path = b.files.map FoundFile.path := by
  have paths : ∀ l : Listing, l.bare.files.map FoundFile.path = l.files.map FoundFile.path := fun l => List.map_map
  rw [← paths, h, paths]

end Listing

namespace Scan

/-! ## Directories -/

/-- An entry without the sizes of files. -/
def Found.bare (e : Found) : Found := ⟨e.name, e.itself.bare, e.inside.bare⟩

/-- Sizes do not matter for the order of names. -/
theorem insertByName_bare (f : Found) (found : List Found) :
    insertByName f.bare (found.map Found.bare) = (insertByName f found).map Found.bare := by
  induction found with
  | nil => rfl
  | cons g rest ih =>
    rw [List.map_cons, insertByName, insertByName, ih]
    show (if f.name < g.name then _ else _) = _
    split
    · rfl
    · rfl

/-- So what has been sorted is the same but for sizes. -/
theorem sortByName_bare (found : List Found) :
    sortByName (found.map Found.bare) = (sortByName found).map Found.bare := by
  induction found with
  | nil => rfl
  | cons f rest ih => rw [List.map_cons, sortByName, sortByName, ih, insertByName_bare]

/-- So is what is assembled of it. -/
theorem assemble_bare (found : List Found) : assemble (found.map Found.bare) = (assemble found).bare := by
  unfold assemble
  rw [sortByName_bare, Listing.bare_append, Listing.bare_concat, Listing.bare_concat]
  simp only [List.map_map]
  rfl

variable (disk : Disk) (spec : Ignore.Spec)

/-- A file is listed alike whatever its size. -/
theorem file_bare (path : Path) (relative : Text) (size : Nat) :
    file spec path relative 0 = (file spec path relative size).bare := by
  unfold file
  split
  · rfl
  · rfl

/-- A link is listed alike whatever its file holds. -/
theorem link_bare (path : Path) (relative : Text) :
    link disk.bare spec path relative = (link disk spec path relative).bare := by
  have same : Disk.look disk.bare path = (Disk.look disk path).map Node.bare := Disk.look_mapContents _ _ disk path
  unfold link
  rw [same]
  cases Disk.look disk path with
  | error fault => cases fault with
    | _ => rfl
  | ok node => cases node with
    | file content => exact file_bare spec path relative _
    | database table => exact file_bare spec path relative _
    | link target => exact file_bare spec path relative _
    | _ => rfl

mutual

/-- Of every entry the same is found but for sizes. -/
theorem entry_bare (path : Path) (relative name : Text) (node : Node) :
    entry disk.bare spec path relative name node.bare = (entry disk spec path relative name node).bare := by
  match node with
  | .directory entries =>
    rw [Node.bare_directory, entry, entry, allEntries_bare path (relative ++ "/") entries, assemble_bare]
    split
    · rfl
    · rfl
  | .file content =>
    rw [entry, Found.bare, ← file_bare]
    rfl
  | .database table =>
    rw [entry, Found.bare, ← file_bare]
    rfl
  | .link target =>
    rw [entry, Found.bare, ← link_bare]
    rfl
  | .special => rfl

theorem allEntries_bare (directory : Path) (lead : Text) (entries : List (Text × Node)) :
    allEntries disk.bare spec directory lead (Node.mapContentsOf (fun _ => []) (fun _ => .empty) entries)
      = (allEntries disk spec directory lead entries).map Found.bare := by
  match entries with
  | [] => rfl
  | (name, node) :: rest =>
    have first := entry_bare (directory.child name) (lead ++ name) name node
    rw [Node.mapContentsOf, allEntries, allEntries, List.map_cons, ← allEntries_bare directory lead rest, ← first]
    rfl

end

/-- So it is of a whole directory. -/
theorem directory_bare (root : Path) (node : Node) :
    directory disk.bare spec root node.bare = (directory disk spec root node).bare := by
  cases node with
  | directory entries =>
    rw [Node.bare_directory, directory, directory, allEntries_bare, assemble_bare]
  | _ => rfl

/-! ## Whole scans -/

variable {before after : Disk} {exclusions : Exclusions}

/-- The listing of a directory without sizes, on a disk without contents. -/
theorem directory_look_bare (root : Path) :
    (directory disk spec root ((Disk.look disk root).toOption.getD .special)).bare
      = directory disk.bare spec root ((Disk.look disk.bare root).toOption.getD .special) := by
  have same : Disk.look disk.bare root = (Disk.look disk root).map Node.bare := Disk.look_mapContents _ _ disk root
  rw [← directory_bare, same]
  cases Disk.look disk root with
  | _ => rfl

theorem listing_bare_eq {root : Path} (halike : before.bare = after.bare)
    (hrules : rules before exclusions root = rules after exclusions root) :
    (listing before exclusions root).map Listing.bare = (listing after exclusions root).map Listing.bare := by
  unfold listing
  rw [hrules]
  cases rules after exclusions root with
  | error fault => rfl
  | ok spec =>
    refine congrArg Except.ok ?_
    rw [directory_look_bare, directory_look_bare, halike]

theorem scanQuietly_bare_eq (root : Path) (halike : before.bare = after.bare)
    (hrules : ∀ real, Disk.resolve before root = .ok real →
      rules before exclusions real = rules after exclusions real) :
    (scanQuietly before exclusions root).map Listing.bare = (scanQuietly after exclusions root).map Listing.bare := by
  rw [scanQuietly, scanQuietly, realRoot, realRoot, ← (Disk.sameWays_of_bare_eq halike).resolve_eq root]
  cases hreal : Disk.resolve before root with
  | error fault => rfl
  | ok real => exact listing_bare_eq halike (hrules real hreal)

/-- On disks that are alike but for contents, the same rules find the same but for sizes. -/
theorem scan_bare_eq (root : Path) (halike : before.bare = after.bare)
    (hrules : ∀ once real, GoesOver before root once real →
      rules before exclusions real = rules after exclusions real) :
    (scan before exclusions root).map Listing.bare = (scan after exclusions root).map Listing.bare := by
  have ways := Disk.sameWays_of_bare_eq halike
  rw [scan, scan, realRoot, realRoot, ← ways.resolve_eq root]
  cases honce : Disk.resolve before root with
  | error fault => rfl
  | ok once =>
    show Except.map _ (if Disk.isDirectory before once = true then _ else _)
      = Except.map _ (if Disk.isDirectory after once = true then _ else _)
    rw [← ways.isDirectory_eq once]
    split
    · next hthere => exact scanQuietly_bare_eq once halike fun real hreal => hrules once real ⟨honce, hthere, hreal⟩
    · rfl

end Scan

end SourceAtlas
