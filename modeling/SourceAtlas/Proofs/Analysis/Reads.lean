import SourceAtlas.Proofs.Analysis.Findings
import SourceAtlas.Proofs.Database.Seen
import SourceAtlas.Proofs.Scan.Contents

/-!
What the analysis of a directory reads. Of all the files on a disk it reads the list of patterns and the files that
its scan finds, each where its path leads. On disks that are alike but for contents, and on which these files hold the
same, it finds the same, answers the same and leaves the same.

Main statements: `AreAlike.scan_eq`, `directory_eq_of_alike`.
-/

namespace SourceAtlas

/-- Files that are alike but for sizes are the same if those with the same path have the same size. -/
theorem FoundFile.list_ext_of_bare_eq {files others : List FoundFile}
    (h : files.map FoundFile.bare = others.map FoundFile.bare)
    (hsize : ∀ f ∈ files, ∀ g ∈ others, f.path = g.path → f.size = g.size) : files = others := by
  induction files generalizing others with
  | nil => exact (List.map_eq_nil_iff.1 h.symm).symm
  | cons f rest ih =>
    cases others with
    | nil => cases h
    | cons g more =>
      obtain ⟨hbare, hrest⟩ := List.cons.inj h
      have hpath : f.path = g.path := (FoundFile.mk.inj hbare).1
      have first : f = g := by
        rw [FoundFile.mk.injEq]
        exact ⟨hpath, hsize f List.mem_cons_self g List.mem_cons_self hpath⟩
      rw [first, ih hrest fun a ha b hb => hsize a (List.mem_cons_of_mem _ ha) b (List.mem_cons_of_mem _ hb)]

/-- Listings that are alike but for sizes are the same if files with the same path have the same size. -/
theorem Listing.ext_of_bare_eq {a b : Listing} (h : a.bare = b.bare)
    (hsize : ∀ f ∈ a.files, ∀ g ∈ b.files, f.path = g.path → f.size = g.size) : a = b := by
  obtain ⟨files, ignored, failures⟩ := a
  obtain ⟨others, ignored', failures'⟩ := b
  obtain ⟨hfiles, rfl, rfl⟩ := Listing.mk.inj h
  exact congrArg (fun files => (⟨files, ignored, failures⟩ : Listing)) (FoundFile.list_ext_of_bare_eq hfiles hsize)

namespace Scan

variable {disk other : Disk} {exclusions : Exclusions} {root : Path} {place : List Text} {path : Path}
  {content : Bytes} {listing found : Listing}

/-! ## Files that are read -/

/-- The paths of the files that are read of a directory: that of the list of patterns, and those that a scan finds. -/
inductive Reads (disk : Disk) (exclusions : Exclusions) (root : Path) : Path → Prop
  | patterns {once real : Path} (hroot : GoesOver disk root once real) :
      Reads disk exclusions root (real.child ".gitignore")
  | found {listing : Listing} {f : FoundFile} (hscan : scan disk exclusions root = .ok listing)
      (hf : f ∈ listing.files) : Reads disk exclusions root f.path

/-- A file that is read of a directory stands at a place, to which links may lead. -/
def ReadsAt (disk : Disk) (exclusions : Exclusions) (root : Path) (place : List Text) : Prop :=
  ∃ path real, Reads disk exclusions root path ∧ Disk.resolve disk path = .ok real ∧ place = real.parts

/-- Disks that are alike but for contents, and on which the files that are read of a directory hold the same. -/
structure AreAlike (disk other : Disk) (exclusions : Exclusions) (root : Path) : Prop where
  wellFormed : disk.isWellFormed = true
  bare_eq : disk.bare = other.bare
  file_eq : ∀ {place content}, ReadsAt disk exclusions root place → disk.find? place = some (.file content) →
    other.find? place = some (.file content)

namespace AreAlike

variable (h : AreAlike disk other exclusions root)

include h

/-- The other disk is well formed as well. -/
theorem wellFormed_other : other.isWellFormed = true := by
  rw [← Node.isWellFormed_bare, ← h.bare_eq, Node.isWellFormed_bare]
  exact h.wellFormed

/-- What is read where a path leads is the same. -/
theorem look_eq_ok (hpath : Reads disk exclusions root path) (hlook : Disk.look disk path = .ok (.file content)) :
    Disk.look other path = .ok (.file content) := by
  obtain ⟨real, hreal, hfind, -⟩ := Disk.exists_resolve_of_look h.wellFormed hlook
  obtain ⟨node, hnode, hbare⟩ := Disk.exists_look_of_bare_eq h.bare_eq.symm hlook
  obtain ⟨there, hthere, hstands, -⟩ := Disk.exists_resolve_of_look h.wellFormed_other hnode
  -- links lead to one place on both disks
  rw [← (Disk.sameWays_of_bare_eq h.bare_eq).resolve_eq, hreal] at hthere
  obtain rfl := Except.ok.inj hthere
  rw [h.file_eq ⟨path, real, hpath, hreal, rfl⟩ hfind] at hstands
  rw [hnode, ← Option.some.inj hstands]

/-- A file that is read is the same on both disks, or something else is alike where its path leads, or it leads
nowhere for the same reason. -/
theorem look_cases (hpath : Reads disk exclusions root path) :
    (∃ content, Disk.look disk path = .ok (.file content) ∧ Disk.look other path = .ok (.file content))
      ∨ (∃ node found, Disk.look disk path = .ok node ∧ Disk.look other path = .ok found ∧ node.bare = found.bare
        ∧ ∀ content, node ≠ .file content)
      ∨ ∃ fault, Disk.look disk path = .error fault ∧ Disk.look other path = .error fault := by
  have bare : ∀ d : Disk, Disk.look d.bare path = (Disk.look d path).map Node.bare :=
    fun d => Disk.look_mapContents _ _ d path
  have same := bare disk
  rw [h.bare_eq, bare other] at same
  cases hlook : Disk.look disk path with
  | error fault =>
    rw [hlook] at same
    cases hother : Disk.look other path with
    | error found =>
      rw [hother] at same
      exact .inr (.inr ⟨fault, rfl, congrArg Except.error (Except.error.inj same)⟩)
    | ok found =>
      rw [hother] at same
      cases same
  | ok node =>
    rw [hlook] at same
    obtain ⟨found, hother, hbare⟩ := map_eq_ok_iff.1 same
    by_cases hfile : ∃ content, node = .file content
    · obtain ⟨content, rfl⟩ := hfile
      exact .inl ⟨content, rfl, h.look_eq_ok hpath hlook⟩
    · exact .inr (.inl ⟨node, found, rfl, hother, hbare.symm, fun content hcontent => hfile ⟨content, hcontent⟩⟩)

/-- Each file that is read holds the same. -/
theorem read_eq (hpath : Reads disk exclusions root path) : Disk.read disk path = Disk.read other path := by
  unfold Disk.read
  rcases h.look_cases hpath with ⟨content, hlook, hother⟩ | ⟨node, found, hlook, hother, hbare, hfile⟩
    | ⟨fault, hlook, hother⟩
  · rw [hlook, hother]
  · rw [hlook, hother]
    cases node with
    | file content => exact absurd rfl (hfile content)
    | _ =>
      cases found with
      | _ => first | rfl | cases hbare
  · rw [hlook, hother]

/-- So does the list of patterns. -/
theorem rules_eq {once real : Path} (hroot : GoesOver disk root once real) :
    rules disk exclusions real = rules other exclusions real := by
  have same : gitignore? disk real = gitignore? other real := by
    unfold gitignore?
    rcases h.look_cases (.patterns hroot) with ⟨content, hlook, hother⟩
      | ⟨node, found, hlook, hother, hbare, hfile⟩ | ⟨fault, hlook, hother⟩
    · rw [hlook, hother]
    · rw [hlook, hother]
      cases node with
      | file content => exact absurd rfl (hfile content)
      | _ =>
        cases found with
        | _ => first | rfl | cases hbare
    · rw [hlook, hother]
  rw [rules, rules, same]

/-! ## Scans -/

/-- A scan goes over the same directory. -/
theorem goesOver {once real : Path} (hroot : GoesOver disk root once real) : GoesOver other root once real :=
  hroot.of_sameWays (Disk.sameWays_of_bare_eq h.bare_eq)

/-- A file that is found on both disks has the same size on them. -/
theorem size_eq (hscan : scan disk exclusions root = .ok listing) (hother : scan other exclusions root = .ok found)
    {f g : FoundFile} (hf : f ∈ listing.files) (hg : g ∈ found.files) (hpath : f.path = g.path) : f.size = g.size := by
  obtain ⟨once, real, hroot⟩ := exists_goesOver_of_scan hscan
  obtain ⟨place, hplace⟩ := exists_isPlacedAt_of_mem h.wellFormed hroot hscan hf
  obtain ⟨there, hthere⟩ := exists_isPlacedAt_of_mem h.wellFormed_other (h.goesOver hroot) hother hg
  -- both stand at one place
  have same := hthere.resolve_eq
  rw [← hpath, ← (Disk.sameWays_of_bare_eq h.bare_eq).resolve_eq, hplace.resolve_eq] at same
  obtain rfl := Except.ok.inj same
  obtain ⟨node, hnode, -, hsize⟩ := hplace.regular
  obtain ⟨stands, hstands, -, hsize'⟩ := hthere.regular
  rw [← hsize, ← hsize']
  cases node with
  | file content =>
    rw [h.file_eq ⟨f.path, place, .found hscan hf, hplace.resolve_eq, rfl⟩ hnode] at hstands
    rw [← Option.some.inj hstands]
  | _ =>
    obtain ⟨alike, halike, hbare⟩ := Node.exists_find?_of_bare_eq h.bare_eq hstands
    obtain rfl := Option.some.inj (hnode.symm.trans halike)
    cases stands with
    | _ => first | rfl | cases hbare

/-- Scans find the same. -/
theorem scan_eq : scan disk exclusions root = scan other exclusions root := by
  have same : (scan disk exclusions root).map Listing.bare = (scan other exclusions root).map Listing.bare :=
    scan_bare_eq root h.bare_eq fun once real hroot => h.rules_eq hroot
  cases hscan : scan disk exclusions root with
  | error fault =>
    rw [hscan] at same
    cases hother : scan other exclusions root with
    | error found =>
      rw [hother] at same
      exact congrArg Except.error (Except.error.inj same)
    | ok found =>
      rw [hother] at same
      cases same
  | ok listing =>
    rw [hscan] at same
    obtain ⟨found, hother, hbare⟩ := map_eq_ok_iff.1 same.symm
    rw [hother]
    refine congrArg Except.ok (Listing.ext_of_bare_eq hbare.symm fun f hf g hg hpath => ?_)
    exact h.size_eq hscan hother hf hg hpath

end AreAlike

end Scan

namespace Analysis

variable {read other : Path → Except Disk.Failure Bytes} {policy : Policy}

/-! ## Runs -/

/-- Handling a file depends on what is read of it. -/
theorem visit_congr {target : Target} (h : read target.path = other target.path) (s : Store) :
    visit read policy s target = visit other policy s target := by
  have same : content read target.path = content other target.path := by rw [content, content, h]
  rw [visit, visit, same]

/-- Handling files depends on what is read of them. -/
theorem visitAll_congr {list : List Target} (h : ∀ t ∈ list, read t.path = other t.path) (s : Store) :
    visitAll read policy s list = visitAll other policy s list := by
  induction list generalizing s with
  | nil => rfl
  | cons t rest ih =>
    rw [List.forall_mem_cons] at h
    rw [visitAll, visitAll, visit_congr h.1]
    split
    · rfl
    · rw [ih h.2]

/-- So does handling batches. -/
theorem visitBatches_congr {list : List (List Target)} (h : ∀ batch ∈ list, ∀ t ∈ batch, read t.path = other t.path)
    (s : Store) : visitBatches read policy s list = visitBatches other policy s list := by
  induction list generalizing s with
  | nil => rfl
  | cons batch rest ih =>
    rw [List.forall_mem_cons] at h
    rw [visitBatches, visitBatches, visitAll_congr h.1]
    dsimp only
    split
    · rfl
    · rw [ih h.2]

/-- A run depends on what is read of its files. -/
theorem runFrom_congr {size : Nat} {root : Path} {paths : List Path}
    (h : ∀ t ∈ targets root paths, read t.path = other t.path) (s : Store) :
    runFrom read policy size root paths s = runFrom other policy size root paths s := by
  have same : visitBatches read policy s (batches size (targets root paths))
      = visitBatches other policy s (batches size (targets root paths)) :=
    visitBatches_congr (fun batch hbatch t ht => h t (mem_of_mem_batchesFrom hbatch ht)) s
  rw [runFrom, runFrom, same]

/-! ## Directories -/

/-- The analysis of a directory finds the same, answers the same and leaves the same on disks on which the files that
it reads hold the same. -/
theorem directory_eq_of_alike {disk other : Disk} {exclusions : Scan.Exclusions} {root : Path}
    (h : Scan.AreAlike disk other exclusions root) (size : Int) (s : Store) :
    directory disk exclusions size root s = directory other exclusions size root s := by
  rw [directory, directory, ← h.scan_eq]
  cases hscan : Scan.scan disk exclusions root with
  | error fault => rfl
  | ok listing =>
    obtain ⟨once, real, hroot, below, -⟩ := Scan.scan_spec h.wellFormed hscan
    have ran : run disk .excludeImports size root (listing.files.map FoundFile.path) s
        = run other .excludeImports size root (listing.files.map FoundFile.path) s := by
      rw [run, run, hroot.resolve_eq, (h.goesOver hroot).resolve_eq]
      split
      · rfl
      · refine runFrom_congr (fun t ht => ?_) s
        obtain ⟨path, hpath, rfl⟩ := List.mem_map.1 ht
        obtain ⟨f, hf, rfl⟩ := List.mem_map.1 hpath
        obtain ⟨-, hseen, -⟩ := ofPath_of_scan h.wellFormed hroot hscan hf (below f hf)
        rw [hseen]
        exact h.read_eq (.found hscan hf)
    dsimp only
    rw [ran]

end Analysis

/-! ## Disks with an open database -/

/-- Databases read alike in two runs wherever a file is read of a directory while one of them is open. -/
def Scan.AgreeOnReads (disk : Disk) (connection : Database.Connection) (exclusions : Exclusions) (root : Path)
    (a b : Database.Storage) : Prop :=
  ∀ place, ReadsAt (Database.seen disk connection a) exclusions root place → a place = b place

namespace Scan.AgreeOnReads

variable {disk : Disk} {connection : Database.Connection} {exclusions : Exclusions} {root : Path}
  {a b : Database.Storage}

theorem refl : AgreeOnReads disk connection exclusions root a a := fun _ _ => rfl

/-- So they do if nothing that is read belongs to the open database, and all others read alike. -/
theorem of_not_readsAt
    (hapart : ∀ place ∈ Database.files connection,
      ¬ ReadsAt (Database.seen disk connection a) exclusions root place)
    (hothers : ∀ place, place ∉ Database.files connection → a place = b place) :
    AgreeOnReads disk connection exclusions root a b :=
  fun place hreads => hothers place fun hmem => hapart place hmem hreads

variable (h : AgreeOnReads disk connection exclusions root a b) (hdisk : disk.isWellFormed = true) {node : Node}
  (hfind : disk.find? connection = some node)

include h hdisk hfind

/-- Then the disk is seen alike in both runs. -/
theorem areAlike :
    AreAlike (Database.seen disk connection a) (Database.seen disk connection b) exclusions root where
  wellFormed := Database.isWellFormed_seen hdisk hfind a
  bare_eq := (Database.readsByPlace_seen disk connection).bare_eq a b
  file_eq hreads := (Database.readsByPlace_seen disk connection).file_eq (h _ hreads)

/-- And the analysis of the directory comes to the same. -/
theorem directory_eq (size : Int) (s : Store) :
    Analysis.directory (Database.seen disk connection a) exclusions size root s
      = Analysis.directory (Database.seen disk connection b) exclusions size root s :=
  Analysis.directory_eq_of_alike (h.areAlike hdisk hfind) size s

end Scan.AgreeOnReads

end SourceAtlas
