import SourceAtlas.Proofs.Analysis.Clearing
import SourceAtlas.Proofs.Analysis.Findings
import SourceAtlas.Proofs.Store.Locality

/-!
The analysis of a directory as an operation on the store. It reads and writes the rows of the files that it finds
and no others, whether it is completed or fails, so that it is local to the real path of the directory.

Main statement: `isLocal_directory`.
-/

namespace SourceAtlas.Analysis

open Store (IsLocal)

variable {policy : Policy} {read : Path → Except Disk.Failure Bytes} {region : Text → Prop}

/-! ## One file -/

/-- Looking a file up is local to any region that its key is in. -/
theorem isLocal_get {path : Text} (hpath : region (Store.storageKey path)) :
    IsLocal region fun s => (s.get path, s) where
  frame := fun _ _ _ => rfl
  answer_eq := fun _ _ hst => Store.get_eq_of_row?_eq (hst _ hpath)
  agree := fun _ _ hst => hst

/-- Handling one file as an operation on the store, which a failure leaves as it is. -/
def attempt (read : Path → Except Disk.Failure Bytes) (policy : Policy) (target : Target) (s : Store) :
    Except Fault Visit × Store :=
  match visit read policy s target with
  | .error fault => (.error fault, s)
  | .ok (v, after) => (.ok v, after)

/-- What is done with a file that has been read, once it has been looked up. -/
def settle (policy : Policy) (target : Target) (source fingerprint : Text) (finding : Store.Finding) (s : Store) :
    Except Fault Visit × Store :=
  match answerTo fingerprint finding with
  | (some chunks, answer) => (.ok ⟨target.key, target.shown.toText, answer, chunks⟩, s)
  | (none, answer) =>
    (.ok ⟨target.key, target.shown.toText, answer, extract policy target.shown source⟩,
      s.put target.key fingerprint (extract policy target.shown source))

theorem attempt_of_content {target : Target} {source fingerprint : Text}
    (h : content read target.path = .ok (source, fingerprint)) (s : Store) :
    attempt read policy target s = settle policy target source fingerprint (s.get target.key) s := by
  unfold attempt settle
  rcases hanswer : answerTo fingerprint (s.get target.key) with ⟨_ | chunks, answer⟩
  · rw [visit_of_miss h hanswer]
  · rw [visit_of_hit h hanswer]

theorem isLocal_attempt {target : Target} (htarget : region (Store.storageKey target.key)) :
    IsLocal region (attempt read policy target) := by
  cases hcontent : content read target.path with
  | error fault =>
    apply (IsLocal.pure region (.error fault)).congr
    intro s
    rw [attempt, visit, hcontent]
    rfl
  | ok pair =>
    obtain ⟨source, fingerprint⟩ := pair
    apply IsLocal.congr _ (attempt_of_content hcontent)
    apply (isLocal_get htarget).bind
    intro finding
    unfold settle
    rcases answerTo fingerprint finding with ⟨_ | chunks, answer⟩
    · exact (Store.isLocal_put htarget _ _).map fun _ => _
    · exact .pure region _

/-! ## Runs -/

/-- What a part of a run answers, and the store that it leaves. -/
def Progress.toPair (p : Progress) : (List Visit × Option Fault) × Store := ((p.visits, p.fault), p.store)

/-- Handling files one by one is local to any region that their keys are in. -/
theorem isLocal_visitAll {list : List Target} (h : ∀ t ∈ list, region (Store.storageKey t.key)) :
    IsLocal region fun s => (visitAll read policy s list).toPair := by
  induction list with
  | nil => exact IsLocal.pure region ([], none)
  | cons t rest ih =>
    rw [List.forall_mem_cons] at h
    -- a failure ends the run, and a visit is followed by those of the other files
    let more : Except Fault Visit → Store → (List Visit × Option Fault) × Store
      | .error fault => fun s => (([], some fault), s)
      | .ok v => fun s =>
        ((v :: (visitAll read policy s rest).visits, (visitAll read policy s rest).fault),
          (visitAll read policy s rest).store)
    have hmore : ∀ a, IsLocal region (more a) := by
      intro a
      cases a with
      | error fault => exact .pure region _
      | ok v => exact (ih h.2).map fun pair => (v :: pair.1, pair.2)
    apply ((isLocal_attempt h.1).bind hmore).congr
    intro s
    rw [visitAll, attempt]
    rcases visit read policy s t with fault | ⟨v, after⟩
    · rfl
    · rfl

/-- So is handling batches one after another. -/
theorem isLocal_visitBatches {list : List (List Target)}
    (h : ∀ batch ∈ list, ∀ t ∈ batch, region (Store.storageKey t.key)) :
    IsLocal region fun s => (visitBatches read policy s list).toPair := by
  induction list with
  | nil => exact IsLocal.pure region ([], none)
  | cons batch rest ih =>
    rw [List.forall_mem_cons] at h
    let more : List Visit × Option Fault → Store → (List Visit × Option Fault) × Store
      | (visits, some fault) => fun s => ((visits, some fault), s)
      | (visits, none) => fun s =>
        ((visits ++ (visitBatches read policy s rest).visits, (visitBatches read policy s rest).fault),
          (visitBatches read policy s rest).store)
    have hmore : ∀ a, IsLocal region (more a) := by
      rintro ⟨visits, _ | fault⟩
      · exact (ih h.2).map fun pair => (visits ++ pair.1, pair.2)
      · exact .pure region _
    apply ((isLocal_visitAll h.1).bind hmore).congr
    intro s
    rw [visitBatches]
    rcases visitAll read policy s batch with ⟨after, visits, _ | fault⟩
    · rfl
    · rfl

/-- What an outcome shows, and the store that it leaves. -/
def Outcome.toPair (o : Outcome) : (List Visit × Except Fault (Findings × Statistics)) × Store :=
  ((o.visits, o.result), o.store)

/-- A run is local to any region that the keys of its files are in. -/
theorem isLocal_runFrom {size : Nat} {root : Path} {paths : List Path}
    (h : ∀ t ∈ targets root paths, region (Store.storageKey t.key)) :
    IsLocal region fun s => (runFrom read policy size root paths s).toPair := by
  let result : List Visit × Option Fault → List Visit × Except Fault (Findings × Statistics)
    | (visits, some fault) => (visits, .error fault)
    | (visits, none) => (visits, .ok (collect visits, statistics paths.length visits))
  have visited : IsLocal region fun s =>
      (visitBatches read policy s (batches size (targets root paths))).toPair := by
    apply isLocal_visitBatches
    intro batch hbatch t ht
    exact h t (mem_of_mem_batchesFrom hbatch ht)
  apply (visited.map result).congr
  intro s
  rw [runFrom]
  rcases visitBatches read policy s (batches size (targets root paths)) with ⟨after, visits, _ | fault⟩
  · rfl
  · rfl

/-! ## Directories -/

/-- The keys of the files that a scan finds lie in the directory that it goes over. -/
theorem inDirectory_of_mem_targets {disk : Disk} (hdisk : disk.isWellFormed = true) {exclusions : Scan.Exclusions}
    {root once real : Path} (hroot : Scan.GoesOver disk root once real) {listing : Listing}
    (hscan : Scan.scan disk exclusions root = .ok listing) :
    ∀ t ∈ targets once (listing.files.map FoundFile.path),
      Store.InDirectory (Store.storageKey (Store.directoryStem real.toText)) (Store.storageKey t.key) := by
  obtain ⟨_, _, hagain, below, -⟩ := Scan.scan_spec hdisk hscan
  obtain rfl := Except.ok.inj (hroot.resolve_eq.symm.trans hagain.resolve_eq)
  obtain rfl := Except.ok.inj (hroot.again.symm.trans hagain.again)
  have anchor := (hroot.exists_directory hdisk).1
  intro t ht
  obtain ⟨path, hpath, rfl⟩ := List.mem_map.1 ht
  obtain ⟨f, hf, rfl⟩ := List.mem_map.1 hpath
  obtain ⟨-, hseen, -⟩ := ofPath_of_scan hdisk hroot hscan hf (below f hf)
  obtain ⟨names, hne, -, hpath⟩ := below f hf
  rw [anchor] at hpath
  rw [hseen, Target.key, hpath]
  exact (Path.inDirectory_toText anchor hne).directoryStem.storageKey

/-- What the outcome of an analysis shows, and the store that it leaves. -/
def DirectoryOutcome.toPair (o : DirectoryOutcome) :
    (Option Listing × List Visit × Except DirectoryFault (Findings × Statistics)) × Store :=
  ((o.listing, o.visits, o.result), o.store)

/-- The analysis of a directory is local to what lies in the directory that its scan goes over. If there is none,
nothing is read or written. -/
theorem isLocal_directory {disk : Disk} (hdisk : disk.isWellFormed = true) (exclusions : Scan.Exclusions)
    (size : Int) (root : Path)
    (hregion : ∀ once real, Scan.GoesOver disk root once real → ∀ key,
      Store.InDirectory (Store.storageKey (Store.directoryStem real.toText)) key → region key) :
    IsLocal region fun s => (directory disk exclusions size root s).toPair := by
  cases hscan : Scan.scan disk exclusions root with
  | error fault =>
    apply (IsLocal.pure region (none, [], .error (.scan fault))).congr
    intro s
    rw [directory, hscan]
    rfl
  | ok listing =>
    by_cases hsize : size < 1
    · apply (IsLocal.pure region (some listing, [], .error (.run (.batchSize size)))).congr
      intro s
      unfold directory run
      rw [hscan]
      dsimp only
      rw [if_pos hsize]
      rfl
    · obtain ⟨once, real, hroot⟩ := Scan.exists_goesOver_of_scan hscan
      have ran : IsLocal region fun s =>
          (runFrom (Disk.read disk) .excludeImports size.toNat once (listing.files.map FoundFile.path) s).toPair := by
        apply isLocal_runFrom
        intro t ht
        exact hregion once real hroot _ (inDirectory_of_mem_targets hdisk hroot hscan t ht)
      apply (ran.map fun pair => (some listing, pair.1, pair.2.mapError .run)).congr
      intro s
      rw [directory_of_scan hscan hsize hroot.resolve_eq]
      rfl

end SourceAtlas.Analysis
