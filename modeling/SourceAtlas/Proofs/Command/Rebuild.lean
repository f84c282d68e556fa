import SourceAtlas.Proofs.Analysis.History
import SourceAtlas.Proofs.Command.Conduct
import SourceAtlas.Proofs.Outline

/-!
Rebuilds. A rebuild of a directory clears what lies under it and maps it again. All keys of its files lie in the
stretch that is cleared, however the directory was spelt, unless a link on the way to it leads back to itself. So
nothing is answered from what the cache has held: the outline that is printed and the rows of the directory are said
by the files alone.

Main statement: `conduct_rebuild`.
-/

namespace SourceAtlas.Command

open Analysis

variable {w : World} {o : Options} {settings : Settings} {outline : Outline}
  {connection : Database.Connection} {target : Path} {listing : Listing}

/-! ## Files of a directory -/

namespace IsReady

/-- The files that are found in a directory lie below its real path. -/
theorem path_spec (h : IsReady w o settings outline connection target)
    (hscan : Scan.scan (Database.seen w.disk connection w.storage) settings.exclusions target = .ok listing)
    {f : FoundFile} (hf : f ∈ listing.files) :
    f.path.isSound = true ∧ (Target.ofPath target f.path).path = f.path
      ∧ ∃ more, more ≠ [] ∧ f.path = .ofNames (target.parts ++ more) := by
  have hdisk := h.wellFormed_seen w.storage
  have hroot := h.goesOver w.storage
  obtain ⟨_, _, hagain, below, -⟩ := Scan.scan_spec hdisk hscan
  obtain rfl := Except.ok.inj (hroot.resolve_eq.symm.trans hagain.resolve_eq)
  obtain rfl := Except.ok.inj (hroot.again.symm.trans hagain.again)
  obtain ⟨hsound, hseen, -⟩ := ofPath_of_scan hdisk hroot hscan hf (below f hf)
  obtain ⟨more, hmore, -, hpath⟩ := below f hf
  refine ⟨hsound, by rw [hseen], more, hmore, ?_⟩
  rw [hpath, h.anchor_eq]
  rfl

/-- They can be read, and lie below it as the run sees them. -/
theorem targets_spec (h : IsReady w o settings outline connection target)
    (hscan : Scan.scan (Database.seen w.disk connection w.storage) settings.exclusions target = .ok listing)
    (hreadable : ∀ f ∈ listing.files,
      ∃ bytes, Disk.read (Database.seen w.disk connection w.storage) f.path = .ok bytes) :
    ∀ t ∈ targets target (listing.files.map FoundFile.path),
      t.IsReadable (Disk.read (Database.seen w.disk connection w.storage))
        ∧ ∃ more, more ≠ [] ∧ t.path = .ofNames (target.parts ++ more) := by
  intro t ht
  obtain ⟨path, hpath, rfl⟩ := List.mem_map.1 ht
  obtain ⟨f, hf, rfl⟩ := List.mem_map.1 hpath
  obtain ⟨hsound, hpath, hbelow⟩ := h.path_spec hscan hf
  rw [Target.IsReadable, hpath]
  exact ⟨⟨hsound, hreadable f hf⟩, hbelow⟩

/-- They are stored under the keys of their paths. -/
theorem map_storageKey_targets (h : IsReady w o settings outline connection target)
    (hscan : Scan.scan (Database.seen w.disk connection w.storage) settings.exclusions target = .ok listing) :
    ((targets target (listing.files.map FoundFile.path)).map fun t => Store.storageKey t.key)
      = listing.files.map fun f => Store.storageKey f.path.toText := by
  rw [targets, List.map_map, List.map_map]
  refine List.map_congr_left fun f hf => ?_
  exact congrArg (fun p : Path => Store.storageKey p.toText) (h.path_spec hscan hf).2.1

end IsReady

/-! ## Rebuilds -/

/-- What is freshly extracted is well typed. -/
theorem wellTyped_of_mem_collect {read : Path → Except Disk.Failure Bytes} {policy : Policy}
    {list : List Target} {visits : List Visit} (h : List.Forall₂ (IsFreshVisit policy read) list visits) :
    ∀ file ∈ collect visits, ∀ c ∈ file.2, c.WellTyped := by
  intro file hfile c hc
  obtain ⟨v, hv, rfl⟩ := exists_visit_of_mem_collect hfile
  obtain ⟨t, -, source, fingerprint, -, rfl⟩ := exists_mem_of_mem_forall₂ h hv
  exact wellTyped_of_mem_extract hc

/-- Whatever table the cache holds, a rebuild of a directory of readable files with distinct keys prints the
outline of what is extracted from the files now. Under the directory it leaves one fresh row for each file, and
elsewhere the rows that were there. A clear of the directory and then a map come to the same. The runs may differ in how
databases read, but not where they read a file: none of the files is one of the cache, which changes with its table. -/
theorem conduct_rebuild (h : IsReady w o settings outline connection target) (hvoid : o.batchSize ≠ .void)
    (hsize : 1 ≤ settings.batchSize)
    (hscan : Scan.scan (Database.seen w.disk connection w.storage) settings.exclusions target = .ok listing)
    (hreadable : ∀ f ∈ listing.files,
      ∃ bytes, Disk.read (Database.seen w.disk connection w.storage) f.path = .ok bytes)
    (hkeys : (listing.files.map fun f => Store.storageKey f.path.toText).Nodup) :
    let read := Disk.read (Database.seen w.disk connection w.storage)
    let list := targets target (listing.files.map FoundFile.path)
    let stem := Store.storageKey (Store.directoryStem target.toText)
    let Reads := Scan.AgreeOnReads w.disk connection settings.exclusions target w.storage
    ∃ visits fresh text, List.Forall₂ (IsFreshVisit .excludeImports read) list visits
      ∧ HoldsFresh .excludeImports read list fresh
      ∧ outline.render (collect visits) = .ok text
      ∧ ∀ s storage again, Reads storage → Reads again →
        let start := w.withTable connection s
        let rebuilt := conduct { start with storage } o.toRebuild
        let mapped := conduct { start with disk := (conduct start o.toClear).disk, storage := again } o.toMap
        rebuilt.printed = (if text.isEmpty then .ok [] else printLine text)
          ∧ (∃ left : Store, rebuilt.disk = Database.setTable w.disk connection left
            ∧ (left.filter fun r => Store.InDirectory stem r.key) = fresh
            ∧ (left.filter fun r => ¬ Store.InDirectory stem r.key)
              = s.filter fun r => ¬ Store.InDirectory stem r.key)
          ∧ mapped.disk = rebuilt.disk ∧ mapped.printed = rebuilt.printed := by
  intro read list stem Reads
  have files := h.targets_spec hscan hreadable
  obtain ⟨visits, fresh, hvisits, hfresh, hdirectory⟩ := directory_clearUnder hsize h.anchor_eq
    (h.goesOver w.storage).resolve_eq hscan rfl (fun t ht => (files t ht).2) (fun t ht => (files t ht).1)
    ((h.map_storageKey_targets hscan).symm ▸ hkeys)
  obtain ⟨text, htext⟩ := outline.exists_render (wellTyped_of_mem_collect hvisits)
  refine ⟨visits, fresh, text, hvisits, hfresh, htext, fun s storage again hstorage hagain => ?_⟩
  intro start rebuilt mapped
  obtain ⟨hresult, hunder, hother⟩ := hdirectory s
  have table : Database.table start.disk connection = s := h.standsAt.table_setTable s
  have ready : IsReady { start with storage } o settings outline connection target :=
    (h.withTable s).withStorage storage
  -- a rebuild is a map of the cleared table, and so is what follows a clear
  have cleared : ∀ t, Database.setTable start.disk connection t = Database.setTable w.disk connection t :=
    fun t => Database.setTable_setTable _ _ _ _
  obtain ⟨hdisk, hprinted⟩ := ready.conduct_toRebuild hvoid
  rw [World.withTable, table, cleared] at hdisk hprinted
  have hclear : (conduct start o.toClear).disk
      = (w.withTable connection (s.clearUnder target.toText).1).disk := by
    rw [(h.withTable s).conduct_toClear, table]
    exact cleared _
  obtain ⟨hleft, hshown⟩ := h.conduct_withTable_toMap hvoid hstorage (s.clearUnder target.toText).1
  obtain ⟨hleft', hshown'⟩ := h.conduct_withTable_toMap hvoid hagain (s.clearUnder target.toText).1
  have mappedEq : mapped = conduct
      { w.withTable connection (s.clearUnder target.toText).1 with storage := again } o.toMap :=
    congrArg (fun disk => conduct { start with disk, storage := again } o.toMap) hclear
  have printed := hprinted.trans (hshown _ _ _ hresult htext)
  refine ⟨printed, ⟨_, hdisk.trans hleft, hunder, hother⟩, ?_, ?_⟩
  · rw [mappedEq]
    exact hleft'.trans (hdisk.trans hleft).symm
  · rw [mappedEq]
    exact (hshown' _ _ _ hresult htext).trans printed.symm

/-! ### An example -/

/-- A world with a file, a link to its directory, and a cache elsewhere. -/
@[irreducible] def linkedWorld : World :=
  { disk := .directory [("c", .directory [("cache.db", .database .empty)]), ("l", .link "p"),
      ("p", .directory [("x.py", .file (("def f(): pass\n" : Text).map fun c => UInt8.ofNat c.val))])]
    current := .ofText "/"
    environment := ⟨[("HOME", "/h")], {}⟩ }

/-- The place of its cache. -/
def linkedCache : Database.Connection := ["c", "cache.db"]

/-- A command line that calls the directory by the link. -/
def linkOptions : Options := { directory := "l/.", cacheDirectory := some "/c" }

/-- Rows of the directory and of another one that cannot be read, one of them of a file that is gone. -/
def staleTable : Store :=
  ⟨[⟨"/p/gone.py", "old", "?"⟩, ⟨"/p/x.py", "old", "?"⟩, ⟨"/q/y.py", "old", "?"⟩], by decide⟩

theorem isReady_linkedWorld : ∃ settings, settings.batchSize = 50 ∧ settings.exclusions = .standard
    ∧ IsReady linkedWorld linkOptions settings ⟨none, false⟩ linkedCache (.ofText "/p") := by
  have well : linkedWorld.disk.isWellFormed = true := by decide +kernel
  have made : (settingsOf linkedWorld linkOptions).toOption.any (fun s => s.cacheDirectory = .ofText "/c"
      ∧ s.batchSize = 50 ∧ s.exclusions.patterns = Scan.standardPatterns
      ∧ s.exclusions.useGitignore = true) = true := by decide +kernel
  have cache : (Disk.walk linkedWorld.disk true ((Path.ofText "/c").child "cache.db")).toOption.any
      (fun spot => spot.names = linkedCache
        ∧ spot.node.any Node.isDatabase = true) = true := by decide +kernel
  have target : (targetOf linkedWorld linkOptions linkedWorld.disk).toOption.any (· = .ofText "/p") = true := by
    decide +kernel
  have there : Disk.isDirectory linkedWorld.disk (.ofText "/p") = true := by decide +kernel
  have loop : ¬ Disk.MeetsLoop linkedWorld.disk (linkedWorld.current.join (.ofText linkOptions.directory)) := by
    unfold Disk.MeetsLoop
    decide +kernel
  obtain ⟨⟨place, size, patterns, gitignore⟩, hsettings, hmade⟩ := exists_eq_ok_of_any made
  obtain ⟨rfl, rfl, rfl, rfl⟩ := of_decide_eq_true hmade
  obtain ⟨spot, hwalk, hcache⟩ := exists_eq_ok_of_any cache
  obtain ⟨hnames, hnode⟩ := of_decide_eq_true hcache
  have stands : Database.StandsAt linkedWorld.disk ((Path.ofText "/c").child "cache.db") linkedCache :=
    .of_walk hwalk hnames hnode
  exact ⟨_, rfl, rfl, well, hsettings, rfl, stands, eq_ok_of_any target, there, loop⟩

/-- The disk of that world as it is seen with the cache open. -/
def linkedSeen : Disk := Database.seen linkedWorld.disk linkedCache linkedWorld.storage

theorem scan_linkedSeen : Scan.scan linkedSeen .standard (.ofText "/p") = .ok ⟨[⟨.ofText "/p/x.py", 14⟩], 0, []⟩ :=
  eq_ok_of_any (by decide +kernel)

/-- No file of the cache is read for the linked directory, so that they may read otherwise in another run. -/
theorem agreeOnReads_linkedWorld {storage : Database.Storage}
    (h : ∀ place, place ∉ Database.files linkedCache → linkedWorld.storage place = storage place) :
    Scan.AgreeOnReads linkedWorld.disk linkedCache .standard (.ofText "/p") linkedWorld.storage storage := by
  have root : Disk.resolve linkedSeen (.ofText "/p") = .ok (.ofText "/p") := eq_ok_of_any (by decide +kernel)
  have patterns : Disk.resolve linkedSeen ((Path.ofText "/p").child ".gitignore") = .ok (.ofText "/p/.gitignore") :=
    eq_ok_of_any (by decide +kernel)
  have file : Disk.resolve linkedSeen (.ofText "/p/x.py") = .ok (.ofText "/p/x.py") := eq_ok_of_any (by decide +kernel)
  refine .of_not_readsAt (fun place hplace hreads => ?_) h
  obtain ⟨path, real, hreads, hreal, rfl⟩ := hreads
  cases hreads with
  | patterns hroot =>
    obtain rfl := Except.ok.inj (root.symm.trans hroot.resolve_eq)
    obtain rfl := Except.ok.inj (root.symm.trans hroot.again)
    obtain rfl := Except.ok.inj (patterns.symm.trans hreal)
    exact absurd hplace (by decide +kernel)
  | found hscan hf =>
    obtain rfl := Except.ok.inj (scan_linkedSeen.symm.trans hscan)
    rw [List.mem_singleton.1 hf] at hreal
    obtain rfl := Except.ok.inj (file.symm.trans hreal)
    exact absurd hplace (by decide +kernel)

/-- Databases that read otherwise, as the cache does in another run. -/
def writtenStorage : Database.Storage := fun place => if place ∈ Database.files linkedCache then [0] else []

theorem agreeOnReads_writtenStorage :
    Scan.AgreeOnReads linkedWorld.disk linkedCache .standard (.ofText "/p") linkedWorld.storage writtenStorage := by
  refine agreeOnReads_linkedWorld fun place hplace => ?_
  rw [writtenStorage, if_neg hplace, linkedWorld]

/-- A rebuild that calls a directory by a link leaves a fresh row for its file, and the row of the other
directory, of a cache in which no row could be read. -/
theorem conduct_rebuild_through_link : ∃ settings listing,
    IsReady linkedWorld linkOptions settings ⟨none, false⟩ linkedCache (.ofText "/p")
      ∧ linkOptions.batchSize ≠ .void ∧ 1 ≤ settings.batchSize
      ∧ Scan.scan linkedSeen settings.exclusions (.ofText "/p") = .ok listing
      ∧ (∀ f ∈ listing.files, ∃ bytes, Disk.read linkedSeen f.path = .ok bytes)
      ∧ (listing.files.map fun f => Store.storageKey f.path.toText).Nodup
      ∧ ∃ fresh left : Store,
        HoldsFresh .excludeImports (Disk.read linkedSeen) [⟨.ofText "/p/x.py", .ofText "x.py"⟩] fresh
          ∧ (conduct { linkedWorld.withTable linkedCache staleTable with storage := writtenStorage }
            linkOptions.toRebuild).disk = Database.setTable linkedWorld.disk linkedCache left
          ∧ (left.filter fun r => Store.InDirectory "/p" r.key) = fresh
          ∧ (left.filter fun r => ¬ Store.InDirectory "/p" r.key).rows = [⟨"/q/y.py", "old", "?"⟩] := by
  obtain ⟨settings, hsize, hexclusions, hready⟩ := isReady_linkedWorld
  have bytes : (Disk.read linkedSeen (.ofText "/p/x.py")).toOption.any (fun _ => true) = true := by
    decide +kernel
  have seen : targets (.ofText "/p") [.ofText "/p/x.py"] = [⟨.ofText "/p/x.py", .ofText "x.py"⟩] := by
    decide +kernel
  have stem : Store.storageKey (Store.directoryStem (Path.ofText "/p").toText) = "/p" := by decide +kernel
  have others : (staleTable.filter fun r => ¬ Store.InDirectory "/p" r.key).rows
      = [⟨"/q/y.py", "old", "?"⟩] := by decide +kernel
  obtain ⟨content, hcontent, -⟩ := exists_eq_ok_of_any bytes
  have readable : ∀ f ∈ [(⟨.ofText "/p/x.py", 14⟩ : FoundFile)],
      ∃ bytes, Disk.read linkedSeen f.path = .ok bytes := by
    intro f hf
    rw [List.mem_singleton.1 hf]
    exact ⟨content, hcontent⟩
  have keys := List.nodup_singleton (Store.storageKey (Path.ofText "/p/x.py").toText)
  have hscan := scan_linkedSeen
  have hstorage := agreeOnReads_writtenStorage
  rw [← hexclusions] at hscan hstorage
  obtain ⟨visits, fresh, text, -, hfresh, -, any⟩ :=
    conduct_rebuild hready (by decide) (by omega) hscan readable keys
  obtain ⟨-, ⟨left, hleft, hunder, hother⟩, -, -⟩ := any staleTable writtenStorage writtenStorage hstorage hstorage
  rw [stem] at hunder hother
  refine ⟨settings, _, hready, by decide, by omega, hscan, readable, keys, fresh, left, ?_, hleft, hunder, ?_⟩
  · rw [← seen]
    exact hfresh
  · rw [hother]
    exact others

end SourceAtlas.Command
