import SourceAtlas.Command.Run
import SourceAtlas.Proofs.Analysis.Clearing
import SourceAtlas.Proofs.Analysis.Reads
import SourceAtlas.Proofs.Disk.Loop

/-!
What the program does once it is ready: it has its settings and its outline, the cache is there, and so is the
directory that it is asked about, to which the argument leads without a link that leads back to itself. It stays ready
whatever table the cache holds, and it changes nothing but the table. It sees the disk with its cache open.

Main statements: `IsReady.conduct_toMap`, `IsReady.conduct_toClear`, `IsReady.conduct_toRebuild`.
-/

namespace SourceAtlas

/-! ## Settings -/

namespace Settings

variable {disk other : Disk} (h : Disk.SameWays disk other)

include h

/-- A path is made real alike on all disks with the same ways. -/
theorem realPath_of_sameWays (current : Path) (environment : Environment) (path : Path) :
    realPath disk current environment path = realPath other current environment path := by
  unfold realPath
  simp only [h.resolveIn_eq]

/-- The settings are the same on all disks with the same ways. -/
theorem ofEnvironment_of_sameWays (current : Path) (environment : Environment) :
    ofEnvironment disk current environment = ofEnvironment other current environment := by
  unfold ofEnvironment
  simp only [realPath_of_sameWays h]

end Settings

namespace Command

/-! ## Forms of a command line -/

namespace Options

/-- The command line, asking for a map. -/
def toMap (o : Options) : Options := { o with clear := false, clearDirectory := false, rebuild := false }

/-- The command line, asking to clear the directory. -/
def toClear (o : Options) : Options := { o.toMap with clearDirectory := true }

/-- The command line, asking to clear the directory and then for a map. -/
def toRebuild (o : Options) : Options := { o.toMap with rebuild := true }

end Options

/-! ## Ready to run -/

/-- The world with another table at a place. -/
def World.withTable (w : World) (connection : Database.Connection) (table : Store) : World :=
  { w with disk := Database.setTable w.disk connection table }

/-- The settings of a command line are the same on all disks with the same ways. -/
theorem settingsOf_of_sameWays {w : World} {disk : Disk} (h : Disk.SameWays disk w.disk) (o : Options) :
    settingsOf { w with disk } o = settingsOf w o := by
  unfold settingsOf adjusted
  simp only [Settings.ofEnvironment_of_sameWays h, Settings.realPath_of_sameWays h]

/-- The directory that is asked for is there at its real path, provided that the working directory is there. -/
theorem targetOf_eq_ok_iff {w : World} {o : Options} {disk : Disk} {target : Path} :
    targetOf w o disk = .ok target ↔ Disk.isDirectory w.disk w.current = true
      ∧ Disk.resolve disk (w.current.join (.ofText o.directory)) = .ok target := by
  unfold targetOf
  split
  · next hthere => simp [hthere]
  · next hgone => simp [hgone]

/-- The directory that is asked for is the same on them. -/
theorem targetOf_of_sameWays {w : World} {disk other : Disk} (h : Disk.SameWays disk other) (o : Options) :
    targetOf w o disk = targetOf w o other := by
  rw [targetOf, targetOf, h.resolve_eq]

/-- The working directory is there on them or on none. -/
theorem targetOf_of_sameWays_world {w : World} {disk : Disk} (h : Disk.SameWays disk w.disk) (o : Options)
    (other : Disk) : targetOf { w with disk } o other = targetOf w o other := by
  rw [targetOf, targetOf, h.isDirectory_eq]

/-- The program has all that it needs for a directory: settings, an outline, a cache that is there, and the directory
at its real path. The argument meets no link that leads back to itself, since what is resolved behind one may still go
through links. -/
structure IsReady (w : World) (o : Options) (settings : Settings) (outline : Outline)
    (connection : Database.Connection) (target : Path) : Prop where
  wellFormed : w.disk.isWellFormed = true
  settings_eq : settingsOf w o = .ok settings
  outline_eq : outlineOf o = .ok outline
  standsAt : Database.StandsAt w.disk settings.databasePath connection
  target_eq : targetOf w o w.disk = .ok target
  isDirectory : Disk.isDirectory w.disk target = true
  noLoop : ¬ Disk.MeetsLoop w.disk (w.current.join (.ofText o.directory))

namespace IsReady

variable {w : World} {o : Options} {settings : Settings} {outline : Outline}
  {connection : Database.Connection} {target : Path}

/-- Another table in the cache changes no way. -/
theorem sameWays_withTable (h : IsReady w o settings outline connection target) (table : Store) :
    Disk.SameWays (w.withTable connection table).disk w.disk := by
  obtain ⟨old, hold⟩ := h.standsAt.find?
  exact Database.sameWays_setTable hold table

/-- The directory is at the real path of the argument. -/
theorem resolve_eq (h : IsReady w o settings outline connection target) :
    Disk.resolve w.disk (w.current.join (.ofText o.directory)) = .ok target := (targetOf_eq_ok_iff.1 h.target_eq).2

/-- The real path of the directory goes through no links and leads to a directory. -/
theorem target_spec (h : IsReady w o settings outline connection target) :
    Disk.AreReal w.disk target.parts ∧ Disk.isDirectory w.disk target = true
      ∧ Disk.resolve w.disk target = .ok target :=
  Disk.resolve_of_isDirectory h.wellFormed h.isDirectory (Disk.resolve_eq_self h.noLoop h.resolve_eq)

/-- Its path starts at the root. -/
theorem anchor_eq (h : IsReady w o settings outline connection target) : target.anchor = .root :=
  congrArg Path.anchor (Disk.eq_ofNames_of_resolve h.resolve_eq)

/-- A scan of the directory goes over it on the disk as it is seen with the cache open. -/
theorem goesOver (h : IsReady w o settings outline connection target) (storage : Database.Storage) :
    Scan.GoesOver (Database.seen w.disk connection storage) target target target := by
  obtain ⟨-, hthere, hself⟩ := h.target_spec
  exact Scan.GoesOver.of_sameWays ⟨hself, hthere, hself⟩ (Database.sameWays_seen w.disk connection storage).symm

/-- The disk is well formed as it is seen with the cache open. -/
theorem wellFormed_seen (h : IsReady w o settings outline connection target) (storage : Database.Storage) :
    (Database.seen w.disk connection storage).isWellFormed = true := by
  obtain ⟨old, hold⟩ := h.standsAt.find?
  exact Database.isWellFormed_seen h.wellFormed hold storage

/-- The program stays ready whatever the cache holds. -/
theorem withTable (h : IsReady w o settings outline connection target) (table : Store) :
    IsReady (w.withTable connection table) o settings outline connection target := by
  have ways := h.sameWays_withTable table
  obtain ⟨old, hold⟩ := h.standsAt.find?
  refine ⟨?_, (settingsOf_of_sameWays ways o).trans h.settings_eq, h.outline_eq, h.standsAt.setTable table, ?_,
    (ways.isDirectory_eq target).trans h.isDirectory, fun hloop => h.noLoop (ways.meetsLoop_iff.1 hloop)⟩
  · exact (Database.isWellFormed_setTable hold table).trans h.wellFormed
  · exact (targetOf_of_sameWays_world ways o _).trans ((targetOf_of_sameWays ways o).trans h.target_eq)

/-- So it does however the databases read. -/
theorem withStorage (h : IsReady w o settings outline connection target) (storage : Database.Storage) :
    IsReady { w with storage } o settings outline connection target :=
  ⟨h.wellFormed, h.settings_eq, h.outline_eq, h.standsAt, h.target_eq, h.isDirectory, h.noLoop⟩

/-- What the program leaves and prints is what it does once the cache is open. -/
theorem conduct_eq (h : IsReady w o settings outline connection target) :
    (conduct w o).disk = (act w o settings outline w.disk connection).disk
      ∧ (conduct w o).printed = (act w o settings outline w.disk connection).printed := by
  have opened : Database.connect w.disk settings.databasePath = (w.disk, .ok connection) :=
    h.standsAt.connect_eq h.wellFormed (by decide)
  unfold conduct
  rw [h.settings_eq, h.outline_eq]
  dsimp only [bind, Except.bind, pure, Except.pure]
  rw [opened]
  exact ⟨rfl, rfl⟩

/-- The program is ready for another form of its command line as well. -/
theorem congr (h : IsReady w o settings outline connection target) {other : Options}
    (hother : other.toMap = o.toMap) : IsReady w other settings outline connection target := by
  have same : ∀ o : Options, settingsOf w o = settingsOf w o.toMap ∧ outlineOf o = outlineOf o.toMap
      ∧ o.directory = o.toMap.directory := fun o => ⟨rfl, rfl, rfl⟩
  obtain ⟨hsettings, houtline, hdirectory⟩ := same o
  obtain ⟨hsettings', houtline', hdirectory'⟩ := same other
  have directory : other.directory = o.directory := by rw [hdirectory', hother, ← hdirectory]
  refine ⟨h.wellFormed, ?_, ?_, h.standsAt, ?_, h.isDirectory, directory ▸ h.noLoop⟩
  · rw [hsettings', hother, ← hsettings]
    exact h.settings_eq
  · rw [houtline', hother, ← houtline]
    exact h.outline_eq
  · rw [targetOf, directory]
    exact h.target_eq

/-! ## What is done -/

/-- A map leaves the table of the analysis and prints its outline. -/
theorem conduct_toMap (h : IsReady w o settings outline connection target) (hvoid : o.batchSize ≠ .void) :
    let seen := Database.seen w.disk connection w.storage
    (conduct w o.toMap).disk = (mapDirectory w.disk seen connection settings outline target).disk
      ∧ (conduct w o.toMap).printed = (mapDirectory w.disk seen connection settings outline target).printed := by
  intro seen
  have ready : IsReady w o.toMap settings outline connection target := h.congr rfl
  have acted : act w o.toMap settings outline w.disk connection
      = mapDirectory w.disk seen connection settings outline target := by
    rw [act, ready.target_eq]
    simp only [Options.toMap, h.isDirectory, hvoid, Bool.not_true, Bool.false_eq_true, if_false]
    rfl
  rw [← acted]
  exact ready.conduct_eq

/-- A clear removes the rows of the directory. -/
theorem conduct_toClear (h : IsReady w o settings outline connection target) :
    (conduct w o.toClear).disk = Database.setTable w.disk connection
      ((Database.table w.disk connection).clearUnder target.toText).1 := by
  have ready : IsReady w o.toClear settings outline connection target := h.congr rfl
  have acted : act w o.toClear settings outline w.disk connection
      = clearDirectory w.disk connection target := by
    rw [act, ready.target_eq]
    simp only [Options.toClear, Options.toMap, Bool.false_eq_true, if_false, if_true]
  rw [ready.conduct_eq.1, acted]
  rfl

/-- A rebuild is a map of what a clear has left. -/
theorem conduct_toRebuild (h : IsReady w o settings outline connection target) (hvoid : o.batchSize ≠ .void) :
    let cleared := w.withTable connection ((Database.table w.disk connection).clearUnder target.toText).1
    (conduct w o.toRebuild).disk = (conduct cleared o.toMap).disk
      ∧ (conduct w o.toRebuild).printed = (conduct cleared o.toMap).printed := by
  intro cleared
  let seen := Database.seen cleared.disk connection w.storage
  have ready : IsReady w o.toRebuild settings outline connection target := h.congr rfl
  have acted : (act w o.toRebuild settings outline w.disk connection).disk
        = (mapDirectory cleared.disk seen connection settings outline target).disk
      ∧ (act w o.toRebuild settings outline w.disk connection).printed
        = (mapDirectory cleared.disk seen connection settings outline target).printed := by
    rw [act, ready.target_eq]
    simp only [Options.toRebuild, Options.toMap, h.isDirectory, hvoid, Bool.not_true, Bool.false_eq_true, if_false,
      if_true]
    exact ⟨rfl, rfl⟩
  obtain ⟨hdisk, hprinted⟩ := ready.conduct_eq
  obtain ⟨hdisk', hprinted'⟩ := (h.withTable _).conduct_toMap hvoid
  exact ⟨(hdisk.trans acted.1).trans hdisk'.symm, (hprinted.trans acted.2).trans hprinted'.symm⟩

/-- A map over a table comes to the analysis of the directory with that table, in every run in which the databases read
alike wherever it reads. -/
theorem conduct_withTable_toMap (h : IsReady w o settings outline connection target)
    (hvoid : o.batchSize ≠ .void) {storage : Database.Storage}
    (hstorage : Scan.AgreeOnReads w.disk connection settings.exclusions target w.storage storage) (table : Store) :
    let outcome := Analysis.directory (Database.seen w.disk connection w.storage) settings.exclusions
      settings.batchSize target table
    let mapped := conduct { w.withTable connection table with storage } o.toMap
    mapped.disk = Database.setTable w.disk connection outcome.store
      ∧ ∀ findings counts text, outcome.result = .ok (findings, counts) → outline.render findings = .ok text →
        mapped.printed = if text.isEmpty then .ok [] else printLine text := by
  intro outcome mapped
  obtain ⟨old, hold⟩ := h.standsAt.find?
  obtain ⟨hdisk, hprinted⟩ := ((h.withTable table).withStorage storage).conduct_toMap hvoid
  have found : Database.table (w.withTable connection table).disk connection = table :=
    h.standsAt.table_setTable table
  have analysis : Analysis.directory (Database.seen (w.withTable connection table).disk connection storage)
      settings.exclusions settings.batchSize target table = outcome := by
    rw [World.withTable, Database.seen_setTable hold]
    exact (hstorage.directory_eq h.wellFormed hold _ _).symm
  unfold mapDirectory at hdisk hprinted
  dsimp only at hdisk hprinted
  rw [found, analysis] at hdisk hprinted
  refine ⟨hdisk.trans (Database.setTable_setTable _ _ _ _), fun findings counts text hresult htext => ?_⟩
  rw [hprinted, hresult]
  dsimp only
  rw [htext]

end IsReady

end Command

end SourceAtlas
