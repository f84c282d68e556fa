import SourceAtlas.Proofs.Command.Conduct

/-!
What the program does to the table of its cache. Once the cache is there, a run changes nothing on the disk but
the table, and what it does can be said as an operation on the table: it answers with what happened and what was
printed, and leaves another table.

Main statements: `HasCache.conduct_withTable`, `HasCache.run_withTable`, `AgreeOnReads.conductOn_eq`.
-/

namespace SourceAtlas.Command

/-! ## Operations on the table -/

/-- What happened in a run, and what it printed or why it stopped. -/
abbrev Told := List Event × Except Halt Text

/-- What the stored keys of all files in a directory begin with. -/
def stemOf (directory : Path) : Text := Store.storageKey (Store.directoryStem directory.toText)

/-- What is printed of the result of an analysis. -/
def printedOf (outline : Outline) (result : Except Analysis.DirectoryFault (Findings × Statistics)) :
    Except Halt Text :=
  match result with
  | .error fault => .error (haltOfAnalysis fault)
  | .ok (findings, _) => match outline.render findings with
    | .error fault => .error (.escape (.outline fault))
    | .ok t => if t.isEmpty then .ok [] else printLine t

/-- The line about a clear that has removed so many rows. -/
def clearedLine (target : Path) (rows : Nat) : Text :=
  "Cleared " ++ Text.ofNat rows ++ " cache entries under " ++ target.toText ++ "."

/-- What is told of a clear that has removed so many rows. -/
def toldOfClear (target : Path) (rows : Nat) : Told :=
  ([.clearedUnder (stemOf target) rows], printLine (clearedLine target rows))

/-- Clears what lies under a directory. -/
def clearOn (target : Path) (s : Store) : Told × Store :=
  let (table, rows) := s.clearUnder target.toText
  (toldOfClear target rows, table)

/-- Maps a directory, or only scans it if the batches have no size. `seen` is the disk as it is seen with the cache
open. -/
def mapOn (seen : Disk) (o : Options) (settings : Settings) (outline : Outline) (target : Path) (s : Store) :
    Told × Store :=
  if o.batchSize = .void then
    let scanned := scanOnly seen seen settings target
    ((scanned.events, scanned.printed), s)
  else
    let outcome := Analysis.directory seen settings.exclusions settings.batchSize target s
    ((Event.ofAnalysis outcome, printedOf outline outcome.result), outcome.store)

/-- Clears what lies under a directory, and maps it then. -/
def rebuildOn (seen : Disk) (o : Options) (settings : Settings) (outline : Outline) (target : Path) (s : Store) :
    Told × Store :=
  let (table, rows) := s.clearUnder target.toText
  let mapped := mapOn seen o settings outline target table
  ((.clearedUnder (stemOf target) rows :: mapped.1.1, mapped.1.2), mapped.2)

/-- What is done with the table once the cache is open on a disk. -/
def actOn (w : World) (disk : Disk) (connection : Database.Connection) (o : Options) (settings : Settings)
    (outline : Outline) (s : Store) : Told × Store :=
  if o.clear then (([.cleared s.clear.2], .ok "Cache cleared.\n"), s.clear.1)
  else
    match targetOf w o disk with
    | .error fault => (([], .error (haltOfPath fault)), s)
    | .ok target =>
      let seen := Database.seen disk connection w.storage
      if o.clearDirectory then clearOn target s
      else if !Disk.isDirectory disk target then (([], .error (.error (Scan.missingMessage target))), s)
      else if o.rebuild then rebuildOn seen o settings outline target s
      else mapOn seen o settings outline target s

/-- The event of a run that ends with a line about an error. -/
def abortedBy : Except Halt Text → List Event
  | .error (.error _) => [.aborted]
  | _ => []

/-- What a run does with the table of its cache. -/
def conductOn (w : World) (connection : Database.Connection) (o : Options) (s : Store) : Told × Store :=
  match settingsOf w o with
  | .error halt => (([], .error halt), s)
  | .ok settings =>
    match outlineOf o with
    | .error halt => (([], .error halt), s)
    | .ok outline =>
      let done := actOn w w.disk connection o settings outline s
      ((.opened settings.databasePath :: done.1.1 ++ abortedBy done.1.2, done.1.2), done.2)

/-- What a run shows of what has been done. -/
def reportOf (seconds : Text) (verbose : Bool) (told : Told) : Except Escape Report :=
  match told.2 with
  | .ok t => .ok ⟨0, t, logOf seconds verbose told.1⟩
  | .error (.error message) =>
    .ok ⟨1, [], logOf seconds verbose told.1 ++ Utf8.spellSurrogates ("Error: " ++ message ++ "\n")⟩
  | .error (.escape escape) => .error escape

/-- A run with options leaves the disk and shows the report of what it does. -/
theorem run_of_read {arguments : List Text} {o : Options} (h : read arguments = .ok o) (seconds : Text) (w : World) :
    run seconds w arguments
      = ((conduct w o).disk, reportOf seconds o.verbose ((conduct w o).events, (conduct w o).printed)) := by
  unfold run reportOf
  rw [h]
  dsimp only
  rcases (conduct w o).printed with (message | escape) | t
  · rfl
  · rfl
  · rfl

/-- What has been done with a table on a disk. -/
def Conduct.ofTable (disk : Disk) (connection : Database.Connection) (done : Told × Store) : Conduct :=
  ⟨Database.setTable disk connection done.2, done.1.1, done.1.2⟩

/-! ## Calls that come to a directory -/

/-- A call has settings and an outline, and comes to a directory, which need not be there. -/
structure ComesTo (w : World) (o : Options) (settings : Settings) (outline : Outline) (target : Path) : Prop where
  settings_eq : settingsOf w o = .ok settings
  outline_eq : outlineOf o = .ok outline
  notAll : o.clear = false
  target_eq : targetOf w o w.disk = .ok target

/-- A call comes to a directory that is there, in order to map it. -/
structure Maps (w : World) (o : Options) (settings : Settings) (outline : Outline) (target : Path) : Prop
    extends ComesTo w o settings outline target where
  notCleared : o.clearDirectory = false
  isDirectory : Disk.isDirectory w.disk target = true

section

variable {w : World} {o : Options} {settings : Settings} {outline : Outline} {target : Path}
  {connection : Database.Connection}

/-- A call that comes to a directory does there what it asks for. -/
theorem conductOn_of_comesTo (h : ComesTo w o settings outline target) (s : Store) :
    let done := actOn w w.disk connection o settings outline s
    conductOn w connection o s
      = ((.opened settings.databasePath :: done.1.1 ++ abortedBy done.1.2, done.1.2), done.2) := by
  intro done
  rw [conductOn, h.settings_eq, h.outline_eq]

/-- A clear does the same whatever else its command line asks for. -/
theorem actOn_of_clear (h : ComesTo w o settings outline target) (hclear : o.clearDirectory = true) (s : Store) :
    actOn w w.disk connection o settings outline s = clearOn target s := by
  rw [actOn, h.notAll, h.target_eq]
  dsimp only
  rw [hclear]
  rfl

/-- A call that maps a directory clears it first if it is a rebuild. -/
theorem actOn_of_maps (h : Maps w o settings outline target) (s : Store) :
    let seen := Database.seen w.disk connection w.storage
    actOn w w.disk connection o settings outline s = if o.rebuild then rebuildOn seen o settings outline target s
      else mapOn seen o settings outline target s := by
  intro seen
  rw [actOn, h.notAll, h.target_eq]
  dsimp only
  rw [h.notCleared, h.isDirectory]
  rfl

end

/-! ## Printing -/

/-- A text without surrogates is printed with a line break. -/
theorem printLine_of_plain {t : Text} (h : ∀ c ∈ t, c.isSurrogate = false) : printLine t = .ok (t ++ "\n") := by
  rw [printLine, Utf8.encode, Utf8.firstSurrogates_eq_none_iff.2 h]

/-- A line with a surrogate is not printed, and that is said in a line about an error. -/
theorem exists_printLine_of_surrogate {t : Text} {c : CodePoint} (hc : c ∈ t) (hsurrogate : c.isSurrogate = true) :
    ∃ message, printLine t = .error (.error message) := by
  rw [printLine, Utf8.encode]
  cases hfirst : Utf8.firstSurrogates 0 t with
  | none =>
    rw [Utf8.firstSurrogates_eq_none_iff.1 hfirst c hc] at hsurrogate
    cases hsurrogate
  | some e => exact ⟨e.message, rfl⟩

/-! ## Disks with a table -/

section

variable {disk : Disk} {connection : Database.Connection} {old : Store}
  (h : disk.find? connection = some (.database old))
include h

/-- A map is said by what it does with the table that is on the disk. -/
theorem map_setTable (seen : Disk) (o : Options) (settings : Settings) (outline : Outline) (target : Path) (s : Store) :
    (if o.batchSize = .void then scanOnly (Database.setTable disk connection s) seen settings target
      else mapDirectory (Database.setTable disk connection s) seen connection settings outline target)
      = .ofTable disk connection (mapOn seen o settings outline target s) := by
  unfold mapOn
  split
  · unfold scanOnly
    rcases Scan.scan seen settings.exclusions target with fault | listing
    · rfl
    · rfl
  · unfold mapDirectory
    rw [Database.table_setTable h]
    dsimp only
    rw [Database.setTable_setTable]
    rfl

/-- So is everything that is done once the cache is open. -/
theorem act_setTable (w : World) (o : Options) (settings : Settings) (outline : Outline) (s : Store) :
    act w o settings outline (Database.setTable disk connection s) connection
      = .ofTable disk connection (actOn w disk connection o settings outline s) := by
  have cleared : ∀ t, Database.setTable (Database.setTable disk connection s) connection t
      = Database.setTable disk connection t := Database.setTable_setTable disk connection s
  have ways := Database.sameWays_setTable h s
  unfold act actOn
  rw [targetOf_of_sameWays ways o]
  split
  · unfold clearAll
    rw [Database.table_setTable h]
    dsimp only
    rw [cleared]
    rfl
  · cases targetOf w o disk with
    | error fault => rfl
    | ok target =>
      dsimp only
      rw [ways.isDirectory_eq]
      split
      · unfold clearDirectory clearUnder clearOn toldOfClear clearedLine
        rw [Database.table_setTable h]
        dsimp only
        rw [cleared]
        rfl
      · split
        · rfl
        · split
          · -- the map that follows the clear sees the table that it has left
            unfold clearUnder
            rw [Database.table_setTable h]
            dsimp only
            rw [cleared, Database.seen_setTable h, map_setTable h]
            rfl
          · rw [Database.seen_setTable h]
            exact map_setTable h _ o settings outline target s

end

/-! ## Caches that are there -/

/-- A cache is there, and it is the one that the settings of the command line name, if it comes to any. -/
structure HasCache (w : World) (o : Options) (connection : Database.Connection) : Prop where
  wellFormed : w.disk.isWellFormed = true
  isTable : ∃ table, w.disk.find? connection = some (.database table)
  standsAt : ∀ settings, settingsOf w o = .ok settings →
    Database.StandsAt w.disk settings.databasePath connection

/-- A program that is ready has its cache, and so has every command line with the same settings. -/
theorem IsReady.hasCache {w : World} {o other : Options} {settings : Settings} {outline : Outline}
    {connection : Database.Connection} {target : Path} (h : IsReady w o settings outline connection target)
    (hsame : settingsOf w other = settingsOf w o) : HasCache w other connection where
  wellFormed := h.wellFormed
  isTable := h.standsAt.find?
  standsAt := by
    intro found hfound
    rw [hsame, h.settings_eq] at hfound
    obtain rfl := Except.ok.inj hfound
    exact h.standsAt

namespace HasCache

variable {w : World} {o : Options} {settings : Settings} {outline : Outline}
  {connection : Database.Connection} {target : Path}

/-- Another table changes no way. -/
theorem sameWays_withTable (h : HasCache w o connection) (s : Store) :
    Disk.SameWays (w.withTable connection s).disk w.disk := by
  obtain ⟨old, hold⟩ := h.isTable
  exact Database.sameWays_setTable hold s

/-- It is the table of the cache. -/
theorem table_withTable (h : HasCache w o connection) (s : Store) :
    Database.table (w.withTable connection s).disk connection = s := by
  obtain ⟨old, hold⟩ := h.isTable
  exact Database.table_setTable hold s

/-- The settings do not depend on it. -/
theorem settingsOf_withTable (h : HasCache w o connection) (s : Store) :
    settingsOf (w.withTable connection s) o = settingsOf w o := settingsOf_of_sameWays (h.sameWays_withTable s) o

/-- A cache that is there is there with another table as well. -/
theorem withTable (h : HasCache w o connection) (s : Store) : HasCache (w.withTable connection s) o connection where
  wellFormed := by
    obtain ⟨old, hold⟩ := h.isTable
    exact (Database.isWellFormed_setTable hold s).trans h.wellFormed
  isTable := by
    obtain ⟨old, hold⟩ := h.isTable
    exact ⟨s, Node.find?_put_self hold _⟩
  standsAt := by
    intro settings hsettings
    rw [h.settingsOf_withTable s] at hsettings
    exact (h.standsAt settings hsettings).setTable s

/-- It is there however the databases read. -/
theorem withStorage (h : HasCache w o connection) (storage : Database.Storage) :
    HasCache { w with storage } o connection := ⟨h.wellFormed, h.isTable, h.standsAt⟩

/-- The cache is opened with it, and nothing is changed by that. -/
theorem connect_withTable (h : HasCache w o connection) (hsettings : settingsOf w o = .ok settings) (s : Store) :
    Database.connect (w.withTable connection s).disk settings.databasePath
      = ((w.withTable connection s).disk, .ok connection) := by
  have there := (h.withTable s).standsAt settings ((h.settingsOf_withTable s).trans hsettings)
  exact there.connect_eq (h.withTable s).wellFormed (by decide)

/-! ## Runs -/

/-- A run with a table changes nothing on the disk but the table, and what it does with the table is said without
the disk that the table is on. -/
theorem conduct_withTable (h : HasCache w o connection) (s : Store) :
    conduct (w.withTable connection s) o = .ofTable w.disk connection (conductOn w connection o s) := by
  unfold conduct conductOn
  rw [h.settingsOf_withTable]
  cases hsettings : settingsOf w o with
  | error halt => rfl
  | ok settings =>
    dsimp only [bind, Except.bind, pure, Except.pure]
    cases outlineOf o with
    | error halt => rfl
    | ok outline =>
      obtain ⟨old, hold⟩ := h.isTable
      have acted : ∀ t, actOn (w.withTable connection s) w.disk connection o settings outline t
          = actOn w w.disk connection o settings outline t := by
        intro t
        have target : targetOf (w.withTable connection s) o w.disk = targetOf w o w.disk :=
          targetOf_of_sameWays_world (h.sameWays_withTable s) o w.disk
        rw [actOn, actOn, target]
        rfl
      dsimp only
      rw [h.connect_withTable hsettings]
      dsimp only
      rw [show (w.withTable connection s).disk = Database.setTable w.disk connection s from rfl, act_setTable hold,
        acted]
      rfl

/-- So does a run: it leaves another table, and shows what has been done with it. -/
theorem run_withTable (h : HasCache w o connection) {arguments : List Text} (hread : read arguments = .ok o)
    (seconds : Text) (s : Store) :
    run seconds (w.withTable connection s) arguments = (Database.setTable w.disk connection
      (conductOn w connection o s).2, reportOf seconds o.verbose (conductOn w connection o s).1) := by
  rw [run_of_read hread, h.conduct_withTable]
  rfl

end HasCache

/-! ## Databases that read otherwise -/

/-- Databases read alike in two runs wherever a call reads a file. -/
def AgreeOnReads (w : World) (connection : Database.Connection) (o : Options) (a b : Database.Storage) : Prop :=
  ∀ settings target, settingsOf w o = .ok settings → targetOf w o w.disk = .ok target →
    Scan.AgreeOnReads w.disk connection settings.exclusions target a b

theorem AgreeOnReads.refl (w : World) (connection : Database.Connection) (o : Options) (a : Database.Storage) :
    AgreeOnReads w connection o a a := fun _ _ _ _ => .refl

/-- A map does the same on disks on which the files that it reads hold the same. -/
theorem mapOn_eq_of_alike {seen other : Disk} {settings : Settings} {target : Path}
    (h : Scan.AreAlike seen other settings.exclusions target) (o : Options) (outline : Outline) (s : Store) :
    mapOn seen o settings outline target s = mapOn other o settings outline target s := by
  unfold mapOn scanOnly
  rw [h.scan_eq, Analysis.directory_eq_of_alike h]
  cases Scan.scan other settings.exclusions target with
  | error fault => rfl
  | ok listing => rfl

/-- So does a rebuild. -/
theorem rebuildOn_eq_of_alike {seen other : Disk} {settings : Settings} {target : Path}
    (h : Scan.AreAlike seen other settings.exclusions target) (o : Options) (outline : Outline) (s : Store) :
    rebuildOn seen o settings outline target s = rebuildOn other o settings outline target s := by
  rw [rebuildOn, rebuildOn]
  dsimp only
  rw [mapOn_eq_of_alike h]

/-- What a run does with the table of its cache is the same if the databases read alike wherever it reads. -/
theorem AgreeOnReads.conductOn_eq {w : World} {connection : Database.Connection} {o : Options}
    {a b : Database.Storage} (h : AgreeOnReads w connection o a b) (hcache : HasCache w o connection) (s : Store) :
    conductOn { w with storage := a } connection o s = conductOn { w with storage := b } connection o s := by
  obtain ⟨old, hold⟩ := hcache.isTable
  have settled : ∀ storage, settingsOf { w with storage } o = settingsOf w o := fun _ => rfl
  have targeted : ∀ storage, targetOf { w with storage } o w.disk = targetOf w o w.disk := fun _ => rfl
  rw [conductOn, conductOn, settled a, settled b]
  cases hsettings : settingsOf w o with
  | error halt => rfl
  | ok settings =>
    cases outlineOf o with
    | error halt => rfl
    | ok outline =>
      have acted : actOn { w with storage := a } w.disk connection o settings outline s
          = actOn { w with storage := b } w.disk connection o settings outline s := by
        rw [actOn, actOn, targeted a, targeted b]
        cases htarget : targetOf w o w.disk with
        | error fault => rfl
        | ok target =>
          have alike := (h settings target hsettings htarget).areAlike hcache.wellFormed hold
          dsimp only
          rw [rebuildOn_eq_of_alike alike, mapOn_eq_of_alike alike]
      dsimp only
      rw [acted]

end SourceAtlas.Command
