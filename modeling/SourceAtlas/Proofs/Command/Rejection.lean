import SourceAtlas.Proofs.Command.Clearing

/-!
Calls that are turned down before a file is read. Settings, query and directory are looked at before anything is
cleared, so that a call that is turned down for them leaves the table as it is. The size of the batches and the list
of patterns are looked at by the analysis: a rebuild has cleared its directory by then, and the rows are gone.

Main statements: `run_rejected`, `rejected_or_finds_files`.
-/

namespace SourceAtlas.Command

open Store (InDirectory)

/-- A call succeeds if it ends with the status that says so. -/
def Succeeds (shown : Except Escape Report) : Prop := ∃ report, shown = .ok report ∧ report.status = 0

/-! ## Reasons -/

/-- The directory that a call clears before it maps it. -/
def clearedFirst (o : Options) (target : Path) : Option Path := if o.rebuild then some target else none

/-- Why a call fails before a file is read, and which directory has been cleared by then. -/
inductive Rejected (w : World) (connection : Database.Connection) (o : Options) : Option Path → Prop
  | settings {halt : Halt} (h : settingsOf w o = .error halt) : Rejected w connection o none
  | query {settings : Settings} {halt : Halt} (hsettings : settingsOf w o = .ok settings)
      (h : outlineOf o = .error halt) : Rejected w connection o none
  | unresolved {settings : Settings} {outline : Outline} {fault : Disk.Unresolved}
      (hsettings : settingsOf w o = .ok settings) (houtline : outlineOf o = .ok outline) (hclear : o.clear = false)
      (h : targetOf w o w.disk = .error fault) : Rejected w connection o none
  | missing {settings : Settings} {outline : Outline} {target : Path} (hcomes : ComesTo w o settings outline target)
      (hclear : o.clearDirectory = false) (h : Disk.isDirectory w.disk target = false) : Rejected w connection o none
  | unprintable {settings : Settings} {outline : Outline} {target : Path}
      (hcomes : ComesTo w o settings outline target) (hclear : o.clearDirectory = true)
      (h : ∃ c ∈ target.toText, c.isSurrogate = true) : Rejected w connection o (some target)
  | batches {settings : Settings} {outline : Outline} {target : Path} (hmaps : Maps w o settings outline target)
      (h : o.batchSize = .void ∨ settings.batchSize < 1) : Rejected w connection o (clearedFirst o target)
  | scan {settings : Settings} {outline : Outline} {target : Path} {fault : Scan.Fault}
      (hmaps : Maps w o settings outline target)
      (h : Scan.scan (Database.seen w.disk connection w.storage) settings.exclusions target = .error fault) :
      Rejected w connection o (clearedFirst o target)

/-- What is left of a table once a directory has been cleared, if one has. -/
def remaining (s : Store) : Option Path → Store
  | none => s
  | some target => (s.clearUnder target.toText).1

/-- Nothing but a clear of the directory itself or a rebuild clears it. -/
theorem Rejected.asked {w : World} {connection : Database.Connection} {o : Options} {target : Path}
    (h : Rejected w connection o (some target)) :
    o.clearDirectory = true ∨ o.rebuild = true := by
  have rebuilds : ∀ {first : Path}, clearedFirst o first = some target → o.rebuild = true := by
    intro first hfirst
    unfold clearedFirst at hfirst
    split at hfirst
    · next hrebuild => exact hrebuild
    · cases hfirst
  generalize hcleared : some target = cleared at h
  cases h with
  | unprintable _ hclear _ => exact .inl hclear
  | batches _ _ => exact .inr (rebuilds hcleared.symm)
  | scan _ _ => exact .inr (rebuilds hcleared.symm)
  | _ => cases hcleared

/-- A clear leaves the table as it is if and only if no row lies in the directory. -/
theorem remaining_eq_self_iff {s : Store} {cleared : Option Path} : remaining s cleared = s
    ↔ ∀ target, cleared = some target → ∀ r ∈ s.rows, ¬ InDirectory (stemOf target) r.key := by
  cases cleared with
  | none =>
    constructor
    · intro _ target htarget
      cases htarget
    · intro _
      rfl
  | some target =>
    have rows := Store.rows_clearUnder s target.toText
    constructor
    · intro same other hother r hr
      obtain rfl := Option.some.inj hother
      rw [← same] at hr
      have kept : r ∈ s.rows.filter fun r => ¬ InDirectory (stemOf target) r.key := rows ▸ hr
      exact of_decide_eq_true (List.mem_filter.1 kept).2
    · intro hnone
      apply Store.eq_of_mem_rows_iff
      intro r
      show r ∈ (s.clearUnder target.toText).1.rows ↔ r ∈ s.rows
      rw [rows, List.mem_filter]
      exact ⟨And.left, fun hr => ⟨hr, decide_eq_true (hnone target rfl r hr)⟩⟩

/-! ## What has been done by then -/

section

variable {w : World} {connection : Database.Connection} {o : Options} {settings : Settings} {outline : Outline}
  {target : Path} {seen : Disk}

/-- A map that fails before a file is read leaves the table as it is. -/
theorem mapOn_of_fault (h : o.batchSize = .void ∨ settings.batchSize < 1
      ∨ ∃ fault, Scan.scan seen settings.exclusions target = .error fault) (s : Store) :
    ∃ events halt, mapOn seen o settings outline target s = ((events, .error halt), s) := by
  unfold mapOn scanOnly
  split
  · cases Scan.scan seen settings.exclusions target with
    | error fault => exact ⟨_, _, rfl⟩
    | ok listing => exact ⟨_, _, rfl⟩
  · next hvoid =>
    cases hscan : Scan.scan seen settings.exclusions target with
    | error fault =>
      rw [Analysis.directory, hscan]
      exact ⟨_, _, rfl⟩
    | ok listing =>
      rcases h with h | h | ⟨fault, h⟩
      · exact absurd h hvoid
      · rw [Analysis.directory, hscan]
        dsimp only
        rw [Analysis.run, if_pos h]
        exact ⟨_, _, rfl⟩
      · rw [hscan] at h
        cases h

/-- A map that fails before a file is read leaves what a rebuild has not cleared. -/
theorem conductOn_of_maps (hmaps : Maps w o settings outline target) (h : o.batchSize = .void
      ∨ settings.batchSize < 1 ∨ ∃ fault, Scan.scan (Database.seen w.disk connection w.storage) settings.exclusions
        target = .error fault) (s : Store) :
    ∃ events halt, conductOn w connection o s = ((events, .error halt), remaining s (clearedFirst o target)) := by
  have acted : ∃ events halt, actOn w w.disk connection o settings outline s
      = ((events, .error halt), remaining s (clearedFirst o target)) := by
    rw [actOn_of_maps hmaps, clearedFirst]
    cases o.rebuild with
    | true =>
      let left := (s.clearUnder target.toText).1
      obtain ⟨events, halt, hmap⟩ : ∃ events halt,
          mapOn (Database.seen w.disk connection w.storage) o settings outline target left
            = ((events, .error halt), left) := mapOn_of_fault h left
      refine ⟨.clearedUnder (stemOf target) (s.clearUnder target.toText).2 :: events, halt, ?_⟩
      show rebuildOn _ o settings outline target s = _
      rw [rebuildOn]
      dsimp only
      rw [hmap]
      rfl
    | false => exact mapOn_of_fault h s
  obtain ⟨events, halt, hacted⟩ := acted
  rw [conductOn_of_comesTo hmaps.toComesTo, hacted]
  exact ⟨_, halt, rfl⟩

end

/-- A call that is turned down prints nothing, and leaves what has not been cleared by then. -/
theorem conductOn_of_rejected {w : World} {connection : Database.Connection} {o : Options} {cleared : Option Path}
    (h : Rejected w connection o cleared) (s : Store) :
    ∃ events halt, conductOn w connection o s = ((events, .error halt), remaining s cleared) := by
  cases h with
  | settings h =>
    rw [conductOn, h]
    exact ⟨_, _, rfl⟩
  | query hsettings h =>
    rw [conductOn, hsettings, h]
    exact ⟨_, _, rfl⟩
  | unresolved hsettings houtline hclear h =>
    rw [conductOn, hsettings, houtline]
    dsimp only
    rw [actOn, hclear, h]
    exact ⟨_, _, rfl⟩
  | missing hcomes hclear h =>
    rw [conductOn_of_comesTo hcomes, actOn, hcomes.notAll, hcomes.target_eq]
    dsimp only
    rw [hclear, h]
    exact ⟨_, _, rfl⟩
  | unprintable hcomes hclear h =>
    obtain ⟨message, hprinted⟩ := exists_printLine_clearedLine h _
    rw [conductOn_of_comesTo hcomes, actOn_of_clear hcomes hclear, clearOn]
    dsimp only
    rw [toldOfClear, hprinted]
    exact ⟨_, _, rfl⟩
  | batches hmaps h =>
    exact conductOn_of_maps hmaps (h.imp_right .inl) s
  | scan hmaps h =>
    exact conductOn_of_maps hmaps (.inr (.inr ⟨_, h⟩)) s

/-! ## Runs -/

/-- What has stopped has not succeeded. -/
theorem not_succeeds_of_error {seconds : Text} {verbose : Bool} {events : List Event} {halt : Halt} :
    ¬ Succeeds (reportOf seconds verbose (events, .error halt)) := by
  rintro ⟨report, hreport, hstatus⟩
  cases halt with
  | escape escape => cases hreport
  | error message =>
    rw [← Except.ok.inj hreport] at hstatus
    cases hstatus

/-- A call that is turned down before a file is read does not succeed, and leaves what has not been cleared by then:
the table as it is, unless a clear or a rebuild has found rows in its directory. -/
theorem run_rejected {w : World} {connection : Database.Connection} {arguments : List Text} {o : Options}
    {cleared : Option Path} (h : HasCache w o connection) (hread : read arguments = .ok o)
    (hrejected : Rejected w connection o cleared) (seconds : Text) (s : Store) :
    let ended := run seconds (w.withTable connection s) arguments
    ¬ Succeeds ended.2
      ∧ ended.1 = Database.setTable w.disk connection (remaining s cleared)
      ∧ (o.clearDirectory = false → o.rebuild = false → ended.1 = Database.setTable w.disk connection s)
      ∧ (Database.table ended.1 connection = s
        ↔ ∀ target, cleared = some target → ∀ r ∈ s.rows, ¬ InDirectory (stemOf target) r.key) := by
  intro ended
  obtain ⟨events, halt, hconduct⟩ := conductOn_of_rejected hrejected s
  have hended : ended = (Database.setTable w.disk connection (remaining s cleared),
      reportOf seconds o.verbose (events, .error halt)) := by
    have runs := h.run_withTable hread seconds s
    rw [hconduct] at runs
    exact runs
  rw [hended]
  refine ⟨not_succeeds_of_error, rfl, fun hclear hrebuild => ?_, ?_⟩
  · cases cleared with
    | none => rfl
    | some target =>
      rcases hrejected.asked with hasked | hasked
      · rw [hclear] at hasked
        cases hasked
      · rw [hrebuild] at hasked
        cases hasked
  · have table : Database.table (Database.setTable w.disk connection (remaining s cleared)) connection
        = remaining s cleared := h.table_withTable _
    rw [table]
    exact remaining_eq_self_iff

/-! ### An example -/

/-- The command line that rebuilds the linked directory in batches of no files. -/
def emptyBatches : Options :=
  { directory := "l/.", rebuild := true, batchSize := .size 0, cacheDirectory := some "/c" }

theorem maps_emptyBatches : HasCache linkedWorld emptyBatches linkedCache ∧ ∃ settings, settings.batchSize < 1
    ∧ Maps linkedWorld emptyBatches settings ⟨none, false⟩ (.ofText "/p") := by
  obtain ⟨usual, -, -, hready⟩ := isReady_linkedWorld
  have made : (settingsOf linkedWorld emptyBatches).toOption.any (fun s => s.cacheDirectory = .ofText "/c"
      ∧ s.batchSize < 1) = true := by decide +kernel
  have cache : (Disk.walk linkedWorld.disk true ((Path.ofText "/c").child "cache.db")).toOption.any
      (fun spot => spot.names = linkedCache ∧ spot.node.any Node.isDatabase = true) = true := by decide +kernel
  obtain ⟨settings, hsettings, hmade⟩ := exists_eq_ok_of_any made
  obtain ⟨hplace, hsize⟩ := of_decide_eq_true hmade
  obtain ⟨spot, hwalk, hcache⟩ := exists_eq_ok_of_any cache
  obtain ⟨hnames, hnode⟩ := of_decide_eq_true hcache
  refine ⟨⟨hready.wellFormed, hready.standsAt.find?, ?_⟩, settings, hsize, ⟨hsettings, rfl, rfl, hready.target_eq⟩,
    rfl, hready.isDirectory⟩
  intro found hfound
  obtain rfl := Except.ok.inj (hsettings.symm.trans hfound)
  rw [Settings.databasePath, hplace]
  exact .of_walk hwalk hnames hnode

/-- A rebuild in batches of no files fails, and the rows of the directory are gone. -/
theorem run_rejected_after_clear :
    let ended := run "0.00" (linkedWorld.withTable linkedCache staleTable)
      ["l/.", "--rebuild", "--batch-size", "0", "--cache-dir", "/c"]
    HasCache linkedWorld emptyBatches linkedCache
      ∧ read ["l/.", "--rebuild", "--batch-size", "0", "--cache-dir", "/c"] = .ok emptyBatches
      ∧ Rejected linkedWorld linkedCache emptyBatches (some (.ofText "/p"))
      ∧ ¬ Succeeds ended.2
      ∧ Database.table ended.1 linkedCache ≠ staleTable := by
  intro ended
  obtain ⟨hasCache, settings, hsize, hmaps⟩ := maps_emptyBatches
  have words : (read ["l/.", "--rebuild", "--batch-size", "0", "--cache-dir", "/c"]).toOption.any
      (· = emptyBatches) = true := by decide +kernel
  have hread := eq_ok_of_any words
  have rejected : Rejected linkedWorld linkedCache emptyBatches (some (.ofText "/p")) := .batches hmaps (.inr hsize)
  have row : staleTable.rows.any (fun r => InDirectory (stemOf (.ofText "/p")) r.key) = true := by decide +kernel
  obtain ⟨hfails, -, -, hsame⟩ := run_rejected hasCache hread rejected "0.00" staleTable
  refine ⟨hasCache, hread, rejected, hfails, fun same => ?_⟩
  obtain ⟨r, hr, hin⟩ := List.any_eq_true.1 row
  exact hsame.1 same _ rfl r hr (of_decide_eq_true hin)

/-! ## All reasons -/

section

variable {w : World} {o : Options} {settings : Settings} {outline : Outline} {target : Path} {listing : Listing}
  {connection : Database.Connection} {seen : Disk}

/-- A call that does not clear all of the cache is turned down, or comes to a directory. -/
theorem rejected_or_comesTo (hclear : o.clear = false) : Rejected w connection o none
    ∨ ∃ settings outline target, ComesTo w o settings outline target := by
  cases hsettings : settingsOf w o with
  | error fault => exact .inl (.settings hsettings)
  | ok settings =>
    cases houtline : outlineOf o with
    | error halt => exact .inl (.query hsettings houtline)
    | ok outline =>
      cases htarget : targetOf w o w.disk with
      | error fault => exact .inl (.unresolved hsettings houtline hclear htarget)
      | ok target => exact .inr ⟨settings, outline, target, hsettings, houtline, hclear, htarget⟩

/-- A call that comes to a directory is turned down, clears it, or maps it. -/
theorem rejected_or_maps (h : ComesTo w o settings outline target) (hclear : o.clearDirectory = false) :
    Rejected w connection o none ∨ Maps w o settings outline target := by
  cases hthere : Disk.isDirectory w.disk target with
  | false => exact .inl (.missing h hclear hthere)
  | true => exact .inr ⟨h, hclear, hthere⟩

/-- A call that clears all succeeds unless it is turned down. -/
theorem rejected_or_clears (hclear : o.clear = true) (s : Store) :
    Rejected w connection o none ∨ ∃ t, (conductOn w connection o s).1.2 = .ok t := by
  cases hsettings : settingsOf w o with
  | error fault => exact .inl (.settings hsettings)
  | ok settings =>
    cases houtline : outlineOf o with
    | error halt => exact .inl (.query hsettings houtline)
    | ok outline =>
      right
      rw [conductOn, hsettings, houtline]
      dsimp only
      rw [actOn, hclear]
      exact ⟨_, rfl⟩

/-- A map of a directory without files succeeds, and prints nothing. -/
theorem mapOn_of_no_files (hvoid : o.batchSize ≠ .void) (hsize : ¬ settings.batchSize < 1)
    (hscan : Scan.scan seen settings.exclusions target = .ok listing) (hnone : listing.files = []) (s : Store) :
    (mapOn seen o settings outline target s).1.2 = .ok [] := by
  obtain ⟨once, real, hroot⟩ := Scan.exists_goesOver_of_scan hscan
  rw [mapOn, if_neg hvoid, Analysis.directory_of_scan hscan hsize hroot.resolve_eq, hnone]
  rfl

/-- Without files a map prints nothing and leaves the table as it is, but for what a rebuild has cleared. -/
theorem actOn_of_no_files (hmaps : Maps w o settings outline target) (hvoid : o.batchSize ≠ .void)
    (hsize : ¬ settings.batchSize < 1)
    (hscan : Scan.scan (Database.seen w.disk connection w.storage) settings.exclusions target = .ok listing)
    (hnone : listing.files = []) (s : Store) :
    (actOn w w.disk connection o settings outline s).1.2 = .ok [] := by
  rw [actOn_of_maps hmaps]
  cases o.rebuild with
  | true => exact mapOn_of_no_files hvoid hsize hscan hnone _
  | false => exact mapOn_of_no_files hvoid hsize hscan hnone s

end

/-- There are no other reasons: a call that fails for none of them has come to files that are to be read. -/
theorem rejected_or_finds_files {w : World} {connection : Database.Connection} {arguments : List Text} {o : Options}
    (h : HasCache w o connection) (hread : read arguments = .ok o) (seconds : Text) (s : Store)
    (hfails : ¬ Succeeds (run seconds (w.withTable connection s) arguments).2) :
    (∃ cleared, Rejected w connection o cleared)
      ∨ ∃ settings outline target listing, Maps w o settings outline target ∧ 1 ≤ settings.batchSize
        ∧ Scan.scan (Database.seen w.disk connection w.storage) settings.exclusions target = .ok listing
        ∧ listing.files ≠ [] := by
  rw [h.run_withTable hread] at hfails
  have printed : ∀ t, (conductOn w connection o s).1.2 ≠ .ok t := by
    intro t ht
    apply hfails
    rw [reportOf, ht]
    exact ⟨_, rfl, rfl⟩
  cases hclear : o.clear with
  | true =>
    rcases rejected_or_clears hclear s with hrejected | ⟨t, ht⟩
    · exact .inl ⟨_, hrejected⟩
    · exact absurd ht (printed t)
  | false =>
    rcases rejected_or_comesTo hclear with hrejected | ⟨settings, outline, target, hcomes⟩
    · exact .inl ⟨_, hrejected⟩
    rw [conductOn_of_comesTo hcomes] at printed
    cases hunder : o.clearDirectory with
    | true =>
      -- the rows are cleared in any case, and only the line about them may fail
      by_cases plain : ∀ c ∈ target.toText, c.isSurrogate = false
      · rw [actOn_of_clear hcomes hunder, clearOn] at printed
        dsimp only [toldOfClear] at printed
        exact absurd (printLine_clearedLine plain _) (printed _)
      · exact .inl ⟨_, .unprintable hcomes hunder (by simpa using plain)⟩
    | false =>
      rcases rejected_or_maps hcomes hunder with hrejected | hmaps
      · exact .inl ⟨_, hrejected⟩
      by_cases hsize : o.batchSize = .void ∨ settings.batchSize < 1
      · exact .inl ⟨_, .batches hmaps hsize⟩
      obtain ⟨hvoid, hsize⟩ := not_or.1 hsize
      cases hscan : Scan.scan (Database.seen w.disk connection w.storage) settings.exclusions target with
      | error fault => exact .inl ⟨_, .scan hmaps hscan⟩
      | ok listing =>
        refine .inr ⟨settings, outline, target, listing, hmaps, by omega, hscan, fun hnone => ?_⟩
        exact printed [] (actOn_of_no_files hmaps hvoid hsize hscan hnone s)

end SourceAtlas.Command
