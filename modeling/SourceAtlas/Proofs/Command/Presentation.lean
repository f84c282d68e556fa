import SourceAtlas.Proofs.Analysis.Completion
import SourceAtlas.Proofs.Analysis.Typed
import SourceAtlas.Proofs.Command.Reports

/-!
How an outline is shown is nothing to the cache. Calls that map a directory and differ only in what they show of it
find the same in it and leave the same table, even if their outline cannot be printed. Each prints the outline of what
was found in its own form, or nothing if that shows no chunk. That takes a cache whose own files are not among those
that are mapped: these read otherwise in every run.

Main statement: `run_shows`.
-/

namespace SourceAtlas.Command

/-! ## Options -/

/-- Options without those that only say how an outline is shown. -/
def Options.unshown (o : Options) : Options := { o with compress := false, query := none, ignoreCase := false }

theorem Options.unshown_eq_iff {o p : Options} : p.unshown = o.unshown ↔ p.directory = o.directory
    ∧ p.clear = o.clear ∧ p.clearDirectory = o.clearDirectory ∧ p.rebuild = o.rebuild
    ∧ p.cacheDirectory = o.cacheDirectory ∧ p.batchSize = o.batchSize ∧ p.verbose = o.verbose := by
  simp [unshown]

section

variable {w : World} {o p : Options} {settings : Settings} {outline other : Outline} {disk : Disk}
  {connection : Database.Connection} {target : Path}

/-- Options that differ only in how an outline is shown have everything else in common, however databases read. -/
theorem BeginsMap.congr (h : BeginsMap w o settings outline disk connection target) (hsame : p.unshown = o.unshown)
    (hother : outlineOf p = .ok other) (storage : Database.Storage) :
    BeginsMap { w with storage } p settings other disk connection target := by
  obtain ⟨hdirectory, hclear, hunder, -⟩ := Options.unshown_eq_iff.1 hsame
  have shown : ∀ o, settingsOf { w with storage } o = settingsOf w o.unshown := fun _ => rfl
  refine ⟨⟨?_, hother, h.connect_eq⟩, hclear.trans h.notAll, ?_, hunder.trans h.notCleared, h.isDirectory⟩
  · rw [shown p, hsame]
    exact h.settings_eq
  · rw [targetOf, hdirectory]
    exact h.target_eq

/-! ## Maps -/

/-- The table with which a directory is mapped. A rebuild has cleared the directory by then. -/
def tableToMap (o : Options) (target : Path) (s : Store) : Store :=
  if o.rebuild then (s.clearUnder target.toText).1 else s

/-- What happens before a directory is mapped, once the cache is open. -/
def eventsToMap (o : Options) (target : Path) (s : Store) : List Event :=
  if o.rebuild then [.clearedUnder (stemOf target) (s.clearUnder target.toText).2] else []

/-- Once the cache is open, a map leaves the table of the analysis and prints what was found. -/
theorem BeginsMap.act_eq (h : BeginsMap w o settings outline disk connection target)
    (hvoid : o.batchSize ≠ .void) {s : Store} (htable : disk.find? connection = some (.database s)) :
    let seen := Database.seen disk connection w.storage
    let outcome := Analysis.directory seen settings.exclusions settings.batchSize target (tableToMap o target s)
    act w o settings outline disk connection = ⟨Database.setTable disk connection outcome.store,
      eventsToMap o target s ++ Event.ofAnalysis outcome, printedOf outline outcome.result⟩ := by
  intro seen outcome
  have mapped : actOn w disk connection o settings outline s
      = ((eventsToMap o target s ++ Event.ofAnalysis outcome, printedOf outline outcome.result), outcome.store) := by
    rw [actOn, h.notAll, h.target_eq]
    dsimp only
    rw [h.notCleared, h.isDirectory]
    unfold rebuildOn mapOn eventsToMap outcome tableToMap
    simp only [if_neg hvoid]
    cases o.rebuild with
    | true => rfl
    | false => rfl
  have acted := act_setTable htable w o settings outline s
  -- the table that is there may as well be set
  rw [mapped, show Database.setTable disk connection s = disk from Node.put_of_find? htable] at acted
  exact acted

/-- A program that is ready maps its directory unless it is asked to clear. -/
theorem IsReady.beginsMap (h : IsReady w o settings outline connection target) (hclear : o.clear = false)
    (hunder : o.clearDirectory = false) : BeginsMap w o settings outline w.disk connection target :=
  ⟨⟨h.settings_eq, h.outline_eq, h.standsAt.connect_eq h.wellFormed (by decide)⟩, hclear, h.target_eq, hunder,
    h.isDirectory⟩

end

/-! ## Runs -/

/-- What a run that has found something reports: its outline with a line break behind it, or nothing if that is
empty, and that it has succeeded; but no more than an error if the outline cannot be printed. -/
theorem reportOf_printedOf (seconds : Text) (verbose : Bool) {outline : Outline} {findings : Findings}
    (counts : Statistics) {text : Text} (htext : outline.render findings = .ok text) (events : List Event) :
    let printed := printedOf outline (.ok (findings, counts))
    let shown := reportOf seconds verbose (events ++ abortedBy printed, printed)
    (text.IsEncodable →
        shown = .ok ⟨0, if text.isEmpty then [] else text ++ "\n", logOf seconds verbose events⟩)
      ∧ (¬ text.IsEncodable → ∃ report, shown = .ok report ∧ report.status = 1 ∧ report.out = []) := by
  intro printed shown
  have outlined : printed = if text.isEmpty then .ok [] else printLine text := by
    unfold printed printedOf
    dsimp only
    rw [htext]
  constructor
  · intro hplain
    have lines : printed = .ok (if text.isEmpty then [] else text ++ "\n") := by
      rw [outlined, printLine_of_plain hplain]
      split
      · rfl
      · rfl
    have quiet : abortedBy printed = [] := by
      rw [lines]
      rfl
    unfold shown
    rw [quiet, List.append_nil, lines]
    rfl
  · intro hsurrogate
    obtain ⟨c, hc, hsurrogate⟩ : ∃ c ∈ text, c.isSurrogate = true := by simpa [Text.IsEncodable] using hsurrogate
    obtain ⟨message, hline⟩ := exists_printLine_of_surrogate hc hsurrogate
    have halted : printed = .error (.error message) := by
      rw [outlined, if_neg (by simpa using List.ne_nil_of_mem hc), hline]
    unfold shown
    rw [halted]
    exact ⟨_, rfl, rfl, rfl⟩

/-- A directory with readable files and well-formed rules is mapped, in batches that have a size, over a table whose
rows hold well-typed chunks where they can be read. However its outline is asked for, whole or short, of all chunks
or of those that a query finds: the same is found, the same table is left, and the log is the same. What is printed
is the outline in the form asked for and a line break, unless it cannot be printed; and it is nothing just if no
chunk is shown. The runs may differ in how databases read, but not where a file is read for the directory. -/
theorem run_shows {w : World} {o : Options} {settings : Settings} {outline : Outline} {disk : Disk}
    {connection : Database.Connection} {target real : Path} {spec : Ignore.Spec}
    (h : BeginsMap w o settings outline disk connection target) (hdisk : disk.isWellFormed = true)
    (hvoid : o.batchSize ≠ .void) (hsize : 1 ≤ settings.batchSize) (hreal : Disk.resolve disk target = .ok real)
    (hrules : Scan.rules (Database.seen disk connection w.storage) settings.exclusions real = .ok spec)
    (hreadable : ∀ listing,
      Scan.scan (Database.seen disk connection w.storage) settings.exclusions target = .ok listing →
      ∀ f ∈ listing.files, ∃ bytes, Disk.read (Database.seen disk connection w.storage) f.path = .ok bytes)
    (htyped : (Database.table disk connection).HoldsTyped) (seconds : Text) :
    let outcome := Analysis.directory (Database.seen disk connection w.storage) settings.exclusions
      settings.batchSize target (tableToMap o target (Database.table disk connection))
    ∃ findings counts log, outcome.result = .ok (findings, counts) ∧ outcome.store.HoldsTyped
      ∧ ∀ storage arguments p other,
        Scan.AgreeOnReads disk connection settings.exclusions target w.storage storage →
        read arguments = .ok p → p.unshown = o.unshown → outlineOf p = .ok other →
        let done := run seconds { w with storage } arguments
        done.1 = Database.setTable disk connection outcome.store
          ∧ ∃ text, other.render findings = .ok text
            ∧ (text = [] ↔ ∀ file ∈ findings, ∀ c ∈ file.2, other.selects c ≠ .ok true)
            ∧ (text.IsEncodable → done.2 = .ok ⟨0, if text.isEmpty then [] else text ++ "\n", log⟩)
            ∧ (¬ text.IsEncodable → ∃ report, done.2 = .ok report ∧ report.status = 1 ∧ report.out = []) := by
  obtain ⟨s, htable⟩ := Database.exists_table_of_connect (Disk.isDirectory_root hdisk h.isDirectory) h.connect_eq
  have table : Database.table disk connection = s := by rw [Database.table, htable]
  rw [table] at htyped ⊢
  intro outcome
  have typed : (tableToMap o target s).HoldsTyped := by
    unfold tableToMap
    split
    · exact htyped.clearUnder _
    · exact htyped
  have wellFormed := Database.isWellFormed_seen hdisk htable w.storage
  have hroot := (Scan.goesOver_of_isDirectory hdisk h.isDirectory hreal).of_sameWays
    (Database.sameWays_seen disk connection w.storage).symm
  obtain ⟨⟨listing, hscan, completes⟩, -, -⟩ := Analysis.directory_completes wellFormed hsize hroot hrules
  obtain ⟨⟨⟨findings, counts⟩, hresult⟩, -⟩ := completes (hreadable listing hscan) (tableToMap o target s)
  obtain ⟨hleft, hchunks⟩ := Analysis.wellTyped_of_directory typed hresult
  let events : List Event := .opened settings.databasePath :: (eventsToMap o target s ++ Event.ofAnalysis outcome)
  refine ⟨findings, counts, logOf seconds o.verbose events, hresult, hleft, ?_⟩
  intro storage arguments p other hstorage hread hsame hother done
  have begins := h.congr hsame hother storage
  obtain ⟨-, -, -, hrebuild, -, hbatch, hverbose⟩ := Options.unshown_eq_iff.1 hsame
  -- nothing that is read has changed, and the other options say which table is mapped and what is told of it
  have found : Analysis.directory (Database.seen disk connection storage) settings.exclusions settings.batchSize
      target (tableToMap o target s) = outcome :=
    (hstorage.directory_eq hdisk htable _ _).symm
  have acted := begins.act_eq (hbatch ▸ hvoid) htable
  rw [show tableToMap p target s = tableToMap o target s by rw [tableToMap, hrebuild, ← tableToMap],
    show eventsToMap p target s = eventsToMap o target s by rw [eventsToMap, hrebuild, ← eventsToMap]] at acted
  dsimp only at acted
  rw [found] at acted
  obtain ⟨text, htext⟩ := other.exists_render hchunks
  have reported := reportOf_printedOf seconds o.verbose counts htext events
  unfold done
  rw [run_of_read hread, begins.conduct_eq, acted, hverbose]
  dsimp only
  rw [show outcome.result = _ from hresult]
  exact ⟨rfl, text, htext, other.render_eq_nil_iff htext, reported⟩

/-! ### An example -/

/-- The linked world, with a table whose rows cannot be read. -/
def staleWorld : World := linkedWorld.withTable linkedCache staleTable

/-- Its disk is seen as that of the linked world is, since a table is no part of what is seen. -/
theorem seen_staleWorld (storage : Database.Storage) :
    Database.seen staleWorld.disk linkedCache storage = Database.seen linkedWorld.disk linkedCache storage := by
  obtain ⟨settings, -, -, hlinked⟩ := isReady_linkedWorld
  obtain ⟨old, hold⟩ := hlinked.standsAt.find?
  exact Database.seen_setTable hold staleTable storage

/-- Does a command line ask for this outline of what is found there, and otherwise for what the linked options do? -/
def asksFor (arguments : List Text) (text : Text) : Bool :=
  (read arguments).toOption.any fun p => p.unshown = linkOptions.unshown && (outlineOf p).toOption.any fun outline =>
    (Analysis.directory linkedSeen .standard 50 (.ofText "/p") staleTable).result.toOption.any fun found =>
      (outline.render found.1).toOption.any (· = text)

theorem asksFor_eq_true {arguments : List Text} {text : Text} (h : asksFor arguments text = true) :
    ∃ p outline found, read arguments = .ok p ∧ p.unshown = linkOptions.unshown ∧ outlineOf p = .ok outline
      ∧ (Analysis.directory linkedSeen .standard 50 (.ofText "/p") staleTable).result = .ok found
      ∧ outline.render found.1 = .ok text := by
  obtain ⟨p, hread, h⟩ := exists_eq_ok_of_any h
  obtain ⟨hsame, h⟩ := Bool.and_eq_true_iff.1 h
  obtain ⟨outline, houtline, h⟩ := exists_eq_ok_of_any h
  obtain ⟨found, hfound, h⟩ := exists_eq_ok_of_any h
  exact ⟨p, outline, found, hread, of_decide_eq_true hsame, houtline, hfound, eq_ok_of_any h⟩

/-- A short outline and, in a run in which the cache reads otherwise, one of a query that finds nothing: the table is
left alike, and one of them is printed. -/
theorem run_shows_in_staleWorld : ∃ settings left log,
    BeginsMap staleWorld linkOptions settings ⟨none, false⟩ staleWorld.disk linkedCache (.ofText "/p")
      ∧ (Database.table staleWorld.disk linkedCache).HoldsTyped
      ∧ Scan.AgreeOnReads staleWorld.disk linkedCache settings.exclusions (.ofText "/p") staleWorld.storage
        writtenStorage
      ∧ run "0.00" staleWorld ["l/.", "--cache-dir", "/c", "-c"]
        = (Database.setTable staleWorld.disk linkedCache left, .ok ⟨0, "\nx.py:\n|def f(): pass\n", log⟩)
      ∧ run "0.00" { staleWorld with storage := writtenStorage } ["l/.", "--cache-dir", "/c", "-i", "-q", "G"]
        = (Database.setTable staleWorld.disk linkedCache left, .ok ⟨0, [], log⟩) := by
  obtain ⟨settings, hsize, hexclusions, hlinked⟩ := isReady_linkedWorld
  have ready : IsReady staleWorld linkOptions settings ⟨none, false⟩ linkedCache (.ofText "/p") :=
    hlinked.withTable staleTable
  have table : Database.table staleWorld.disk linkedCache = staleTable := hlinked.standsAt.table_setTable staleTable
  have seen : Database.seen staleWorld.disk linkedCache staleWorld.storage = linkedSeen := seen_staleWorld _
  have unreadable : staleTable.rows.all (fun r => !(Payload.read r.payload).toOption.isSome) = true := by
    decide +kernel
  have typed : staleTable.HoldsTyped := by
    intro r hr chunks hread
    have none := List.all_eq_true.1 unreadable r hr
    rw [hread] at none
    cases none
  have accepted : (Scan.rules linkedSeen .standard (.ofText "/p")).toOption.any (fun _ => true) = true := by
    decide +kernel
  have content : (Disk.read linkedSeen (.ofText "/p/x.py")).toOption.any (fun _ => true) = true := by decide +kernel
  obtain ⟨spec, hrules, -⟩ := exists_eq_ok_of_any accepted
  obtain ⟨bytes, hbytes, -⟩ := exists_eq_ok_of_any content
  have readable : ∀ found, Scan.scan linkedSeen .standard (.ofText "/p") = .ok found →
      ∀ f ∈ found.files, ∃ bytes, Disk.read linkedSeen f.path = .ok bytes := by
    intro found hfound f hf
    obtain rfl := Except.ok.inj (scan_linkedSeen.symm.trans hfound)
    rw [List.mem_singleton.1 hf]
    exact ⟨bytes, hbytes⟩
  have written : Scan.AgreeOnReads staleWorld.disk linkedCache .standard (.ofText "/p") staleWorld.storage
      writtenStorage := by
    intro place hreads
    rw [seen_staleWorld] at hreads
    exact agreeOnReads_writtenStorage place hreads
  have begins := ready.beginsMap rfl rfl
  rw [← hexclusions, ← seen] at hrules readable
  rw [← hexclusions] at written
  obtain ⟨findings, counts, log, hresult, -, any⟩ := run_shows begins ready.wellFormed (by decide) (by omega)
    ready.target_spec.2.2 hrules readable (table ▸ typed) "0.00"
  have outcome : Analysis.directory (Database.seen staleWorld.disk linkedCache staleWorld.storage) settings.exclusions
      settings.batchSize (.ofText "/p")
      (tableToMap linkOptions (.ofText "/p") (Database.table staleWorld.disk linkedCache))
      = Analysis.directory linkedSeen .standard 50 (.ofText "/p") staleTable := by
    rw [hexclusions, hsize, table, seen]
    rfl
  rw [outcome] at hresult any
  have shown : ∀ storage arguments text,
      Scan.AgreeOnReads staleWorld.disk linkedCache settings.exclusions (.ofText "/p") staleWorld.storage storage →
      asksFor arguments text = true → text.IsEncodable →
      run "0.00" { staleWorld with storage } arguments = (Database.setTable staleWorld.disk linkedCache
        (Analysis.directory linkedSeen .standard 50 (.ofText "/p") staleTable).store,
        .ok ⟨0, if text.isEmpty then [] else text ++ "\n", log⟩) := by
    intro storage arguments text hstorage hasks hplain
    obtain ⟨p, other, found, hread, hsame, hother, hfound, htext⟩ := asksFor_eq_true hasks
    obtain rfl := Except.ok.inj (hresult.symm.trans hfound)
    obtain ⟨hdisk, printed, hprinted, -, hreport, -⟩ := any storage arguments p other hstorage hread hsame hother
    obtain rfl := Except.ok.inj (htext.symm.trans hprinted)
    exact Prod.ext hdisk (hreport hplain)
  refine ⟨settings, _, log, begins, table ▸ typed, written,
    shown staleWorld.storage _ "\nx.py:\n|def f(): pass" .refl ?_ ?_, shown writtenStorage _ [] written ?_ ?_⟩
  all_goals decide +kernel

/-! ### A cache that is mapped itself -/

/-- A world with nothing but a cache, in a directory whose list of patterns ignores all of it but the log of its
changes. -/
@[irreducible] def nestedWorld : World :=
  { disk := .directory [("r", .directory [
      (".gitignore", .file ((".gitignore\ncache.db\ncache.db-shm\n" : Text).map fun c => UInt8.ofNat c.val)),
      ("c", .directory [("cache.db", .database .empty)])])]
    current := .ofText "/"
    environment := ⟨[("HOME", "/h")], {}⟩ }

/-- The place of its cache. -/
def nestedCache : Database.Connection := ["r", "c", "cache.db"]

/-- Databases that read as they do in a run whose cache has logged something. -/
def loggedStorage : Database.Storage := fun place => if place = Database.beside nestedCache "-wal" then [0] else []

/-- What two calls leave of an empty table differs although they differ only in how the outline is shown: both store
what they have read of the log of the cache, which is empty in one run and not in the other. -/
theorem run_leaves_otherwise_in_nestedWorld :
    let whole : List Text := ["r", "--cache-dir", "r/c"]
    let short : List Text := ["r", "--cache-dir", "r/c", "-c"]
    let first := run "0.00" { nestedWorld with storage := loggedStorage } whole
    let second := run "0.00" nestedWorld short
    (read whole).toOption.map Options.unshown = (read short).toOption.map Options.unshown
      ∧ (Database.table nestedWorld.disk nestedCache).rows = []
      ∧ first.2.toOption.map Report.status = some 0 ∧ second.2.toOption.map Report.status = some 0
      ∧ (Database.table first.1 nestedCache).rows.map Row.key = ["/r/c/cache.db-wal"]
      ∧ (Database.table second.1 nestedCache).rows.map Row.key = ["/r/c/cache.db-wal"]
      ∧ (Database.table first.1 nestedCache).rows ≠ (Database.table second.1 nestedCache).rows := by
  intro whole short first second
  refine ⟨?_, ?_, ?_, ?_, ?_, ?_, ?_⟩
  all_goals decide +kernel

end SourceAtlas.Command
