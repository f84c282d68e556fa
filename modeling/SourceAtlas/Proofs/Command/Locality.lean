import SourceAtlas.Proofs.Analysis.Locality
import SourceAtlas.Proofs.Command.Rebuild
import SourceAtlas.Proofs.Command.Table
import SourceAtlas.Proofs.Disk.Loop

/-!
Calls of the program about directories. Whether it clears a directory, maps it or does both, a call reads and
writes the rows of that directory and no others, so that calls about separate directories may be made in either
order.

A clear makes the path of the directory real once, a map does it again before it scans. The two mean the same
directory unless a link on the path leads back to itself. The files of the cache itself change from run to run, which
matters to a map only if it reads them.

Main statement: `run_commute`.
-/

namespace SourceAtlas.Command

open Store (AgreeOn InDirectory IsLocal)

/-- A call of the program is about a directory: it reads as options that do not ask to clear all, the cache is
there, and the directory is the real path of the one that is asked for. Where the directory is to be mapped, no
link on the path leads back to itself. -/
structure IsAbout (w : World) (connection : Database.Connection) (arguments : List Text) (o : Options)
    (directory : Path) : Prop where
  read_eq : read arguments = .ok o
  notAll : o.clear = false
  hasCache : HasCache w o connection
  target_eq : targetOf w o w.disk = .ok directory
  noLoop : o.clearDirectory = false → ¬ Disk.MeetsLoop w.disk (w.current.join (.ofText o.directory))

/-! ## What is done with the table -/

section

variable {seen : Disk} {o : Options} {settings : Settings} {outline : Outline} {target : Path}

/-- A clear of a directory is local to it. -/
theorem isLocal_clearOn (target : Path) : IsLocal (InDirectory (stemOf target)) (clearOn target) := by
  apply ((Store.isLocal_clearUnder target.toText).map (toldOfClear target)).congr
  intro s
  rfl

/-- So is a map of the directory. -/
theorem isLocal_mapOn (hseen : seen.isWellFormed = true) (hself : Disk.resolve seen target = .ok target) :
    IsLocal (InDirectory (stemOf target)) (mapOn seen o settings outline target) := by
  unfold mapOn
  split
  · exact .pure _ _
  · have analysis : IsLocal (InDirectory (stemOf target)) fun s =>
        (Analysis.directory seen settings.exclusions settings.batchSize target s).toPair := by
      apply Analysis.isLocal_directory hseen
      intro once real hroot key hkey
      obtain rfl := Except.ok.inj (hself.symm.trans hroot.resolve_eq)
      obtain rfl := Except.ok.inj (hself.symm.trans hroot.again)
      exact hkey
    apply (analysis.map fun found => (Event.ofAnalysis ⟨found.1, .empty, found.2.1, found.2.2⟩,
      printedOf outline found.2.2)).congr
    intro s
    rfl

/-- So is a rebuild. -/
theorem isLocal_rebuildOn (hseen : seen.isWellFormed = true) (hself : Disk.resolve seen target = .ok target) :
    IsLocal (InDirectory (stemOf target)) (rebuildOn seen o settings outline target) := by
  have mapped : ∀ rows, IsLocal (InDirectory (stemOf target)) fun s =>
      let mapped := mapOn seen o settings outline target s
      ((Event.clearedUnder (stemOf target) rows :: mapped.1.1, mapped.1.2), mapped.2) :=
    fun rows => (isLocal_mapOn hseen hself).map fun told =>
      (Event.clearedUnder (stemOf target) rows :: told.1, told.2)
  exact (Store.isLocal_clearUnder target.toText).bind mapped

end

namespace IsAbout

variable {w : World} {connection : Database.Connection} {arguments : List Text} {o : Options} {directory : Path}

/-- A directory that is mapped is its own real path, also on the disk as it is seen with the cache open. -/
theorem resolve_seen_eq (h : IsAbout w connection arguments o directory) (hmap : o.clearDirectory = false)
    (storage : Database.Storage) :
    Disk.resolve (Database.seen w.disk connection storage) directory = .ok directory := by
  rw [(Database.sameWays_seen w.disk connection storage).resolve_eq]
  exact Disk.resolve_eq_self (h.noLoop hmap) (targetOf_eq_ok_iff.1 h.target_eq).2

/-- So is whatever a call does that is about the directory. -/
theorem isLocal_actOn (h : IsAbout w connection arguments o directory) (settings : Settings) (outline : Outline) :
    IsLocal (InDirectory (stemOf directory)) (actOn w w.disk connection o settings outline) := by
  obtain ⟨old, hold⟩ := h.hasCache.isTable
  have wellFormed := Database.isWellFormed_seen h.hasCache.wellFormed hold w.storage
  unfold actOn
  rw [h.notAll, h.target_eq]
  dsimp only
  cases hclear : o.clearDirectory with
  | true => exact isLocal_clearOn directory
  | false =>
    have self := h.resolve_seen_eq hclear w.storage
    cases Disk.isDirectory w.disk directory with
    | false => exact .pure _ _
    | true =>
      cases o.rebuild with
      | true => exact isLocal_rebuildOn wellFormed self
      | false => exact isLocal_mapOn wellFormed self

/-- A call reads and writes the rows of its directory only. -/
theorem isLocal_conductOn (h : IsAbout w connection arguments o directory) :
    IsLocal (InDirectory (stemOf directory)) (conductOn w connection o) := by
  unfold conductOn
  cases settingsOf w o with
  | error halt => exact .pure _ _
  | ok settings =>
    cases outlineOf o with
    | error halt => exact .pure _ _
    | ok outline =>
      exact (h.isLocal_actOn settings outline).map fun told =>
        (.opened settings.databasePath :: told.1 ++ abortedBy told.2, told.2)

/-- A call is about its directory however the databases read. -/
theorem withStorage (h : IsAbout w connection arguments o directory) (storage : Database.Storage) :
    IsAbout { w with storage } connection arguments o directory :=
  ⟨h.read_eq, h.notAll, h.hasCache.withStorage storage, h.target_eq, h.noLoop⟩

/-- A run of the call, over a table that the cache holds. -/
theorem run_eq (h : IsAbout w connection arguments o directory) (seconds : Text) (storage : Database.Storage)
    (s : Store) :
    let done := conductOn { w with storage } connection o s
    run seconds { w with disk := Database.setTable w.disk connection s, storage } arguments
      = (Database.setTable w.disk connection done.2, reportOf seconds o.verbose done.1) :=
  (h.withStorage storage).hasCache.run_withTable h.read_eq seconds s

end IsAbout

/-! ## Runs -/

/-- A call about a directory leaves the rows elsewhere as they are, and what it shows does not depend on them. Of
two calls about directories neither of which lies in the other, either may come first: the table that they leave is
the same, and each shows what it shows without the other. They may be made from different places, and in different
environments; and the databases may read otherwise in each run, but not where the call reads a file. -/
theorem run_commute {w : World} {current : Path} {environment : Environment} {connection : Database.Connection}
    {arguments others : List Text} {o p : Options} {directory other : Path}
    (h : IsAbout w connection arguments o directory)
    (hother : IsAbout { w with current, environment } connection others p other) (seconds otherSeconds : Text) :
    let one := fun storage disk => run seconds { w with disk, storage } arguments
    let two := fun storage disk => run otherSeconds { disk, current, environment, storage } others
    let OneReads := AgreeOnReads w connection o
    let TwoReads := AgreeOnReads { w with current, environment } connection p
    let holding := fun s => Database.setTable w.disk connection s
    (∀ a s, ∃ left, (one a (holding s)).1 = holding left
        ∧ AgreeOn (fun key => ¬ InDirectory (stemOf directory) key) left s)
      ∧ (∀ a b s t, OneReads a b → AgreeOn (InDirectory (stemOf directory)) s t →
        (one a (holding s)).2 = (one b (holding t)).2)
      ∧ (¬ InDirectory (stemOf directory) (stemOf other) → ¬ InDirectory (stemOf other) (stemOf directory) →
        ∀ a a' b b' s, OneReads a a' → TwoReads b b' →
          (two b (one a (holding s)).1).1 = (one a' (two b' (holding s)).1).1
            ∧ (two b (one a (holding s)).1).2 = (two b' (holding s)).2
            ∧ (one a' (two b' (holding s)).1).2 = (one a (holding s)).2) := by
  intro one two OneReads TwoReads holding
  have oneRuns : ∀ a s, one a (holding s) = (holding (conductOn { w with storage := a } connection o s).2,
      reportOf seconds o.verbose (conductOn { w with storage := a } connection o s).1) :=
    fun a s => h.run_eq seconds a s
  have twoRuns : ∀ b s, two b (holding s)
      = (holding (conductOn ⟨w.disk, current, environment, b⟩ connection p s).2,
        reportOf otherSeconds p.verbose (conductOn ⟨w.disk, current, environment, b⟩ connection p s).1) :=
    fun b s => hother.run_eq otherSeconds b s
  have oneLocal := fun a => (h.withStorage a).isLocal_conductOn
  have twoLocal := fun b => (hother.withStorage b).isLocal_conductOn
  refine ⟨?_, ?_, ?_⟩
  · intro a s
    refine ⟨(conductOn { w with storage := a } connection o s).2, ?_, (oneLocal a).frame s⟩
    rw [oneRuns]
  · intro a b s t hreads hst
    rw [oneRuns, oneRuns, hreads.conductOn_eq h.hasCache, (oneLocal b).answer_eq s t hst]
  · intro hout hout' a a' b b' s hreads hreads'
    have disjoint : ∀ key, InDirectory (stemOf directory) key → ¬ InDirectory (stemOf other) key := by
      intro key hkey hkey'
      rcases Store.inDirectory_of_inDirectory hkey hkey' with hin | hin
      · exact hout hin
      · exact hout' hin
    -- the runs come to the same as if the databases read alike in all of them
    have one' : ∀ t, one a' (holding t) = one a (holding t) := by
      intro t
      rw [oneRuns, oneRuns, hreads.conductOn_eq h.hasCache]
    have two' : ∀ t, two b' (holding t) = two b (holding t) := by
      intro t
      rw [twoRuns, twoRuns]
      have same := hreads'.conductOn_eq hother.hasCache t
      dsimp only at same
      rw [same]
    obtain ⟨hanswer, hanswer', hleft⟩ := (oneLocal a).commute (twoLocal b) disjoint s
    rw [two' s, oneRuns a s, twoRuns b s]
    dsimp only
    rw [one', twoRuns, oneRuns]
    refine ⟨?_, ?_, ?_⟩
    · exact congrArg holding hleft.symm
    · exact congrArg (reportOf otherSeconds p.verbose) hanswer'
    · exact congrArg (reportOf seconds o.verbose) hanswer

/-! ### An example -/

/-- The command line that clears a directory next to the linked one whose name begins alike. It is gone. -/
def siblingOptions : Options := { directory := "/pq", clearDirectory := true, cacheDirectory := some "/c" }

/-- Rows of both directories and of another one. -/
def siblingTable : Store :=
  ⟨[⟨"/p/gone.py", "old", "?"⟩, ⟨"/pq/x.py", "old", "?"⟩, ⟨"/q/y.py", "old", "?"⟩], by decide⟩

theorem isAbout_linkedWorld {arguments : List Text} {o : Options} {directory : Path}
    (hread : (read arguments).toOption.any (· = o) = true) (hclear : o.clear = false)
    (hsame : settingsOf linkedWorld o = settingsOf linkedWorld linkOptions)
    (htarget : (targetOf linkedWorld o linkedWorld.disk).toOption.any (· = directory) = true)
    (hloop : (Disk.resolved linkedWorld.disk (linkedWorld.current.join (.ofText o.directory))).isLeft = false) :
    IsAbout linkedWorld linkedCache arguments o directory := by
  obtain ⟨settings, -, -, hready⟩ := isReady_linkedWorld
  refine ⟨eq_ok_of_any hread, hclear, hready.hasCache hsame, eq_ok_of_any htarget, fun _ hmeets => ?_⟩
  rw [Disk.MeetsLoop, hloop] at hmeets
  cases hmeets

/-- The files of the cache may read otherwise in another rebuild through the link. -/
theorem agreeOnReads_toRebuild :
    AgreeOnReads linkedWorld linkedCache linkOptions.toRebuild linkedWorld.storage writtenStorage := by
  obtain ⟨settings, -, hexclusions, hready⟩ := isReady_linkedWorld
  have ready : IsReady linkedWorld linkOptions.toRebuild settings ⟨none, false⟩ linkedCache (.ofText "/p") :=
    hready.congr rfl
  intro found target hfound htarget
  obtain rfl := Except.ok.inj (ready.settings_eq.symm.trans hfound)
  obtain rfl := Except.ok.inj (ready.target_eq.symm.trans htarget)
  rw [hexclusions]
  exact agreeOnReads_writtenStorage

/-- A rebuild of a directory through a link and a clear of a directory next to it, whose name begins alike, may be
made in either order, though the files of the cache change. -/
theorem run_commute_on_siblings :
    let rebuild := fun storage disk =>
      run "0.00" { linkedWorld with disk, storage } ["l/.", "--rebuild", "--cache-dir", "/c"]
    let clear := fun disk => run "0.00" { linkedWorld with disk } ["/pq", "--clear-dir", "--cache-dir", "/c"]
    let disk := Database.setTable linkedWorld.disk linkedCache siblingTable
    IsAbout linkedWorld linkedCache ["l/.", "--rebuild", "--cache-dir", "/c"] linkOptions.toRebuild (.ofText "/p")
      ∧ IsAbout linkedWorld linkedCache ["/pq", "--clear-dir", "--cache-dir", "/c"] siblingOptions (.ofText "/pq")
      ∧ ¬ InDirectory (stemOf (.ofText "/p")) (stemOf (.ofText "/pq"))
      ∧ ¬ InDirectory (stemOf (.ofText "/pq")) (stemOf (.ofText "/p"))
      ∧ (clear (rebuild linkedWorld.storage disk).1).1 = (rebuild writtenStorage (clear disk).1).1
      ∧ (clear (rebuild linkedWorld.storage disk).1).2 = (clear disk).2
      ∧ (rebuild writtenStorage (clear disk).1).2 = (rebuild linkedWorld.storage disk).2 := by
  have linked : IsAbout linkedWorld linkedCache ["l/.", "--rebuild", "--cache-dir", "/c"] linkOptions.toRebuild
      (.ofText "/p") :=
    isAbout_linkedWorld (by decide +kernel) rfl rfl (by decide +kernel) (by decide +kernel)
  have sibling : IsAbout linkedWorld linkedCache ["/pq", "--clear-dir", "--cache-dir", "/c"] siblingOptions
      (.ofText "/pq") :=
    isAbout_linkedWorld (by decide +kernel) rfl rfl (by decide +kernel) (by decide +kernel)
  have apart : ¬ InDirectory (stemOf (.ofText "/p")) (stemOf (.ofText "/pq")) := by decide +kernel
  have apart' : ¬ InDirectory (stemOf (.ofText "/pq")) (stemOf (.ofText "/p")) := by decide +kernel
  obtain ⟨-, -, either⟩ := run_commute linked sibling "0.00" "0.00"
  exact ⟨linked, sibling, apart, apart', either apart apart' linkedWorld.storage writtenStorage linkedWorld.storage
    linkedWorld.storage siblingTable agreeOnReads_toRebuild (.refl _ _ _ _)⟩

end SourceAtlas.Command
