import SourceAtlas.Command.Run
import SourceAtlas.Proofs.Except
import SourceAtlas.Proofs.Disk.Loop
import SourceAtlas.Proofs.Path.Normal

/-!
The place of the cache. An environment names a place, by its variable or as the usual one under the home directory,
and the settings hold its real path. That path starts at the root, and its names can be told from its text. It is
free of links and stays the same however often it is made real again, if the named place meets no link that leads
back to itself. What comes of a place that meets one may go through links, and may be moved when it is made real
once more.

Main statement: `Settings.cacheDirectory_settled`.
-/

namespace SourceAtlas

variable {disk : Disk} {current : Path} {environment : Environment}

namespace Settings

/-! ## Home directories -/

/-- Only at the start of a relative path does a tilde stand for the home directory. -/
theorem expandHome_of_root {path : Path} (h : path.anchor = .root) : expandHome environment path = .ok path := by
  rw [expandHome, h]

/-- A path from the root is made real alike from everywhere. -/
theorem realPath_of_root {path : Path} (h : path.anchor = .root) :
    realPath disk current environment path = (Disk.resolve disk path).mapError .unresolved := by
  have absolute : path.isAbsolute = true := by
    rw [Path.isAbsolute, h]
    rfl
  rw [realPath, expandHome_of_root h]
  change (Disk.resolveIn disk current path).mapError Fault.unresolved = _
  rw [Disk.resolveIn, if_pos absolute]

/-- The names of a home directory are legible, whoever's it is. -/
theorem isLegible_home {user : Text} {place : Path} (h : home environment user = .ok place) :
    ∀ name ∈ place.parts, Path.IsLegible name := by
  obtain ⟨text?, -, h⟩ := bind_eq_ok_iff.1 h
  cases text? with
  | none => cases h
  | some t =>
    dsimp only at h
    split at h
    · cases h
    · exact Except.ok.inj h ▸ Path.isLegible_ofText _

/-- A place stays legible with a home directory put in front. -/
theorem isLegible_expandHome {path place : Path} (hpath : ∀ name ∈ path.parts, Path.IsLegible name)
    (h : expandHome environment path = .ok place) : ∀ name ∈ place.parts, Path.IsLegible name := by
  obtain ⟨anchor, parts⟩ := path
  unfold expandHome at h
  split at h
  · next c user rest _ heq =>
    obtain rfl : parts = (c :: user) :: rest := heq
    rw [List.forall_mem_cons] at hpath
    split at h
    · obtain ⟨base, hbase, rfl⟩ := map_eq_ok_iff.1 h
      exact List.forall_mem_append.2 ⟨isLegible_home hbase, hpath.2⟩
    · exact Except.ok.inj h ▸ List.forall_mem_cons.2 hpath
  · exact Except.ok.inj h ▸ hpath

/-! ## Named places -/

/-- The place that an environment names for the cache, as it is written: the value of its variable, or else the usual
place. -/
def writtenPlace (environment : Environment) : Except Fault Path :=
  match valueOf? "CHIZU_CACHE_DIR" environment with
  | some t => .ok (Path.ofText t)
  | none => expandHome environment standardPlace

/-- The named place as seen from the current directory, with the home directory for a tilde. -/
def namedPlace (current : Path) (environment : Environment) : Except Fault Path := do
  let place ← expandHome environment (← writtenPlace environment)
  return current.join place

/-- A written place is legible. -/
theorem isLegible_writtenPlace {written : Path} (h : writtenPlace environment = .ok written) :
    ∀ name ∈ written.parts, Path.IsLegible name := by
  unfold writtenPlace at h
  split at h
  · exact Except.ok.inj h ▸ Path.isLegible_ofText _
  · exact isLegible_expandHome (Path.isLegible_ofText "~/.cache/chizu") h

/-- A real path that a named place is made of leads straight down from the root along legible names, such as files can
have. It is free of links unless the named place meets a loop. -/
structure IsMadeOf (disk : Disk) (named real : Path) : Prop where
  direct : real.IsDirect
  isLegible : ∀ name ∈ real.parts, Path.IsLegible name
  isSound : real.isSound = true
  isLinkFree : ¬ Disk.MeetsLoop disk named → Disk.IsLinkFree disk real.parts

/-- The names that the links of a disk lead through are legible. -/
theorem linksHaveNames_isLegible (disk : Disk) : Disk.LinksHaveNames disk Path.IsLegible :=
  fun _ target _ => Path.isLegible_ofText target

/-- A legible path is made real so. -/
theorem isMadeOf_of_resolve {path real : Path} (hpath : ∀ name ∈ path.parts, Path.IsLegible name)
    (h : Disk.resolve disk path = .ok real) : IsMadeOf disk path real := by
  have names := Disk.forall_mem_realNames (linksHaveNames_isLegible disk) hpath
  have sound := Disk.isSound_of_resolve h
  obtain rfl := Disk.eq_ofNames_of_resolve h
  exact ⟨⟨rfl, fun name hname => (names name hname).2⟩, fun name hname => (names name hname).1, sound,
    Disk.isLinkFree_realNames⟩

/-- Seen from a legible working directory it is as well. -/
theorem isMadeOf_of_resolveIn (hcurrent : ∀ name ∈ current.parts, Path.IsLegible name) {path real : Path}
    (hpath : ∀ name ∈ path.parts, Path.IsLegible name) (h : Disk.resolveIn disk current path = .ok real) :
    IsMadeOf disk (current.join path) real := by
  unfold Disk.resolveIn at h
  split at h
  · next habsolute =>
    rw [Path.join, if_pos habsolute]
    exact isMadeOf_of_resolve hpath h
  · split at h
    · cases h
    · next hway =>
      split at h
      · have names := Disk.forall_mem_realNamesIn (linksHaveNames_isLegible disk) hcurrent hpath
        obtain ⟨rfl, -⟩ := Disk.realPathOf_eq_ok_iff.1 h
        refine ⟨⟨rfl, fun name hname => (names name hname).2⟩, fun name hname => (names name hname).1,
          Disk.isSound_of_refusalOnWay? hway, fun hloop => ?_⟩
        have free := Disk.isLinkFree_realNames hloop
        rw [Disk.MeetsLoop] at hloop
        rwa [Path.ofNames, Disk.realNamesIn, if_neg hloop]
      · cases h

/-- A path is made real from the working directory, with the home directory put in place. -/
theorem exists_resolveIn_of_realPath {path real : Path} (h : realPath disk current environment path = .ok real) :
    ∃ place, expandHome environment path = .ok place ∧ Disk.resolveIn disk current place = .ok real := by
  obtain ⟨place, hplace, hreal⟩ := bind_eq_ok_iff.1 h
  exact ⟨place, hplace, mapError_eq_ok hreal⟩

/-- The settings hold a path that the named place is made of, or the real path of that. -/
theorem exists_isMadeOf_of_ofEnvironment (hcurrent : ∀ name ∈ current.parts, Path.IsLegible name)
    {settings : Settings} (h : ofEnvironment disk current environment = .ok settings) :
    ∃ named real, namedPlace current environment = .ok named ∧ IsMadeOf disk named real
      ∧ (settings.cacheDirectory = real ∨ Disk.resolve disk real = .ok settings.cacheDirectory) := by
  obtain ⟨standard, hstandard, h⟩ := bind_eq_ok_iff.1 h
  obtain ⟨usual, husual, h⟩ := bind_eq_ok_iff.1 h
  obtain ⟨size, -, h⟩ := bind_eq_ok_iff.1 h
  have made : ∀ {written place}, writtenPlace environment = .ok written →
      realPath disk current environment written = .ok place →
      ∃ named, namedPlace current environment = .ok named ∧ IsMadeOf disk named place := by
    intro written place hwritten hplace
    obtain ⟨expanded, hexpanded, hreal⟩ := exists_resolveIn_of_realPath hplace
    exact ⟨current.join expanded, bind_eq_ok_iff.2 ⟨written, hwritten, bind_eq_ok_iff.2 ⟨expanded, hexpanded, rfl⟩⟩,
      isMadeOf_of_resolveIn hcurrent (isLegible_expandHome (isLegible_writtenPlace hwritten) hexpanded) hreal⟩
  dsimp only at h
  split at h
  · next t heq =>
    obtain ⟨place, hplace, h⟩ := bind_eq_ok_iff.1 h
    obtain rfl := Except.ok.inj h
    obtain ⟨named, hnamed, hmade⟩ := made (by rw [writtenPlace, heq]) hplace
    exact ⟨named, place, hnamed, hmade, .inl rfl⟩
  · next heq =>
    obtain ⟨place, hplace, h⟩ := bind_eq_ok_iff.1 h
    obtain rfl := Except.ok.inj h
    obtain ⟨named, hnamed, hmade⟩ := made (by rw [writtenPlace, heq, hstandard]) husual
    -- the usual place has been made real before
    rw [realPath_of_root hmade.direct.anchor_eq] at hplace
    exact ⟨named, usual, hnamed, hmade, .inr (mapError_eq_ok hplace)⟩

/-! ## Settled places -/

/-- Whatever users are known in an environment, the settings hold a path that leads straight down from the root along
legible names. It is free of links if the named place meets no loop. It is free of links just if it meets no loop
itself and is its own real path; then it is so from everywhere, and the settings that a command line makes of these
have the same database. -/
theorem cacheDirectory_settled (hcurrent : ∀ name ∈ current.parts, Path.IsLegible name) {settings : Settings}
    (h : ofEnvironment disk current environment = .ok settings) :
    settings.cacheDirectory.IsDirect
      ∧ (∀ name ∈ settings.cacheDirectory.parts, Path.IsLegible name)
      ∧ (∃ named, namedPlace current environment = .ok named
          ∧ (¬ Disk.MeetsLoop disk named → Disk.IsLinkFree disk settings.cacheDirectory.parts))
      ∧ (Disk.IsLinkFree disk settings.cacheDirectory.parts
          ↔ ¬ Disk.MeetsLoop disk settings.cacheDirectory
            ∧ realPath disk current environment settings.cacheDirectory = .ok settings.cacheDirectory)
      ∧ (Disk.IsLinkFree disk settings.cacheDirectory.parts →
          (∀ elsewhere other, realPath disk elsewhere other settings.cacheDirectory = .ok settings.cacheDirectory)
          ∧ ∀ o : Command.Options, o.cacheDirectory = none →
            ∃ again, Command.settingsOf { disk, current, environment } o = .ok again
              ∧ again.databasePath = settings.databasePath) := by
  obtain ⟨named, real, hnamed, hreal, hplace⟩ := exists_isMadeOf_of_ofEnvironment hcurrent h
  generalize hat : settings.cacheDirectory = place at hplace ⊢
  have made : IsMadeOf disk named place := by
    rcases hplace with rfl | hagain
    · exact hreal
    · have spec := isMadeOf_of_resolve hreal.isLegible hagain
      refine ⟨spec.direct, spec.isLegible, spec.isSound, fun hloop => ?_⟩
      -- what is free of links is not moved
      have free := hreal.isLinkFree hloop
      rw [free.resolve_eq.2 hreal.direct.anchor_eq hreal.isSound] at hagain
      exact Except.ok.inj hagain ▸ free
  have moved : ∀ elsewhere other, realPath disk elsewhere other place = .ok place
      ↔ Disk.resolve disk place = .ok place := by
    intro elsewhere other
    rw [realPath_of_root made.direct.anchor_eq]
    refine ⟨mapError_eq_ok, fun heq => ?_⟩
    rw [heq]
    rfl
  refine ⟨made.direct, made.isLegible, ⟨named, hnamed, made.isLinkFree⟩, ?_, fun hfree => ?_⟩
  · rw [moved]
    exact Disk.isLinkFree_iff_resolve_eq made.direct.anchor_eq made.isSound
  · have stays := fun elsewhere other =>
      (moved elsewhere other).2 (hfree.resolve_eq.2 made.direct.anchor_eq made.isSound)
    refine ⟨stays, fun o ho => ?_⟩
    have again : ∃ again, Command.adjusted { disk, current, environment } o settings = .ok again
        ∧ again.cacheDirectory = place := by
      refine ⟨_, bind_eq_ok_iff.2 ⟨place, ?_, rfl⟩, rfl⟩
      rw [ho, hat]
      exact stays current environment
    obtain ⟨again, hagain, hplace⟩ := again
    refine ⟨again, bind_eq_ok_iff.2 ⟨settings, ?_, ?_⟩, ?_⟩
    · rw [h]
      rfl
    · rw [hagain]
      rfl
    · rw [databasePath, databasePath, hat, hplace]

/-! ### An example -/

/-- A link that leads to itself, a directory, a link to it, and a link that goes through the first one to the
second. -/
def loopDisk : Disk :=
  .directory [("loop", .link "loop"), ("d", .directory []), ("y", .link "d"), ("x", .link "nope/../loop/../y")]

/-- An environment of that disk with a value for the place of the cache. No variable names a home directory, but the
user who runs the program is known, and so is another one. -/
def loopEnvironment (place : Text) : Environment :=
  ⟨[("CHIZU_CACHE_DIR", place)], ⟨some "/d", [("eve", "/y")]⟩⟩

/-- In the home directory of a user, which is behind a link, the database has its place for good. Behind the loop its
place is at a link, and moves when it is made real again. -/
theorem cacheDirectory_settled_on_loopDisk :
    (∃ settings, ofEnvironment loopDisk (Path.ofNames []) (loopEnvironment "~eve/c") = .ok settings
        ∧ settings.databasePath.toText = "/d/c/cache.db"
        ∧ Disk.IsLinkFree loopDisk settings.cacheDirectory.parts
        ∧ ∀ elsewhere other,
          realPath loopDisk elsewhere other settings.cacheDirectory = .ok settings.cacheDirectory)
      ∧ ∃ settings, ofEnvironment loopDisk (Path.ofNames []) (loopEnvironment "/loop/../x") = .ok settings
        ∧ settings.databasePath.toText = "/x/cache.db"
        ∧ realPath loopDisk (Path.ofNames []) (loopEnvironment "/loop/../x") settings.cacheDirectory
          = .ok (Path.ofText "/y")
        ∧ ¬ Disk.IsLinkFree loopDisk settings.cacheDirectory.parts := by
  have root : ∀ name ∈ (Path.ofNames []).parts, Path.IsLegible name := by simp [Path.ofNames]
  constructor
  · obtain ⟨settings, hsettings, hplace⟩ := exists_eq_ok_of_any
      (x := ofEnvironment loopDisk (Path.ofNames []) (loopEnvironment "~eve/c"))
      (p := fun s => decide (s.cacheDirectory = Path.ofText "/d/c")) (by decide +kernel)
    obtain ⟨-, -, ⟨named, hnamed, hfree⟩, -, hstays⟩ := cacheDirectory_settled root hsettings
    have plain : namedPlace (Path.ofNames []) (loopEnvironment "~eve/c") = .ok (Path.ofText "/y/c") :=
      eq_ok_of_any (by decide +kernel)
    obtain rfl := Except.ok.inj (hnamed.symm.trans plain)
    have loop : ¬ Disk.MeetsLoop loopDisk (Path.ofText "/y/c") := by
      unfold Disk.MeetsLoop
      decide +kernel
    refine ⟨settings, hsettings, ?_, hfree loop, (hstays (hfree loop)).1⟩
    rw [databasePath, of_decide_eq_true hplace]
    decide +kernel
  · obtain ⟨settings, hsettings, hplace⟩ := exists_eq_ok_of_any
      (x := ofEnvironment loopDisk (Path.ofNames []) (loopEnvironment "/loop/../x"))
      (p := fun s => decide (s.cacheDirectory = Path.ofText "/x")) (by decide +kernel)
    obtain ⟨-, -, -, hiff, -⟩ := cacheDirectory_settled root hsettings
    have moved : realPath loopDisk (Path.ofNames []) (loopEnvironment "/loop/../x") settings.cacheDirectory
        = .ok (Path.ofText "/y") := by
      rw [of_decide_eq_true hplace]
      exact eq_ok_of_any (by decide +kernel)
    refine ⟨settings, hsettings, ?_, moved, fun hfree => ?_⟩
    · rw [databasePath, of_decide_eq_true hplace]
      decide +kernel
    · have same := Except.ok.inj ((hiff.1 hfree).2.symm.trans moved)
      rw [of_decide_eq_true hplace] at same
      exact absurd same (by decide +kernel)

end Settings

end SourceAtlas
