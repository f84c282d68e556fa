import SourceAtlas.Proofs.Analysis.Interleaving
import SourceAtlas.Proofs.Path.Normal

/-!
The rows of files by the spelling of their paths. What a run finds is shown by paths in normal form, but stored under
the paths as they are written. So a file that is named in two ways is shown once and stored twice, and its rows go
with the directories that their paths are written to go through. Paths that lead straight down are their own normal
forms, so that for them the two agree.

Main statement: `rows_as_written`.
-/

namespace SourceAtlas

/-- On a disk without links a file can be read by the normal form of its path as well. -/
theorem Disk.read_normal {disk : Disk} (hdisk : disk.isWellFormed = true) (hlinks : disk.linkCount = 0) {p : Path}
    {bytes : Bytes} (h : read disk p = .ok bytes) : p.IsNamed ∧ read disk (.ofNames p.normal) = .ok bytes := by
  unfold read at h
  cases hlook : look disk p with
  | error fault =>
    rw [hlook] at h
    cases h
  | ok node =>
    obtain ⟨hnamed, hnormal⟩ := look_normal hdisk hlinks hlook
    refine ⟨hnamed, ?_⟩
    rw [hlook] at h
    rw [read, hnormal]
    cases node with
    | directory entries => cases h
    | _ => exact h

namespace Analysis

variable {read : Path → Except Disk.Failure Bytes}

/-! ## Rows of files that have been handled -/

/-- A file that has been handled has a row. -/
def Task.HasRow (s : Store) (task : Task) : Prop :=
  task.visit?.isSome = true → (s.row? (Store.storageKey task.target.key)).isSome = true

/-- A row that is there stays when something is put. -/
theorem Task.HasRow.put {s : Store} {task : Task} (h : task.HasRow s) (path fingerprint : Text)
    (chunks : List Chunk) : task.HasRow (s.put path fingerprint chunks) :=
  fun hvisit => Store.isSome_row?_put (h hvisit) path fingerprint chunks

/-- A step leaves a row for each file that it finishes. -/
theorem Advance.hasRow {s s' : Store} {f f' : Flight} {e : Event} (h : Advance read (s, f) e (s', f'))
    (hf : ∀ task ∈ f.tasks, task.HasRow s) : ∀ task ∈ f'.tasks, task.HasRow s' := by
  cases h with
  | load hat _ => exact Flight.forall_tasks_move hf nofun
  | find hat hanswer =>
    refine Flight.forall_tasks_move hf fun _ => ?_
    obtain ⟨hentry, -⟩ := answerTo_eq_some hanswer
    obtain ⟨payload, hrow, -⟩ := Store.get_eq_entry_iff.1 hentry
    exact Option.isSome_iff_exists.2 ⟨_, hrow⟩
  | miss hat _ => exact Flight.forall_tasks_move hf nofun
  | keep hat =>
    refine Flight.forall_tasks_move (fun task htask => (hf task htask).put _ _ _) fun _ => ?_
    exact Option.isSome_iff_exists.2 ⟨_, Store.row?_put_self _ _ _ _⟩
  | next _ _ => exact hf

/-- So does a run. -/
theorem Flies.hasRow {x y : Store × Flight} {events : List Event} (h : Flies read x events y)
    (hx : ∀ task ∈ x.2.tasks, task.HasRow x.1) : ∀ task ∈ y.2.tasks, task.HasRow y.1 := by
  induction h with
  | refl => exact hx
  | snoc _ last ih => exact last.hasRow ih

/-- All files of a run that has landed have rows. -/
theorem isSome_row?_of_landing {policy : Policy} {size : Nat} {list : List Target} {s s' : Store}
    {events : List Event} {f : Flight} (h : Flies read (s, .start policy size list) events (s', f))
    (hland : f.landing?.isSome = true) {t : Target} (ht : t ∈ list) :
    (s'.row? (Store.storageKey t.key)).isSome = true := by
  have rows : ∀ task ∈ f.tasks, task.HasRow s' := h.hasRow (Flight.forall_tasks_start (fun _ => nofun) _ _ _)
  have htargets : f.targets = list := h.targets_eq.trans (Flight.targets_start policy size list)
  obtain ⟨result, hresult⟩ := Option.isSome_iff_exists.1 hland
  obtain ⟨v, hv⟩ := Flight.exists_visit_of_landing hresult (htargets ▸ ht)
  exact rows _ hv rfl

/-! ## Rows and spellings -/

/-- A file of a run is seen from its root by an absolute path of names such as there are, and can be read by the
normal form of the path as well. -/
structure Target.IsSeenFrom (disk : Disk) (root : Path) (t : Target) : Prop where
  shown_eq : t.shown = root.relativeTo t.path
  isAbsolute : t.path.isAbsolute = true
  isNamed : t.path.IsNamed
  read_eq : Disk.read disk (.ofNames t.path.normal) = Disk.read disk t.path

/-- Without links, a file that can be read is seen along its path. -/
theorem isSeenFrom_of_isReadable {disk : Disk} (hdisk : disk.isWellFormed = true) (hlinks : disk.linkCount = 0)
    {root : Path} (hroot : root.anchor = .root) {paths : List Path} {t : Target} (ht : t ∈ targets root paths)
    (hreadable : t.IsReadable (Disk.read disk)) : t.IsSeenFrom disk root := by
  obtain ⟨-, bytes, hbytes⟩ := hreadable
  obtain ⟨hnamed, hnormal⟩ := Disk.read_normal hdisk hlinks hbytes
  obtain ⟨path, -, rfl⟩ := List.mem_map.1 ht
  refine ⟨rfl, ?_, hnamed, hnormal.trans hbytes.symm⟩
  rw [Target.ofPath, Path.join]
  split
  · next habsolute => exact habsolute
  · simp [Path.isAbsolute, hroot]

section

variable {disk : Disk} {root : Path} {t u : Target}

/-- Files are shown by one path exactly if their paths have one normal form. -/
theorem Target.IsSeenFrom.shown_eq_iff (ht : t.IsSeenFrom disk root) (hu : u.IsSeenFrom disk root) :
    t.shown.toText = u.shown.toText ↔ t.path.normal = u.path.normal := by
  rw [ht.shown_eq, hu.shown_eq, Path.toText_inj (ht.isNamed.relativeTo root) (hu.isNamed.relativeTo root),
    Path.relativeTo_eq_iff]

/-- Files are stored in one row exactly if their paths are written alike. -/
theorem Target.IsSeenFrom.storageKey_eq_iff (ht : t.IsSeenFrom disk root) (hu : u.IsSeenFrom disk root)
    (hkeys : Store.storageKey t.key = Store.storageKey u.key → t.key = u.key) :
    Store.storageKey t.key = Store.storageKey u.key ↔ t.path = u.path := by
  refine ⟨fun h => (Path.toText_inj ht.isNamed hu.isNamed).1 (hkeys h), fun h => ?_⟩
  rw [Target.key, Target.key, h]

end

/-- A row that is there is cleared with a directory exactly if it lies in it, as clearing sees it. -/
theorem row?_clearUnder_eq_none_iff {s : Store} {key : Text} (h : (s.row? key).isSome = true) (directory : Text) :
    (s.clearUnder directory).1.row? key = none
      ↔ Store.InDirectory (Store.storageKey (Store.directoryStem directory)) key := by
  obtain ⟨r, hr⟩ := Option.isSome_iff_exists.1 h
  rw [Store.row?_clearUnder, hr]
  split
  · next hin => exact iff_of_true rfl hin
  · next hout => exact iff_of_false nofun hout

/-- Files of a disk without links are given by any paths, of which no two share a stored key unless they are written
alike. They are shown by one path if and only if their paths have one normal form, by which the file can be
read as well, but stored in one row if and only if their paths are written alike. A run over them is completed, and
in whatever interleaving it is, every file then has a row. This is cleared with the directories that the path
is written to go through, and not with those of its normal form. For paths that lead straight down it is the same. -/
theorem rows_as_written {disk : Disk} (hdisk : disk.isWellFormed = true) (hlinks : disk.linkCount = 0)
    {policy : Policy} {size : Int} (hsize : 1 ≤ size) {root real : Path} (hreal : Disk.resolve disk root = .ok real)
    {paths : List Path} {list : List Target} (hlist : targets real paths = list)
    (hreadable : ∀ t ∈ list, t.IsReadable (Disk.read disk))
    (hkeys : ∀ t ∈ list, ∀ u ∈ list, Store.storageKey t.key = Store.storageKey u.key → t.key = u.key) (s : Store) :
    (∀ t ∈ list, ∀ u ∈ list, (t.shown.toText = u.shown.toText ↔ t.path.normal = u.path.normal)
      ∧ (Store.storageKey t.key = Store.storageKey u.key ↔ t.path = u.path)
      ∧ (t.path.IsDirect → u.path.IsDirect →
        (t.shown.toText = u.shown.toText ↔ Store.storageKey t.key = Store.storageKey u.key)))
    ∧ (∃ result events f, (run disk policy size root paths s).result = .ok result
      ∧ Flies (Disk.read disk) (s, .start policy size.toNat list) events ((run disk policy size root paths s).store, f)
      ∧ f.landing? = some result)
    ∧ ∀ events s' f, Flies (Disk.read disk) (s, .start policy size.toNat list) events (s', f) →
      f.landing?.isSome = true → ∀ t ∈ list, (s'.row? (Store.storageKey t.key)).isSome = true
        ∧ Disk.read disk (.ofNames t.path.normal) = Disk.read disk t.path
        ∧ ∀ names, (∀ name ∈ names, Path.isName name = true) → t.path.IsApartFrom names →
          let left := (s'.clearUnder (Path.ofNames names).toText).1
          (left.row? (Store.storageKey t.key) = none ↔ names = [] ∨ t.path.anchor = .root ∧ names <+: t.path.parts)
          ∧ (t.path.IsDirect → (left.row? (Store.storageKey t.key) = none ↔ names <+: t.path.normal)) := by
  have hroot : real.anchor = .root := by
    rw [Disk.eq_ofNames_of_resolve hreal]
    rfl
  have seen : ∀ t ∈ list, t.IsSeenFrom disk real := fun t ht =>
    isSeenFrom_of_isReadable hdisk hlinks hroot (hlist ▸ ht) (hreadable t ht)
  have hpos : 0 < size.toNat := by omega
  refine ⟨fun t ht u hu => ?_, ?_, fun events s' f hflies hland t ht => ?_⟩
  · have shown := (seen t ht).shown_eq_iff (seen u hu)
    have keys := (seen t ht).storageKey_eq_iff (seen u hu) (hkeys t ht u hu)
    refine ⟨shown, keys, fun hdirect hdirect' => ?_⟩
    rw [shown, keys, hdirect.normal_eq_iff hdirect']
  · have hrun : run disk policy size root paths s = runFrom (Disk.read disk) policy size.toNat real paths s := by
      rw [run, if_neg (by omega), hreal]
    have completed : ∃ result, (runFrom (Disk.read disk) policy size.toNat real paths s).result = .ok result := by
      rw [runFrom_eq_one_by_one hpos (hlist ▸ hreadable)]
      exact ⟨_, rfl⟩
    obtain ⟨result, hresult⟩ := completed
    obtain ⟨events, f, hflies, hland⟩ := exists_flies_of_runFrom hpos hresult
    rw [hrun, ← hlist]
    exact ⟨result, events, f, hresult, hflies, hland⟩
  · have hrow := isSome_row?_of_landing hflies hland ht
    refine ⟨hrow, (seen t ht).read_eq, fun names hnames hapart => ?_⟩
    intro left
    have cleared : left.row? (Store.storageKey t.key) = none
        ↔ names = [] ∨ t.path.anchor = .root ∧ names <+: t.path.parts :=
      (row?_clearUnder_eq_none_iff hrow _).trans
        (Path.inDirectory_storageKey_toText_iff hnames (seen t ht).isNamed (seen t ht).isAbsolute hapart)
    refine ⟨cleared, fun hdirect => ?_⟩
    rw [cleared, hdirect.normal_eq, and_iff_right hdirect.anchor_eq]
    exact or_iff_right_of_imp fun h => h ▸ List.nil_prefix

/-! ### An example -/

/-- A file beside an empty directory. -/
@[irreducible] def detourTree : Disk :=
  .directory [("r", .directory [("d", .directory []),
    ("x.py", .file (("def f(): pass\n" : Text).map fun c => UInt8.ofNat c.val))])]

/-- The file, named straight and by a detour through the directory beside it. -/
def detourPaths : List Path := [.ofText "x.py", .ofText "d/../x.py"]

/-- The file is shown once and has two rows. Of these one is cleared with the directory beside the file. -/
theorem rows_as_written_on_detourTree :
    let straight : Target := ⟨.ofText "/r/x.py", .ofText "x.py"⟩
    let detour : Target := ⟨.ofText "/r/d/../x.py", .ofText "x.py"⟩
    let stored := (run detourTree .excludeImports 1 (.ofText "/r") detourPaths .empty).store
    let left := (stored.clearUnder "/r/d").1
    straight.shown.toText = detour.shown.toText
      ∧ Store.storageKey straight.key ≠ Store.storageKey detour.key
      ∧ (left.row? (Store.storageKey straight.key)).isSome = true
      ∧ (stored.row? (Store.storageKey detour.key)).isSome = true
      ∧ left.row? (Store.storageKey detour.key) = none := by
  intro straight detour stored left
  have wellFormed : detourTree.isWellFormed = true := by decide +kernel
  have links : detourTree.linkCount = 0 := by decide +kernel
  have root : (Disk.resolve detourTree (.ofText "/r")).toOption.any (fun p => p = .ofText "/r") = true := by
    decide +kernel
  obtain ⟨real, hreal, hroot⟩ := exists_eq_ok_of_any root
  obtain rfl := of_decide_eq_true hroot
  have files : targets (.ofText "/r") detourPaths = [straight, detour] := by decide +kernel
  have bytes : ∀ t ∈ [straight, detour], t.path.isSound = true
      ∧ (Disk.read detourTree t.path).toOption.any (fun _ => true) = true := by decide +kernel
  have readable : ∀ t ∈ [straight, detour], t.IsReadable (Disk.read detourTree) := by
    intro t ht
    obtain ⟨content, hcontent, -⟩ := exists_eq_ok_of_any (bytes t ht).2
    exact ⟨(bytes t ht).1, content, hcontent⟩
  have keys : ∀ t ∈ [straight, detour], ∀ u ∈ [straight, detour],
      Store.storageKey t.key = Store.storageKey u.key → t.key = u.key := by decide +kernel
  have apart : ∀ t ∈ [straight, detour], t.path.IsApartFrom ["r", "d"] := by decide +kernel
  have named : ∀ name ∈ (["r", "d"] : List Text), Path.isName name = true := by decide +kernel
  obtain ⟨spellings, ⟨result, events, f, -, hflies, hland⟩, cleared⟩ :=
    @rows_as_written _ wellFormed links .excludeImports 1 (by decide) _ _ hreal _ _ files readable keys .empty
  have landed := cleared events _ f hflies (by rw [hland]; rfl)
  have directory : (Path.ofNames ["r", "d"]).toText = "/r/d" := by decide +kernel
  obtain ⟨hshown, hkeys, -⟩ := spellings straight (by simp) detour (by simp)
  obtain ⟨-, -, hstraight⟩ := landed straight (by simp)
  obtain ⟨hrow, -, hdetour⟩ := landed detour (by simp)
  have inside := (hdetour _ named (apart detour (by simp))).1
  have outside := (hstraight _ named (apart straight (by simp))).1
  rw [directory] at inside outside
  refine ⟨hshown.2 (by decide +kernel), mt hkeys.1 (by decide +kernel), ?_, hrow, inside.2 (by decide +kernel)⟩
  exact Option.isSome_iff_ne_none.2 (mt outside.1 (by decide +kernel))

end Analysis

end SourceAtlas
