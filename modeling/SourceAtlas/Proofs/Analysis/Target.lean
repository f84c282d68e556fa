import SourceAtlas.Analysis
import SourceAtlas.Proofs.Path.Normal
import SourceAtlas.Proofs.Scan.Links

/-!
The files of the analysis of a directory. A file that was scanned is seen from the root of the run by names of which
the last is that of its full path, since no directory is where the file is. Hence files with one key in the store,
from whatever roots they are seen, have the same chunks extracted from the same content.

Main statements: `Target.extract_eq_of_storageKey_eq`, `targets_spec`.
-/

namespace SourceAtlas.Analysis

/-- What is read of a file is the text of its bytes, and the fingerprint of this text. -/
theorem content_eq_ok_iff {read : Path → Except Disk.Failure Bytes} {path : Path} {source fingerprint : Text} :
    content read path = .ok (source, fingerprint) ↔ path.isSound = true
      ∧ (∃ bytes, read path = .ok bytes ∧ source = Utf8.decode bytes)
      ∧ Fingerprint.ofText source = .ok fingerprint := by
  unfold content
  constructor
  · intro h
    split at h
    · cases h
    · next hsound =>
      split at h
      · cases h
      · next bytes hbytes =>
        dsimp only at h
        split at h
        · cases h
        · next print hprint =>
          obtain ⟨rfl, rfl⟩ := Prod.mk.inj (Except.ok.inj h)
          exact ⟨Disk.refusal?_eq_none_iff.1 hsound, ⟨bytes, hbytes, rfl⟩, hprint⟩
  · rintro ⟨hsound, ⟨bytes, hbytes, rfl⟩, hprint⟩
    rw [Disk.refusal?_eq_none_iff.2 hsound, hbytes]
    dsimp only
    rw [hprint]

/-- A file is seen by a path that ends in the last name of its full path and holds no name but its names. -/
structure Target.IsProper (t : Target) : Prop where
  plain : t.path.IsPlain
  name_shown : t.shown.name = t.path.name
  hasNull_shown : t.path.hasNull = false → t.shown.hasNull = false

namespace Target

/-- The key of a file gives back its path. -/
theorem path_eq_of_key_eq {a b : Target} (ha : a.IsProper) (hb : b.IsProper) (h : a.key = b.key) :
    a.path = b.path :=
  Path.eq_of_toText_eq ha.plain hb.plain h

/-- Files with one stored key have last names that are spelt alike. -/
theorem spell_name_eq_of_storageKey_eq {a b : Target} (ha : a.IsProper) (hb : b.IsProper)
    (h : Store.storageKey a.key = Store.storageKey b.key) :
    Utf8.spellSurrogates a.path.name = Utf8.spellSurrogates b.path.name := by
  have last : ∀ p : Path, Utf8.spellSurrogates p.name
      = ((p.parts.map Utf8.spellSurrogates).getLast?).getD [] := by
    intro p
    rw [Path.name, List.getLast?_map]
    cases p.parts.getLast? with
    | none => rfl
    | some name => rfl
  rw [last, last, Path.map_spell_eq_of_storageKey_eq ha.plain hb.plain h]

/-- From files with one stored key the same is extracted if they have the same content. -/
theorem extract_eq_of_storageKey_eq {a b : Target} (ha : a.IsProper) (hb : b.IsProper)
    (hasound : a.path.isSound = true) (hbsound : b.path.isSound = true)
    (h : Store.storageKey a.key = Store.storageKey b.key) (policy : Policy) (source : Text) :
    extract policy a.shown source = extract policy b.shown source := by
  refine extract_eq_of_isRead_eq ?_ policy source
  refine isRead_eq_of_spell_eq (ha.hasNull_shown (Path.hasNull_of_isSound hasound))
    (hb.hasNull_shown (Path.hasNull_of_isSound hbsound)) ?_
  rw [ha.name_shown, hb.name_shown, spell_name_eq_of_storageKey_eq ha hb h]

end Target

/-! ## Scanned files -/

section

variable {disk : Disk} {exclusions : Scan.Exclusions} {root once real : Path} {listing : Listing}

/-- The path of a file in a directory tree: it leads down by names such as there are, and the root of the run is
neither there nor below. -/
structure IsFilePath (once path : Path) : Prop where
  direct : path.IsDirect
  isName : ∀ name ∈ path.parts, Path.isName name = true
  not_prefix : ¬ path.parts <+: once.parts

/-- A real path leads straight down. -/
theorem isDirect_of_resolve (h : Disk.resolve disk root = .ok once) : once.IsDirect := by
  rw [Disk.eq_ofNames_of_resolve h]
  refine ⟨rfl, fun name hname => ?_⟩
  exact (Disk.forall_mem_realNames (p := fun _ => True) (fun _ _ _ _ _ => trivial) (fun _ _ => trivial) name hname).2

/-- The files that a scan finds are at such paths. -/
theorem isFilePath_of_mem_scan (hdisk : disk.isWellFormed = true) (hroot : Scan.GoesOver disk root once real)
    (hscan : Scan.scan disk exclusions root = .ok listing) {f : FoundFile} (hf : f ∈ listing.files)
    (hbelow : f.IsBelow real) : IsFilePath once f.path := by
  obtain ⟨names, -, hnames, hpath⟩ := hbelow
  have isName : ∀ name ∈ f.path.parts, Path.isName name = true := by
    intro name hname
    rw [hpath] at hname
    rcases List.mem_append.1 hname with hname | hname
    · exact (hroot.areReal hdisk).1.isName hdisk name hname
    · exact hnames name hname
  have anchor : f.path.anchor = .root := by
    rw [hpath]
    exact (hroot.exists_directory hdisk).1
  refine ⟨⟨anchor, fun name hname => Path.ne_above_of_isName (isName name hname)⟩, isName, fun hprefix => ?_⟩
  -- the way to the root of the run would lead through the file
  have direct := isDirect_of_resolve hroot.resolve_eq
  have self : ∀ {p : Path}, p.anchor = .root → Path.ofNames p.parts = p := fun h => by rw [Path.ofNames, ← h]
  have directory := Disk.isDirectory_of_prefix hprefix direct.ne_above
    (by rw [self direct.anchor_eq]; exact hroot.isDirectory)
  rw [self anchor] at directory
  obtain ⟨place, hplace⟩ := Scan.exists_isPlacedAt_of_mem hdisk hroot hscan hf
  rw [hplace.isDirectory_eq hdisk] at directory
  cases directory

/-- The path of a file that was found is seen from the root as it is. -/
theorem IsFilePath.join_eq {path : Path} (h : IsFilePath once path) : once.join path = path := by
  rw [Path.join, if_pos (by rw [Path.isAbsolute, h.direct.anchor_eq]; rfl)]

/-- Such a file is a proper target. -/
theorem IsFilePath.isProper {path : Path} (h : IsFilePath once path) (honce : once.IsDirect) :
    (Target.ofPath once path).IsProper := by
  have hne : path.parts ≠ [] := fun hnil => h.not_prefix (hnil ▸ List.nil_prefix)
  obtain ⟨common, up, down, hcommon, hdown, hseen⟩ := Path.exists_relativeTo_eq once path
  rw [honce.normal_eq] at hcommon
  rw [h.direct.normal_eq] at hdown
  have shown : (Target.ofPath once path).shown = ⟨.relative, up.map (fun _ => Path.above) ++ down⟩ := by
    rw [Target.ofPath, h.join_eq, hseen]
  -- names lead down to the file, and the last of them is its own
  have last : down ≠ [] := by
    rintro rfl
    rw [List.append_nil] at hdown
    exact h.not_prefix ⟨up, by rw [hdown, ← hcommon]⟩
  refine ⟨?_, ?_, ?_⟩
  · rw [Target.ofPath, h.join_eq]
    exact ⟨h.direct.anchor_eq, hne, fun name hname => Path.not_mem_of_isName (h.isName name hname)⟩
  · rw [shown, Target.ofPath, h.join_eq, Path.name, Path.name, hdown, List.getLast?_append, List.getLast?_append,
      List.getLast?_eq_some_getLast last, Option.some_or, Option.some_or]
  · rw [shown, Target.ofPath, h.join_eq, Path.hasNull, Path.hasNull, hdown, List.any_append, List.any_append,
      Bool.or_eq_false_iff, Bool.or_eq_false_iff]
    rintro ⟨-, hnone⟩
    refine ⟨?_, hnone⟩
    rw [List.any_eq_false]
    intro name hname
    obtain ⟨_, -, rfl⟩ := List.mem_map.1 hname
    decide

/-- Files that are seen by one path are one file. -/
theorem IsFilePath.eq_of_shown_eq {path other : Path} (h : IsFilePath once path) (hother : IsFilePath once other)
    (heq : (Target.ofPath once path).shown.toText = (Target.ofPath once other).shown.toText) : path = other := by
  rw [Target.ofPath, Target.ofPath, h.join_eq, hother.join_eq] at heq
  have named : ∀ {p : Path}, IsFilePath once p → p.IsNamed := fun h name hname => .inr (h.isName name hname)
  have seen := (Path.toText_inj ((named h).relativeTo once) ((named hother).relativeTo once)).1 heq
  exact (h.direct.normal_eq_iff hother.direct).1 (Path.relativeTo_eq_iff.1 seen)

/-- The files of the analysis of a directory are proper, and no two of them share a key or are seen by the
same path. -/
theorem targets_spec (hdisk : disk.isWellFormed = true) (hscan : Scan.scan disk exclusions root = .ok listing)
    (honce : Disk.resolve disk root = .ok once) :
    (∀ t ∈ targets once (listing.files.map FoundFile.path), t.IsProper)
      ∧ ((targets once (listing.files.map FoundFile.path)).map Target.key).Nodup
      ∧ ((targets once (listing.files.map FoundFile.path)).map fun t => t.shown.toText).Nodup := by
  obtain ⟨other, real, hroot, below, distinct⟩ := Scan.scan_spec hdisk hscan
  obtain rfl := Except.ok.inj (honce.symm.trans hroot.resolve_eq)
  have direct := isDirect_of_resolve honce
  have isFile : ∀ f ∈ listing.files, IsFilePath once f.path :=
    fun f hf => isFilePath_of_mem_scan hdisk hroot hscan hf (below f hf)
  have apart : listing.files.Pairwise fun f g => f.path ≠ g.path := List.pairwise_map.1 distinct
  refine ⟨?_, ?_, ?_⟩
  · intro t ht
    obtain ⟨path, hpath, rfl⟩ := List.mem_map.1 ht
    obtain ⟨f, hf, rfl⟩ := List.mem_map.1 hpath
    exact (isFile f hf).isProper direct
  · rw [targets, List.map_map, List.map_map]
    refine List.pairwise_map.2 (apart.imp_of_mem fun hf hg hne heq => hne ?_)
    have same := Target.path_eq_of_key_eq ((isFile _ hf).isProper direct) ((isFile _ hg).isProper direct) heq
    rwa [Target.ofPath, Target.ofPath, (isFile _ hf).join_eq, (isFile _ hg).join_eq] at same
  · rw [targets, List.map_map, List.map_map]
    exact List.pairwise_map.2 (apart.imp_of_mem fun hf hg hne heq =>
      hne ((isFile _ hf).eq_of_shown_eq (isFile _ hg) heq))

end

end SourceAtlas.Analysis
