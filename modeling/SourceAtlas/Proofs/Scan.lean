import Mathlib.Data.List.Nodup
import SourceAtlas.Proofs.Disk.Real
import SourceAtlas.Scan

/-!
What scans find. A scan makes the path of its root real twice, and goes over the directory that it comes to. The files
that it finds on a well-formed disk lie below this directory, by names such as there are, and none of them is found
twice.

Main statements: `GoesOver.scan_eq`, `scan_spec`.
-/

namespace SourceAtlas

open List (Perm)

/-- A file lies below a directory. -/
def FoundFile.IsBelow (directory : Path) (f : FoundFile) : Prop :=
  ∃ names, names ≠ [] ∧ (∀ name ∈ names, Path.isName name = true)
    ∧ f.path = ⟨directory.anchor, directory.parts ++ names⟩

/-- A file below a child of a directory is below the directory. -/
theorem FoundFile.IsBelow.of_child {directory : Path} {name : Text} {f : FoundFile}
    (h : f.IsBelow (directory.child name)) (hname : Path.isName name = true) : f.IsBelow directory := by
  obtain ⟨names, -, hnames, hpath⟩ := h
  refine ⟨name :: names, List.cons_ne_nil name names, ?_, ?_⟩
  · rw [List.forall_mem_cons]
    exact ⟨hname, hnames⟩
  · rw [hpath, Path.child, List.append_assoc, List.singleton_append]

namespace Listing

/-- The files of joined listings are those of all of them, in turn. -/
theorem files_concat (listings : List Listing) : (concat listings).files = listings.flatMap files := by
  induction listings with
  | nil => rfl
  | cons l rest ih => rw [List.flatMap_cons, ← ih]; rfl

end Listing

namespace Scan

/-! ## Sorting -/

/-- Inserting by name only changes the order. -/
theorem insertByName_perm (f : Found) (found : List Found) : (insertByName f found).Perm (f :: found) := by
  induction found with
  | nil => exact Perm.refl _
  | cons g rest ih =>
    unfold insertByName
    split
    · exact Perm.refl _
    · exact (ih.cons g).trans (Perm.swap f g rest)

/-- So does sorting by name. -/
theorem sortByName_perm (found : List Found) : (sortByName found).Perm found := by
  induction found with
  | nil => exact Perm.refl _
  | cons f rest ih => exact (insertByName_perm f _).trans (ih.cons f)

/-- The files of a directory come first, and then those of its inner directories, both by name. -/
theorem files_assemble (found : List Found) : (assemble found).files
    = (sortByName found).flatMap (fun e => e.itself.files)
      ++ (sortByName found).flatMap fun e => e.inside.files := by
  rw [assemble, Listing.append, Listing.files_concat, Listing.files_concat, List.flatMap_map, List.flatMap_map]

/-- The files of a directory, in whatever order. -/
theorem files_assemble_perm (found : List Found) : (assemble found).files.Perm
    (found.flatMap (fun e => e.itself.files) ++ found.flatMap (fun e => e.inside.files)) := by
  rw [files_assemble]
  exact ((sortByName_perm found).flatMap_right _).append ((sortByName_perm found).flatMap_right _)

/-! ## Entries -/

/-- What an entry of a directory comes to: a file of its own name at most, and distinct files below it. -/
structure Found.IsEntryOf (directory : Path) (e : Found) : Prop where
  named : Path.isName e.name = true
  itself : ∀ f ∈ e.itself.files, f.path = directory.child e.name
  single : (e.itself.files.map FoundFile.path).Nodup
  inside : ∀ f ∈ e.inside.files, f.IsBelow (directory.child e.name)
  distinct : (e.inside.files.map FoundFile.path).Nodup

/-- Children at the same path have the same name. -/
theorem name_eq_of_child_eq {directory : Path} {a b : Text} (h : directory.child a = directory.child b) :
    a = b := by
  simpa [Path.child] using h

/-- Nothing below a directory is the directory's own entry, or stands below another one. -/
theorem name_eq_of_isBelow_child {directory : Path} {a b : Text} {f g : FoundFile}
    (hf : f.IsBelow (directory.child a)) (hg : g.IsBelow (directory.child b)) (h : f.path = g.path) : a = b := by
  obtain ⟨names, -, -, hf⟩ := hf
  obtain ⟨others, -, -, hg⟩ := hg
  rw [hf, hg, Path.child, Path.child, Path.mk.injEq, List.append_assoc, List.append_assoc] at h
  exact (List.cons.inj (List.append_cancel_left h.2)).1

/-- No file below one child is another child. -/
theorem path_ne_child_of_isBelow_child {directory : Path} {a b : Text} {f : FoundFile}
    (hf : f.IsBelow (directory.child a)) : f.path ≠ directory.child b := by
  obtain ⟨names, hne, -, hf⟩ := hf
  intro h
  rw [hf, Path.child, Path.child, Path.mk.injEq, List.append_assoc] at h
  exact hne (List.cons.inj (List.append_cancel_left h.2)).2

/-- Entries come to distinct files if each of them does and files of different entries have different paths. -/
theorem nodup_paths_flatMap {found : List Found} (hnames : (found.map Found.name).Nodup)
    {part : Found → List FoundFile} (hsingle : ∀ e ∈ found, ((part e).map FoundFile.path).Nodup)
    (hapart : ∀ a ∈ found, ∀ b ∈ found, ∀ f ∈ part a, ∀ g ∈ part b, f.path = g.path → a.name = b.name) :
    ((found.flatMap part).map FoundFile.path).Nodup := by
  have apart : found.Pairwise fun a b => a.name ≠ b.name := List.pairwise_map.1 hnames
  rw [List.map_flatMap, List.nodup_flatMap]
  refine ⟨hsingle, apart.imp_of_mem fun ha hb hne => ?_⟩
  intro p hp hq
  obtain ⟨f, hf, rfl⟩ := List.mem_map.1 hp
  obtain ⟨g, hg, hpath⟩ := List.mem_map.1 hq
  exact hne (hapart _ ha _ hb f hf g hg hpath.symm)

/-- What entries with distinct names come to together. -/
theorem assemble_spec {directory : Path} {found : List Found} (h : ∀ e ∈ found, e.IsEntryOf directory)
    (hnames : (found.map Found.name).Nodup) :
    (∀ f ∈ (assemble found).files, f.IsBelow directory)
      ∧ ((assemble found).files.map FoundFile.path).Nodup := by
  have perm := files_assemble_perm found
  constructor
  · intro f hf
    -- a file is an entry of the directory or stands further down
    rcases List.mem_append.1 (perm.mem_iff.1 hf) with hf | hf
    · obtain ⟨e, he, hf⟩ := List.mem_flatMap.1 hf
      refine ⟨[e.name], List.cons_ne_nil _ _, ?_, (h e he).itself f hf⟩
      simpa using (h e he).named
    · obtain ⟨e, he, hf⟩ := List.mem_flatMap.1 hf
      exact ((h e he).inside f hf).of_child (h e he).named
  · rw [(perm.map FoundFile.path).nodup_iff, List.map_append, List.nodup_append]
    refine ⟨?_, ?_, ?_⟩
    · refine nodup_paths_flatMap hnames (fun e he => (h e he).single) fun a ha b hb f hf g hg hpath => ?_
      rw [(h a ha).itself f hf, (h b hb).itself g hg] at hpath
      exact name_eq_of_child_eq hpath
    · refine nodup_paths_flatMap hnames (fun e he => (h e he).distinct) fun a ha b hb f hf g hg hpath => ?_
      exact name_eq_of_isBelow_child ((h a ha).inside f hf) ((h b hb).inside g hg) hpath
    -- an entry of the directory stands nowhere further down
    · intro p hp q hq hpq
      obtain ⟨f, hf, rfl⟩ := List.mem_map.1 hp
      obtain ⟨g, hg, rfl⟩ := List.mem_map.1 hq
      obtain ⟨a, ha, hf⟩ := List.mem_flatMap.1 hf
      obtain ⟨b, hb, hg⟩ := List.mem_flatMap.1 hg
      rw [(h a ha).itself f hf] at hpq
      exact path_ne_child_of_isBelow_child ((h b hb).inside g hg) hpq.symm

/-- A file is listed by its path. -/
theorem path_of_mem_file {spec : Ignore.Spec} {path : Path} {relative : Text} {size : Nat} {f : FoundFile}
    (h : f ∈ (file spec path relative size).files) : f.path = path := by
  unfold file at h
  split at h
  · cases h
  · rw [List.mem_singleton.1 h]

/-- A file is listed at most once. -/
theorem length_file_le (spec : Ignore.Spec) (path : Path) (relative : Text) (size : Nat) :
    (file spec path relative size).files.length ≤ 1 := by
  unfold file
  split <;> simp

/-- A link is listed by its own path. -/
theorem path_of_mem_link {disk : Disk} {spec : Ignore.Spec} {path : Path} {relative : Text} {f : FoundFile}
    (h : f ∈ (link disk spec path relative).files) : f.path = path := by
  unfold link at h
  split at h
  · cases h
  · cases h
  · exact path_of_mem_file h
  · cases h
  · cases h

/-- A link is listed at most once. -/
theorem length_link_le (disk : Disk) (spec : Ignore.Spec) (path : Path) (relative : Text) :
    (link disk spec path relative).files.length ≤ 1 := by
  unfold link
  split
  · exact Nat.zero_le 1
  · exact Nat.zero_le 1
  · exact length_file_le _ _ _ _
  · exact Nat.zero_le 1
  · exact Nat.zero_le 1

theorem nodup_of_length_le {α : Type} {l : List α} (h : l.length ≤ 1) : l.Nodup := by
  match l with
  | [] => exact List.nodup_nil
  | [a] => exact List.nodup_singleton a
  | a :: b :: rest => simp at h

/-- An entry that is no directory comes to a file of its own name at most. -/
theorem isEntryOf_of_itself {directory : Path} {name : Text} {l : Listing} (hname : Path.isName name = true)
    (hpath : ∀ f ∈ l.files, f.path = directory.child name) (hlength : l.files.length ≤ 1) :
    Found.IsEntryOf directory { name, itself := l } where
  named := hname
  itself := hpath
  single := nodup_of_length_le (by rw [List.length_map]; exact hlength)
  inside := fun f hf => nomatch hf
  distinct := List.nodup_nil

/-- All entries of a directory are looked at, by their names. -/
theorem map_name_allEntries (disk : Disk) (spec : Ignore.Spec) (directory : Path) (lead : Text)
    (entries : List (Text × Node)) :
    (allEntries disk spec directory lead entries).map Found.name = entries.map Prod.fst := by
  induction entries with
  | nil => rfl
  | cons e rest ih =>
    obtain ⟨name, node⟩ := e
    have first : (entry disk spec (directory.child name) (lead ++ name) name node).name = name := by
      cases node with
      | directory entries =>
        unfold entry
        split <;> rfl
      | _ => rfl
    rw [allEntries, List.map_cons, List.map_cons, ih, first]

/-- On a well-formed disk the names in a directory are distinct. -/
theorem nodup_of_areWellFormed {entries : List (Text × Node)} (h : Node.areWellFormed entries = true) :
    (entries.map Prod.fst).Nodup := by
  induction entries with
  | nil => exact List.nodup_nil
  | cons e rest ih =>
    obtain ⟨-, hdistinct, -, hrest⟩ := Node.areWellFormed_cons.1 h
    refine List.nodup_cons.2 ⟨?_, ih hrest⟩
    intro hmem
    obtain ⟨other, hother, heq⟩ := List.mem_map.1 hmem
    exact hdistinct other hother heq

mutual

/-- What is found of an entry is that entry itself, or lies below it and is listed once. -/
theorem entry_isEntryOf (disk : Disk) (spec : Ignore.Spec) (directory : Path) (relative name : Text)
    (node : Node) (hname : Path.isName name = true) (hnode : node.isWellFormed = true) :
    (entry disk spec (directory.child name) relative name node).IsEntryOf directory := by
  match node with
  | .file content =>
    exact isEntryOf_of_itself hname (fun f hf => path_of_mem_file hf) (length_file_le _ _ _ _)
  | .database table =>
    exact isEntryOf_of_itself hname (fun f hf => path_of_mem_file hf) (length_file_le _ _ _ _)
  | .link target => exact isEntryOf_of_itself hname (fun f hf => path_of_mem_link hf) (length_link_le _ _ _ _)
  | .special => exact isEntryOf_of_itself hname (fun f hf => nomatch hf) (Nat.zero_le 1)
  | .directory entries =>
    rw [entry]
    split
    · exact isEntryOf_of_itself hname (fun f hf => nomatch hf) (Nat.zero_le 1)
    · have names := map_name_allEntries disk spec (directory.child name) (relative ++ "/") entries
      obtain ⟨below, distinct⟩ := assemble_spec
        (allEntries_isEntryOf disk spec (directory.child name) (relative ++ "/") entries hnode)
        (names ▸ nodup_of_areWellFormed hnode)
      exact ⟨hname, (fun f hf => nomatch hf), List.nodup_nil, below, distinct⟩

theorem allEntries_isEntryOf (disk : Disk) (spec : Ignore.Spec) (directory : Path) (lead : Text)
    (entries : List (Text × Node)) (hentries : Node.areWellFormed entries = true) :
    ∀ e ∈ allEntries disk spec directory lead entries, e.IsEntryOf directory := by
  match entries with
  | [] => exact fun e he => nomatch he
  | (name, node) :: rest =>
    obtain ⟨hname, -, hnode, hrest⟩ := Node.areWellFormed_cons.1 hentries
    rw [allEntries, List.forall_mem_cons]
    exact ⟨entry_isEntryOf disk spec directory (lead ++ name) name node hname hnode,
      allEntries_isEntryOf disk spec directory lead rest hrest⟩

end

/-! ## Whole scans -/

/-- What is found in a directory lies below it, and is listed once. -/
theorem directory_spec (disk : Disk) (spec : Ignore.Spec) (root : Path) {node : Node}
    (hnode : node.isWellFormed = true) :
    (∀ f ∈ (directory disk spec root node).files, f.IsBelow root)
      ∧ ((directory disk spec root node).files.map FoundFile.path).Nodup := by
  cases node with
  | directory entries =>
    have names := map_name_allEntries disk spec root [] entries
    exact assemble_spec (allEntries_isEntryOf disk spec root [] entries hnode)
      (names ▸ nodup_of_areWellFormed hnode)
  | _ => exact ⟨(fun f hf => nomatch hf), List.nodup_nil⟩

/-! ## Roots -/

/-- The directory that a scan goes over: the path of its root is made real, a directory is there, and the real path is
made real once more. The two differ only where a link leads back to itself on the way. -/
structure GoesOver (disk : Disk) (root once real : Path) : Prop where
  resolve_eq : Disk.resolve disk root = .ok once
  isDirectory : Disk.isDirectory disk once = true
  again : Disk.resolve disk once = .ok real

section

variable {disk : Disk} {exclusions : Exclusions} {root once real : Path} {listing : Listing}

/-- A scan goes over the directory that its root is resolved to. -/
theorem exists_goesOver (hdisk : disk.isWellFormed = true) (honce : Disk.resolve disk root = .ok once)
    (hdirectory : Disk.isDirectory disk once = true) : ∃ real, GoesOver disk root once real := by
  obtain ⟨real, -, hreal, -⟩ := Disk.exists_resolve_of_isDirectory hdisk hdirectory
  exact ⟨real, honce, hdirectory, hreal⟩

/-- The root of a scan that leads to a directory as it is given is made real at once. -/
theorem goesOver_of_isDirectory (hdisk : disk.isWellFormed = true) (hroot : Disk.isDirectory disk root = true)
    (hreal : Disk.resolve disk root = .ok real) : GoesOver disk root real real := by
  obtain ⟨-, hdirectory, hself⟩ := Disk.resolve_of_isDirectory hdisk hroot hreal
  exact ⟨hreal, hdirectory, hself⟩

/-- A scan goes over the same directory from its real path. -/
theorem GoesOver.areReal (h : GoesOver disk root once real) (hdisk : disk.isWellFormed = true) :
    Disk.AreReal disk real.parts ∧ Disk.isDirectory disk real = true ∧ Disk.resolve disk real = .ok real :=
  Disk.resolve_of_isDirectory hdisk h.isDirectory h.again

/-- A directory stands under the real names, and the real path leads to it. -/
theorem GoesOver.exists_directory (h : GoesOver disk root once real) (hdisk : disk.isWellFormed = true) :
    real.anchor = .root ∧ ∃ entries, disk.find? real.parts = some (.directory entries)
      ∧ Disk.look disk real = .ok (.directory entries) := by
  obtain ⟨other, entries, hother, hanchor, hfind, -⟩ := Disk.exists_resolve_of_isDirectory hdisk h.isDirectory
  obtain rfl := Except.ok.inj (h.again.symm.trans hother)
  obtain ⟨hlook, -⟩ := (h.areReal hdisk).1.resolve_eq hdisk hfind
  refine ⟨hanchor, entries, hfind, ?_⟩
  rwa [show Path.ofNames real.parts = real by rw [Path.ofNames, ← hanchor]] at hlook

/-- What a scan finds is the listing of the directory that it goes over. -/
theorem GoesOver.scan_eq (h : GoesOver disk root once real) :
    scan disk exclusions root = Scan.listing disk exclusions real := by
  rw [scan, realRoot, h.resolve_eq]
  change (if Disk.isDirectory disk once = true then scanQuietly disk exclusions once else _) = _
  rw [if_pos h.isDirectory, scanQuietly, realRoot, h.again]
  rfl

/-- A scan that is completed has gone over a directory. -/
theorem exists_goesOver_of_scan (h : scan disk exclusions root = .ok listing) :
    ∃ once real, GoesOver disk root once real := by
  unfold scan scanQuietly realRoot at h
  rcases honce : Disk.resolve disk root with fault | once
  · rw [honce] at h
    cases h
  · rw [honce] at h
    change (if Disk.isDirectory disk once = true then _ else _) = _ at h
    split at h
    · next hdirectory =>
      rcases hreal : Disk.resolve disk once with fault | real
      · rw [hreal] at h
        cases h
      · exact ⟨once, real, honce, hdirectory, hreal⟩
    · cases h

/-- A scan of a well-formed disk finds files below the directory that it goes over, and none of them twice. -/
theorem scan_spec (hdisk : disk.isWellFormed = true) (h : scan disk exclusions root = .ok listing) :
    ∃ once real, GoesOver disk root once real ∧ (∀ f ∈ listing.files, f.IsBelow real)
      ∧ (listing.files.map FoundFile.path).Nodup := by
  obtain ⟨once, real, hgoes⟩ := exists_goesOver_of_scan h
  refine ⟨once, real, hgoes, ?_⟩
  obtain ⟨-, entries, hfind, hlook⟩ := hgoes.exists_directory hdisk
  rw [hgoes.scan_eq] at h
  unfold Scan.listing at h
  split at h
  · cases h
  · next spec _ =>
    rw [← Except.ok.inj h, hlook]
    exact directory_spec disk spec real (Node.isWellFormed_find? hdisk hfind)

end

end Scan

end SourceAtlas
