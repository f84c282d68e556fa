import SourceAtlas.Proofs.Ignore.Shape
import SourceAtlas.Proofs.Scan.Exactness

/-!
Pruning. A scan does not enter directories that are ignored. If no line is negated, that loses nothing that is not
ignored itself, unless a line ends in a set that holds a slash: such a line can match a directory by the slash at
its end, and match nothing in it.

Main statements: `ignores_below`, `scan_lists_unignored`, `not_listsUnignored_on_slashSetTree`.
-/

namespace SourceAtlas.Scan

/-- What lies below an ignored directory is ignored, if no line is negated or ends in a set that holds a slash. -/
theorem ignores_below {lines : List Text} {spec : Ignore.Spec} (hspec : Ignore.Spec.ofLines lines = .ok spec)
    (hlines : ∀ line ∈ lines, Ignore.isNegated line = false ∧ Ignore.endsOnSlash line = false)
    {front more : List Text} (hfront : front ≠ []) (hmore : more ≠ [])
    (hnames : ∀ name ∈ front ++ more, Path.isName name = true)
    (h : spec.ignores (relative front ++ "/") = true) : spec.ignores (relative (front ++ more)) = true := by
  have plain : ∀ rule ∈ spec, rule.negated = false := by
    intro rule hrule
    obtain ⟨line, hline, hofLine⟩ := Ignore.Spec.exists_line_of_mem hspec hrule
    rw [(Ignore.ofLine_eq_ok_some hofLine).1]
    exact (hlines line hline).1
  have seen : ∀ t, Ignore.Spec.seen (relative front ++ t) = relative front ++ t :=
    seen_relative_append hfront fun name hname => hnames name (List.mem_append_left more hname)
  rw [Ignore.Spec.ignores_iff_of_forall _ plain, seen] at h
  rw [Ignore.Spec.ignores_iff_of_forall _ plain, relative_append hfront hmore, List.append_assoc, seen,
    ← List.append_assoc]
  obtain ⟨rule, hrule, hsearch⟩ := h
  obtain ⟨line, hline, hofLine⟩ := Ignore.Spec.exists_line_of_mem hspec hrule
  exact ⟨rule, hrule, Ignore.isSome_search_below hofLine (hlines line hline).2 hsearch _⟩

/-- A listing has exactly the files of a tree that are not ignored themselves. -/
def ListsUnignored (disk : Disk) (spec : Ignore.Spec) (place : List Text) (tree : Node) (l : Listing) : Prop :=
  ∀ f, f ∈ l.files ↔ ∃ names, IsFile disk place tree names f.size ∧ spec.ignores (relative names) = false
    ∧ f.path = .ofNames (place ++ names)

/-- A scan lists exactly the files that are not ignored themselves, if no line is negated or ends in a set that holds
a slash. For everything below an ignored directory is ignored. -/
theorem scan_lists_unignored {disk : Disk} (hdisk : disk.isWellFormed = true) {exclusions : Exclusions}
    {root once real : Path} (hroot : GoesOver disk root once real) {spec : Ignore.Spec}
    (hspec : rules disk exclusions real = .ok spec)
    (hlines : ∀ line ∈ lines disk exclusions real,
      Ignore.isNegated line = false ∧ Ignore.endsOnSlash line = false) :
    ∃ entries listing, disk.find? real.parts = some (.directory entries)
      ∧ scan disk exclusions root = .ok listing
      ∧ ListsUnignored disk spec real.parts (.directory entries) listing
      ∧ ∀ front more, front ≠ [] → more ≠ [] → (∀ name ∈ front ++ more, Path.isName name = true) →
        spec.ignores (relative front ++ "/") = true → spec.ignores (relative (front ++ more)) = true := by
  have below : ∀ front more, front ≠ [] → more ≠ [] → (∀ name ∈ front ++ more, Path.isName name = true) →
      spec.ignores (relative front ++ "/") = true → spec.ignores (relative (front ++ more)) = true :=
    fun front more hfront hmore hnames => ignores_below hspec hlines hfront hmore hnames
  obtain ⟨entries, hfind, hscan⟩ := exists_scan_of_rules hdisk hroot exclusions
  obtain ⟨listing, hlisting, hfiles, -⟩ := hscan spec hspec
  refine ⟨entries, listing, hfind, hlisting, fun f => ?_, below⟩
  rw [hfiles]
  refine exists_congr fun names => ?_
  constructor
  · exact fun ⟨h, hpath⟩ => ⟨h.file, h.kept, hpath⟩
  · rintro ⟨hfile, hkept, hpath⟩
    refine ⟨⟨hfile, fun front hfront hprefix => ?_, hkept⟩, hpath⟩
    have hnames := hfile.isName (Node.isWellFormed_find? hdisk hfind)
    obtain ⟨more, hmore, rfl⟩ := exists_append_of_prefix_dropLast hfront hprefix
    -- an ignored directory on the way would have the file ignored as well
    by_contra hignored
    rw [Bool.not_eq_false] at hignored
    rw [below front more hfront hmore hnames hignored] at hkept
    cases hkept

/-! ### Examples -/

/-- In a tree with some ignored files and directories, exactly those files are left out. -/
theorem scan_lists_unignored_on_mixedTree : ∃ spec entries listing,
    rules mixedTree .standard (.ofText "/t") = .ok spec
      ∧ scan mixedTree .standard (.ofText "/t") = .ok listing ∧ listing.files.length = 4
      ∧ ListsUnignored mixedTree spec ["t"] (.directory entries) listing
      ∧ spec.ignores (relative ["a", "dist", "y.py"]) = true := by
  have wellFormed : mixedTree.isWellFormed = true := by decide +kernel
  have root : Disk.isDirectory mixedTree (.ofText "/t") = true := by decide +kernel
  have resolved : (Disk.resolve mixedTree (.ofText "/t")).toOption.any (fun p => p = .ofText "/t") = true := by
    decide +kernel
  have goes := goesOver_of_isDirectory wellFormed root (eq_ok_of_any resolved)
  have accepted : (rules mixedTree .standard (.ofText "/t")).toOption.any
      (fun spec => spec.ignores (relative ["a", "dist"] ++ "/")) = true := by decide +kernel
  have plain : (lines mixedTree .standard (.ofText "/t")).all
      (fun line => !Ignore.isNegated line && !Ignore.endsOnSlash line) = true := by decide +kernel
  obtain ⟨spec, hspec, hdirectory⟩ := exists_eq_ok_of_any accepted
  obtain ⟨entries, listing, -, hscan, hlists, hbelow⟩ :=
    scan_lists_unignored wellFormed goes hspec fun line hline => by
      have := List.all_eq_true.1 plain line hline
      simpa using this
  have count : (scan mixedTree .standard (.ofText "/t")).toOption.any (fun l => l.files.length == 4) = true := by
    decide +kernel
  obtain ⟨_, hagain, hcount⟩ := exists_eq_ok_of_any count
  obtain rfl := Except.ok.inj (hscan.symm.trans hagain)
  refine ⟨spec, entries, listing, hspec, hscan, beq_iff_eq.1 hcount, hlists, ?_⟩
  exact hbelow ["a", "dist"] ["y.py"] (by simp) (by simp) (by decide) hdirectory

/-- A list of patterns with a set that takes a slash, and a directory that it matches by the slash at its end. -/
@[irreducible] def slashSetTree : Disk :=
  .directory [("t", .directory [("d", .directory [("f.py", .file [])]),
    (".gitignore", .file (("d[!x]\n" : Text).map fun c => UInt8.ofNat c.val))])]

/-- The directory is ignored and its file is not, so that the scan misses a file that is not ignored. -/
theorem not_listsUnignored_on_slashSetTree : ∃ spec entries listing,
    rules slashSetTree .standard (.ofText "/t") = .ok spec
      ∧ (∀ line ∈ lines slashSetTree .standard (.ofText "/t"), Ignore.isNegated line = false)
      ∧ slashSetTree.find? ["t"] = some (.directory entries)
      ∧ scan slashSetTree .standard (.ofText "/t") = .ok listing
      ∧ spec.ignores (relative ["d"] ++ "/") = true ∧ spec.ignores (relative ["d", "f.py"]) = false
      ∧ ¬ ListsUnignored slashSetTree spec ["t"] (.directory entries) listing := by
  have wellFormed : slashSetTree.isWellFormed = true := by decide +kernel
  have root : Disk.isDirectory slashSetTree (.ofText "/t") = true := by decide +kernel
  have resolved : (Disk.resolve slashSetTree (.ofText "/t")).toOption.any (fun p => p = .ofText "/t") = true := by
    decide +kernel
  have accepted : (rules slashSetTree .standard (.ofText "/t")).toOption.any (fun spec =>
      spec.ignores (relative ["d"] ++ "/") && !spec.ignores (relative ["d", "f.py"])) = true := by decide +kernel
  have plain : (lines slashSetTree .standard (.ofText "/t")).all (fun line => !Ignore.isNegated line) = true := by
    decide +kernel
  have stands : (slashSetTree.find? ((["t"] : List Text) ++ (["d", "f.py"] : List Text))).any
      (fun node => !node.isLink && node.isRegular && node.size == 0) = true := by decide +kernel
  have missed : (scan slashSetTree .standard (.ofText "/t")).toOption.any
      (fun l => l.files.all fun f => f.path != .ofNames ["t", "d", "f.py"]) = true := by decide +kernel
  obtain ⟨spec, hspec, hverdicts⟩ := exists_eq_ok_of_any accepted
  obtain ⟨hdirectory, hkept⟩ := Bool.and_eq_true_iff.1 hverdicts
  rw [Bool.not_eq_true'] at hkept
  obtain ⟨entries, hfind, hscan⟩ :=
    exists_scan_of_rules wellFormed (goesOver_of_isDirectory wellFormed root (eq_ok_of_any resolved)) .standard
  obtain ⟨listing, hlisting, -⟩ := hscan spec hspec
  have hfound : slashSetTree.find? ["t"] = some (.directory entries) := hfind
  refine ⟨spec, entries, listing, hspec, fun line hline => ?_, hfound, hlisting, hdirectory, hkept, fun h => ?_⟩
  · simpa using List.all_eq_true.1 plain line hline
  · obtain ⟨node, hnode, hfile⟩ := (Option.any_eq_true _ _).1 stands
    rw [Node.find?_append, hfound, Option.bind_some] at hnode
    simp only [Bool.and_eq_true, Bool.not_eq_true', beq_iff_eq] at hfile
    obtain ⟨⟨hlink, hregular⟩, hsize⟩ := hfile
    have file : IsFile slashSetTree ["t"] (.directory entries) ["d", "f.py"] 0 :=
      ⟨node, node, hnode, by rw [hlink]; rfl, hregular, hsize⟩
    have found := (h ⟨.ofNames ["t", "d", "f.py"], 0⟩).2 ⟨["d", "f.py"], file, hkept, rfl⟩
    obtain ⟨_, hagain, hmissed⟩ := exists_eq_ok_of_any missed
    obtain rfl := Except.ok.inj (hlisting.symm.trans hagain)
    exact absurd rfl (bne_iff_ne.1 (List.all_eq_true.1 hmissed _ found))

end SourceAtlas.Scan
