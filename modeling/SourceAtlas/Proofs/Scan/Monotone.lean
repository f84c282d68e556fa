import SourceAtlas.Proofs.Disk.Contents
import SourceAtlas.Proofs.Ignore.Verdict
import SourceAtlas.Proofs.Scan.Exactness

/-!
More patterns, fewer files. A line that is not negated, put at the end of the patterns of a directory, reveals
nothing: each path that is still found was found before, and those that are left stand in the same order.

Main statement: `scan_sublist_of_line`.
-/

namespace SourceAtlas

theorem Node.isRegular_bare (node : Node) : node.bare.isRegular = node.isRegular := by
  cases node with
  | _ => rfl

theorem Node.isRegular_eq_of_bare_eq {node other : Node} (h : node.bare = other.bare) :
    node.isRegular = other.isRegular := by
  rw [← isRegular_bare, h, isRegular_bare]

namespace Scan

variable {disk other : Disk} {spec fewer : Ignore.Spec} {place : List Text} {tree there : Node} {names : List Text}

/-- On disks that are alike but for contents the same paths are those of files. -/
theorem exists_isFile_of_bare_eq (hdisk : disk.bare = other.bare) (htree : tree.bare = there.bare) {size : Nat}
    (h : IsFile other place there names size) : ∃ size, IsFile disk place tree names size := by
  obtain ⟨node, content, hnode, hcontent, hregular, -⟩ := h
  obtain ⟨found, hfound, hsame⟩ := Node.exists_find?_of_bare_eq htree hnode
  by_cases hlink : node.isLink = true
  · rw [if_pos hlink] at hcontent
    obtain ⟨leads, hleads, halike⟩ := Disk.exists_look_of_bare_eq hdisk hcontent
    refine ⟨_, found, leads, hfound, ?_, (Node.isRegular_eq_of_bare_eq halike).trans hregular, rfl⟩
    rw [if_pos ((Node.isLink_eq_of_bare_eq hsame).trans hlink), hleads]
  · rw [if_neg hlink] at hcontent
    subst hcontent
    refine ⟨_, found, found, hfound, ?_, (Node.isRegular_eq_of_bare_eq hsame).trans hregular, rfl⟩
    rw [if_neg (by rwa [Node.isLink_eq_of_bare_eq hsame])]

/-- What is listed by more rules is listed by fewer, if these ignore no more. -/
theorem exists_isListed_of_bare_eq (hdisk : disk.bare = other.bare) (htree : tree.bare = there.bare)
    (hkeeps : ∀ path, fewer.ignores path = true → spec.ignores path = true) {size : Nat}
    (h : IsListed other spec place there names size) : ∃ size, IsListed disk fewer place tree names size := by
  have kept : ∀ path, spec.ignores path = false → fewer.ignores path = false := by
    intro path hpath
    by_contra hignored
    rw [hkeeps path (by simpa using hignored)] at hpath
    cases hpath
  obtain ⟨found, hfile⟩ := exists_isFile_of_bare_eq hdisk htree h.file
  exact ⟨found, hfile, fun front hfront hprefix => kept _ (h.entered front hfront hprefix), kept _ h.kept⟩

/-- A scan goes over the same directory on disks with the same ways. -/
theorem GoesOver.of_sameWays {a b : Disk} {root once real : Path} (h : GoesOver a root once real)
    (hways : Disk.SameWays a b) : GoesOver b root once real :=
  ⟨(hways.resolve_eq root).symm.trans h.resolve_eq, (hways.isDirectory_eq once).symm.trans h.isDirectory,
    (hways.resolve_eq once).symm.trans h.again⟩

/-- One more line that is not negated in the list of patterns reveals no file, and leaves those that are found in
their order. The disks before and after are alike but for the contents of files. -/
theorem scan_sublist_of_line {before after : Disk} (hdisk : before.isWellFormed = true)
    (halike : before.bare = after.bare) {root once real : Path} (hroot : GoesOver before root once real)
    {exclusions : Exclusions} (huse : exclusions.useGitignore = true)
    {old new : Bytes} (hold : gitignore? before real = some old) (hnew : gitignore? after real = some new)
    {line : Text} (hlines : Ignore.Spec.fileLines new = Ignore.Spec.fileLines old ++ [line])
    (hline : Ignore.isNegated line = false) {spec : Ignore.Spec} (hspec : rules after exclusions real = .ok spec) :
    ∃ listed shown, scan before exclusions root = .ok listed ∧ scan after exclusions root = .ok shown
      ∧ (shown.files.map FoundFile.path).Sublist (listed.files.map FoundFile.path) := by
  have wellFormed : after.isWellFormed = true := by
    have same : before.bare.isWellFormed = before.isWellFormed := Node.isWellFormed_mapContents _ _ before
    rw [halike] at same
    exact (Node.isWellFormed_mapContents _ _ after).symm.trans (same.trans hdisk)
  have found : rules before exclusions real
      = Ignore.Spec.ofLines (Ignore.Spec.fileLines old ++ exclusions.patterns) := by
    rw [rules_eq, lines_of_gitignore huse hold]
  have more : rules after exclusions real
      = Ignore.Spec.ofLines (Ignore.Spec.fileLines old ++ line :: exclusions.patterns) := by
    rw [rules_eq, lines_of_gitignore huse hnew, hlines, List.append_assoc, List.singleton_append]
  obtain ⟨fewer, hfewer, hkeeps⟩ := Ignore.Spec.exists_ofLines_of_insert hline (more.symm.trans hspec)
  obtain ⟨entries, hfind, hscan⟩ := exists_scan_of_rules hdisk hroot exclusions
  obtain ⟨others, hother, hrescan⟩ :=
    exists_scan_of_rules wellFormed (hroot.of_sameWays (Disk.sameWays_of_bare_eq halike)) exclusions
  obtain ⟨listed, hlisted, hfiles, hordered, -⟩ := hscan fewer (found.trans hfewer)
  obtain ⟨shown, hshown, hshownFiles, hshownOrdered, -⟩ := hrescan spec hspec
  have htree : (Node.directory entries).bare = (Node.directory others).bare := by
    obtain ⟨there, hthere, hsame⟩ := Node.exists_find?_of_bare_eq halike hother
    rwa [Option.some.inj (hfind.symm.trans hthere)]
  refine ⟨listed, shown, hlisted, hshown, hshownOrdered.sublist hordered fun f hf => ?_⟩
  obtain ⟨names, h, hpath⟩ := (hshownFiles f).1 hf
  obtain ⟨size, hlisted⟩ := exists_isListed_of_bare_eq halike htree hkeeps h
  exact ⟨⟨f.path, size⟩, (hfiles _).2 ⟨names, hlisted, hpath⟩, rfl⟩

/-! ### An example -/

/-- A tree with a list of patterns. -/
@[irreducible] def patternTree (patterns : Text) : Disk :=
  .directory [("t", .directory [("b.py", .file []), ("a", .directory [("c.py", .file []), ("b.py", .file [])]),
    (".gitignore", .file (patterns.map fun c => UInt8.ofNat c.val))])]

/-- One of the files is no longer found when a line is added, though another line keeps files of its name. -/
theorem scan_sublist_of_line_on_patternTree : ∃ listed shown,
    scan (patternTree "b.py\n!b.py\n") .standard (.ofText "/t") = .ok listed
      ∧ scan (patternTree "b.py\n!b.py\na/b*\n") .standard (.ofText "/t") = .ok shown
      ∧ listed.files.length = 4 ∧ shown.files.length = 3
      ∧ (shown.files.map FoundFile.path).Sublist (listed.files.map FoundFile.path) := by
  have wellFormed : (patternTree "b.py\n!b.py\n").isWellFormed = true := by decide +kernel
  have alike : (patternTree "b.py\n!b.py\n").bare = (patternTree "b.py\n!b.py\na/b*\n").bare := by
    unfold patternTree
    rfl
  have root : Disk.isDirectory (patternTree "b.py\n!b.py\n") (.ofText "/t") = true := by decide +kernel
  have resolved : (Disk.resolve (patternTree "b.py\n!b.py\n") (.ofText "/t")).toOption.any
      (fun p => p = .ofText "/t") = true := by decide +kernel
  have old : gitignore? (patternTree "b.py\n!b.py\n") (.ofText "/t")
      = some (("b.py\n!b.py\n" : Text).map fun c => UInt8.ofNat c.val) := by decide +kernel
  have new : gitignore? (patternTree "b.py\n!b.py\na/b*\n") (.ofText "/t")
      = some (("b.py\n!b.py\na/b*\n" : Text).map fun c => UInt8.ofNat c.val) := by decide +kernel
  have accepted : (rules (patternTree "b.py\n!b.py\na/b*\n") .standard (.ofText "/t")).toOption.any
      (fun _ => true) = true := by decide +kernel
  obtain ⟨spec, hspec, -⟩ := exists_eq_ok_of_any accepted
  obtain ⟨listed, shown, hlisted, hshown, hsublist⟩ :=
    @scan_sublist_of_line _ _ wellFormed alike _ _ _ (goesOver_of_isDirectory wellFormed root (eq_ok_of_any resolved))
      .standard rfl _ _ old new "a/b*"
      (by decide +kernel) (by decide) spec hspec
  have before : (scan (patternTree "b.py\n!b.py\n") .standard (.ofText "/t")).toOption.any
      (fun l => l.files.length == 4) = true := by decide +kernel
  have after : (scan (patternTree "b.py\n!b.py\na/b*\n") .standard (.ofText "/t")).toOption.any
      (fun l => l.files.length == 3) = true := by decide +kernel
  obtain ⟨_, hagain, hfour⟩ := exists_eq_ok_of_any before
  obtain rfl := Except.ok.inj (hlisted.symm.trans hagain)
  obtain ⟨_, hagain, hthree⟩ := exists_eq_ok_of_any after
  obtain rfl := Except.ok.inj (hshown.symm.trans hagain)
  exact ⟨listed, shown, hlisted, hshown, beq_iff_eq.1 hfour, beq_iff_eq.1 hthree, hsublist⟩

end Scan

end SourceAtlas
