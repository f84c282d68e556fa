import SourceAtlas.Proofs.Scan.Exactness

/-!
Scans and links. A scan goes through no link on its way to a file, so that a file it finds stands where its path says,
unless the path is that of a link itself. Links to directories are left out, but a link to a file is found as a file
is, and the file may stand anywhere on the disk.

Main statement: `scan_passes_no_link`.
-/

namespace SourceAtlas

namespace Disk

variable {disk : Disk}

/-- A link stands at the place of a path. -/
def HasLinkAt (disk : Disk) (path : Path) : Prop := ∃ target, disk.find? path.parts = some (.link target)

/-- What a path leads to stands at its real path, with no link on the way. -/
theorem exists_resolve_of_look (hdisk : disk.isWellFormed = true) {path : Path} {node : Node}
    (h : look disk path = .ok node) :
    ∃ place, resolve disk path = .ok place ∧ disk.find? place.parts = some node ∧ AreReal disk place.parts := by
  obtain ⟨fin, hwalks⟩ := look_eq_ok_iff.1 h
  obtain ⟨count, hleads⟩ := hwalks.exists_leads
  have real := hleads.areReal areReal_nil
  obtain ⟨hlook, hself⟩ := real.resolve_eq hdisk hwalks.find?
  refine ⟨.ofNames fin, ?_, hwalks.find?, real⟩
  have hsound : path.isSound = true := isSound_of_isName (hwalks.isName hdisk)
  refine resolve_eq_ok_iff.2 ⟨(refusalOnWay?_eq_none_iff hsound).2 ?_, ?_, ?_⟩
  · rw [realNames_of_leads hdisk hleads]
    exact isSound_of_resolve hself
  · rw [realNames_of_leads hdisk hleads]
  · rw [hlook]
    exact nofun

/-- Below real names everything but links has real names. -/
theorem AreReal.append (hdisk : disk.isWellFormed = true) {front back : List Text} (hfront : AreReal disk front)
    {found : Node} (hfind : disk.find? (front ++ back) = some found) (hlink : found.isLink = false) :
    AreReal disk (front ++ back) := by
  intro before name hbefore
  rcases List.prefix_or_prefix_of_prefix hbefore (List.prefix_append front back) with hshort | -
  · exact hfront before name hshort
  · have hname : Path.isName name = true :=
      Node.isName_of_mem_of_find? hdisk hfind name (hbefore.subset (by simp))
    refine ⟨Path.ne_above_of_isName hname, ?_⟩
    by_cases heq : before ++ [name] = front ++ back
    · exact ⟨found, heq ▸ hfind, hlink⟩
    · obtain ⟨entries, hentries⟩ := Node.exists_directory_of_prefix hfind hbefore heq
      exact ⟨_, hentries, rfl⟩

end Disk

namespace Scan

variable {disk : Disk} {exclusions : Exclusions} {root once real : Path} {listing : Listing}

/-- A file has been found where its path says, or where the link at its path leads. -/
structure IsPlacedAt (disk : Disk) (f : FoundFile) (place : Path) : Prop where
  resolve_eq : Disk.resolve disk f.path = .ok place
  regular : ∃ content, disk.find? place.parts = some content ∧ content.isRegular = true ∧ content.size = f.size
  eq_iff : place = f.path ↔ ¬ Disk.HasLinkAt disk f.path

theorem exists_isPlacedAt (hdisk : disk.isWellFormed = true) (hreal : Disk.AreReal disk real.parts) {tree : Node}
    (hfind : disk.find? real.parts = some tree) {names : List Text} {f : FoundFile}
    (hfile : IsFile disk real.parts tree names f.size) (hpath : f.path = .ofNames (real.parts ++ names)) :
    ∃ place, IsPlacedAt disk f place := by
  obtain ⟨node, content, hnode, hcontent, hregular, hsize⟩ := hfile
  have hthere : disk.find? (real.parts ++ names) = some node := by
    rw [Node.find?_append, hfind]
    exact hnode
  have parts : f.path.parts = real.parts ++ names := by rw [hpath]; rfl
  by_cases hlink : node.isLink = true
  · rw [if_pos hlink, ← hpath] at hcontent
    obtain ⟨place, hresolve, hplace, -⟩ := Disk.exists_resolve_of_look hdisk hcontent
    have link : Disk.HasLinkAt disk f.path := by
      cases node with
      | link target => exact ⟨target, by rw [parts, hthere]⟩
      | _ => cases hlink
    refine ⟨place, hresolve, ⟨content, hplace, hregular, hsize⟩, iff_of_false ?_ (not_not_intro link)⟩
    -- at the end of a link stands no link
    rintro rfl
    obtain ⟨target, htarget⟩ := link
    rw [Option.some.inj (hplace.symm.trans htarget)] at hregular
    cases hregular
  · rw [if_neg hlink] at hcontent
    subst hcontent
    obtain ⟨-, hself⟩ := (hreal.append hdisk hthere (Bool.eq_false_iff.2 hlink)).resolve_eq hdisk hthere
    refine ⟨f.path, by rw [hpath, hself], ⟨content, by rw [parts, hthere], hregular, hsize⟩, iff_of_true rfl ?_⟩
    rintro ⟨target, htarget⟩
    rw [parts, hthere] at htarget
    exact hlink (Option.some.inj htarget ▸ rfl)

/-- A scan that is completed has read its rules. -/
theorem exists_rules_of_scan (hroot : GoesOver disk root once real) (h : scan disk exclusions root = .ok listing) :
    ∃ spec, rules disk exclusions real = .ok spec := by
  rw [hroot.scan_eq, Scan.listing] at h
  split at h
  · cases h
  · next spec hspec => exact ⟨spec, hspec⟩

/-- Every file that a scan finds is placed somewhere. -/
theorem exists_isPlacedAt_of_mem (hdisk : disk.isWellFormed = true) (hroot : GoesOver disk root once real)
    (hscan : scan disk exclusions root = .ok listing) {f : FoundFile} (hf : f ∈ listing.files) :
    ∃ place, IsPlacedAt disk f place := by
  obtain ⟨spec, hspec⟩ := exists_rules_of_scan hroot hscan
  obtain ⟨entries, hfind, hfound⟩ := exists_scan_of_rules hdisk hroot exclusions
  obtain ⟨_, hagain, hfiles, -⟩ := hfound spec hspec
  obtain rfl := Except.ok.inj (hscan.symm.trans hagain)
  obtain ⟨names, hlisted, hpath⟩ := (hfiles f).1 hf
  exact exists_isPlacedAt hdisk (hroot.areReal hdisk).1 hfind hlisted.file hpath

/-- No directory is where a file has been found. -/
theorem IsPlacedAt.isDirectory_eq (hdisk : disk.isWellFormed = true) {f : FoundFile} {place : Path}
    (h : IsPlacedAt disk f place) : Disk.isDirectory disk f.path = false := by
  rw [Bool.eq_false_iff]
  intro hdirectory
  obtain ⟨other, entries, hother, -, hfind, -⟩ := Disk.exists_resolve_of_isDirectory hdisk hdirectory
  obtain rfl := Except.ok.inj (h.resolve_eq.symm.trans hother)
  obtain ⟨content, hcontent, hregular, -⟩ := h.regular
  obtain rfl := Option.some.inj (hfind.symm.trans hcontent)
  cases hregular

/-- A scan passes no link: above a file that it finds there are directories up to its root, and the file stands at the
path by which it is found, unless there is a link at this very path. A link is found exactly if it leads to a file and
would be listed were it that file. -/
theorem scan_passes_no_link (hdisk : disk.isWellFormed = true) (hscan : scan disk exclusions root = .ok listing) :
    ∃ once real spec, GoesOver disk root once real ∧ rules disk exclusions real = .ok spec
      ∧ (∀ f ∈ listing.files, ∃ names, names ≠ [] ∧ f.path = .ofNames (real.parts ++ names)
        ∧ (∀ front, front <+: names → front ≠ names →
          ∃ entries, disk.find? (real.parts ++ front) = some (.directory entries))
        ∧ ∃ place, IsPlacedAt disk f place)
      ∧ ∀ names target, disk.find? (real.parts ++ names) = some (.link target) →
        ((∃ f ∈ listing.files, f.path = .ofNames (real.parts ++ names))
          ↔ (∃ content, Disk.look disk (.ofNames (real.parts ++ names)) = .ok content ∧ content.isRegular = true)
            ∧ IsEntered spec names.dropLast ∧ spec.ignores (relative names) = false) := by
  obtain ⟨once, real, hroot⟩ := exists_goesOver_of_scan hscan
  obtain ⟨spec, hspec⟩ := exists_rules_of_scan hroot hscan
  obtain ⟨entries, hfind, hfound⟩ := exists_scan_of_rules hdisk hroot exclusions
  obtain ⟨_, hagain, hfiles, -⟩ := hfound spec hspec
  obtain rfl := Except.ok.inj (hscan.symm.trans hagain)
  obtain ⟨areReal, -⟩ := hroot.areReal hdisk
  have place : ∀ names, disk.find? (real.parts ++ names) = (Node.directory entries).find? names := by
    intro names
    rw [Node.find?_append, hfind, Option.bind_some]
  refine ⟨once, real, spec, hroot, hspec, fun f hf => ?_, fun names target htarget => ?_⟩
  · obtain ⟨names, hlisted, hpath⟩ := (hfiles f).1 hf
    refine ⟨names, hlisted.file.ne_nil, hpath, fun front hfront hne => ?_,
      exists_isPlacedAt hdisk areReal hfind hlisted.file hpath⟩
    obtain ⟨node, hnode⟩ := exists_of_isListed hlisted
    rw [place]
    exact Node.exists_directory_of_prefix hnode hfront hne
  · rw [place] at htarget
    have leads : ∀ size, IsFile disk real.parts (.directory entries) names size
        ↔ ∃ content, Disk.look disk (.ofNames (real.parts ++ names)) = .ok content
          ∧ content.isRegular = true ∧ content.size = size := isFile_iff htarget
    constructor
    · rintro ⟨f, hf, hpath⟩
      obtain ⟨others, hlisted, hother⟩ := (hfiles f).1 hf
      obtain rfl : names = others :=
        List.append_cancel_left (congrArg Path.parts (hpath.symm.trans hother))
      obtain ⟨content, hlook, hregular, -⟩ := (leads _).1 hlisted.file
      exact ⟨⟨content, hlook, hregular⟩, hlisted.entered, hlisted.kept⟩
    · rintro ⟨⟨content, hlook, hregular⟩, hentered, hkept⟩
      exact ⟨⟨_, content.size⟩, (hfiles _).2
        ⟨names, ⟨(leads _).2 ⟨content, hlook, hregular, rfl⟩, hentered, hkept⟩, rfl⟩, rfl⟩

/-! ### An example -/

/-- A directory with a file, and with links to a file outside, to a directory outside, to the directory above, to
itself and to nothing. -/
@[irreducible] def outsideTree : Disk :=
  .directory [("t", .directory [("x.py", .file [35]), ("l.py", .link "../secret.py"), ("d", .link "../other"),
    ("up", .link ".."), ("loop", .link "loop"), ("broken", .link "nope")]),
    ("other", .directory [("y.py", .file [])]), ("secret.py", .file [35, 35])]

/-- The link to the file outside is found like the file that is there, and its file stands elsewhere. The link to the
directory is not found, and nothing in the directory is. -/
theorem scan_passes_no_link_on_outsideTree : ∃ listing place,
    scan outsideTree .standard (.ofText "/t") = .ok listing
      ∧ listing.files = [⟨.ofText "/t/l.py", 2⟩, ⟨.ofText "/t/x.py", 1⟩]
      ∧ Disk.HasLinkAt outsideTree (.ofText "/t/l.py")
      ∧ IsPlacedAt outsideTree ⟨.ofText "/t/l.py", 2⟩ place ∧ place ≠ .ofText "/t/l.py"
      ∧ ¬ ∃ content, Disk.look outsideTree (.ofText "/t/d") = .ok content ∧ content.isRegular = true := by
  have wellFormed : outsideTree.isWellFormed = true := by decide +kernel
  have found : (scan outsideTree .standard (.ofText "/t")).toOption.any (fun l =>
      l.files = [⟨.ofText "/t/l.py", 2⟩, ⟨.ofText "/t/x.py", 1⟩]) = true := by decide +kernel
  have resolved : (Disk.resolve outsideTree (.ofText "/t")).toOption.any (fun p => p = .ofText "/t") = true := by
    decide +kernel
  have kept : (rules outsideTree .standard (.ofText "/t")).toOption.any
      (fun spec => !spec.ignores (relative ["d"])) = true := by decide +kernel
  have toFile : Disk.HasLinkAt outsideTree (.ofText "/t/l.py") := by
    unfold outsideTree
    exact ⟨"../secret.py", rfl⟩
  have toDirectory : outsideTree.find? ["t", "d"] = some (.link "../other") := by
    unfold outsideTree
    rfl
  obtain ⟨listing, hscan, hfiles⟩ := exists_eq_ok_of_any found
  have hfiles : listing.files = [⟨.ofText "/t/l.py", 2⟩, ⟨.ofText "/t/x.py", 1⟩] := of_decide_eq_true hfiles
  obtain ⟨once, real, spec, hroot, hspec, hplaced, hlinks⟩ := scan_passes_no_link wellFormed hscan
  obtain rfl := Except.ok.inj (hroot.resolve_eq.symm.trans (eq_ok_of_any resolved))
  obtain rfl := Except.ok.inj (hroot.again.symm.trans (eq_ok_of_any resolved))
  obtain ⟨_, -, -, -, place, hplace⟩ := hplaced ⟨.ofText "/t/l.py", 2⟩ (by simp [hfiles])
  refine ⟨listing, place, hscan, hfiles, toFile, hplace, fun heq => hplace.eq_iff.1 heq toFile, fun hlook => ?_⟩
  obtain ⟨_, hagain, hkept⟩ := exists_eq_ok_of_any kept
  obtain rfl := Except.ok.inj (hspec.symm.trans hagain)
  obtain ⟨f, hf, hpath⟩ := (hlinks ["d"] "../other" toDirectory).2 ⟨hlook, isEntered_nil, by simpa using hkept⟩
  have others : listing.files.all (fun f => f.path != .ofNames ["t", "d"]) = true := by
    rw [hfiles]
    decide +kernel
  exact absurd hpath (bne_iff_ne.1 (List.all_eq_true.1 others f hf))

end Scan

end SourceAtlas
