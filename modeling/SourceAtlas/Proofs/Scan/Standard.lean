import SourceAtlas.Proofs.Ignore.Named
import SourceAtlas.Proofs.Scan.Exactness

/-!
The standard patterns. They come behind the lines of a directory's own list, and match what lies in a directory of a
standard name, at any depth. But they never name such a file or directory itself: where negated lines of the list do
so, from the directory of the standard name down to a file, the file is found all the same. What lies in no directory
of a standard name is found by the list alone, and so is what lies below a name with a line break.

Main statement: `scan_standard_exact`.
-/

namespace SourceAtlas.Scan

/-- The names that the standard patterns are about. -/
def standardNames : List Text := [".git", "node_modules", "dist"]

/-- The standard patterns are the rules of three names. -/
theorem ofLines_standardPatterns :
    Ignore.Spec.ofLines standardPatterns = .ok (standardNames.map Ignore.named) := rfl

/-- The rules of a directory's own list, and those of the standard patterns behind them. -/
theorem rules_standard {disk : Disk} {use : Bool} {root : Path} {own : Ignore.Spec}
    (h : rules disk ⟨[], use⟩ root = .ok own) :
    rules disk ⟨standardPatterns, use⟩ root = .ok (own ++ standardNames.map Ignore.named) := by
  rw [rules_eq, lines, List.append_nil] at h
  exact Ignore.Spec.ofLines_append_eq_ok_iff.2 ⟨own, _, h, ofLines_standardPatterns, rfl⟩

/-! ## Places -/

/-- A place lies in a directory of a standard name, and no name above that one holds a line break. -/
def IsBuried (names : List Text) : Prop :=
  ∃ above name more, names = above ++ name :: more ∧ more ≠ [] ∧ name ∈ standardNames
    ∧ ∀ other ∈ above, ('\n' : CodePoint) ∉ other

/-- What lies further down than a buried name is buried as well. -/
theorem IsBuried.append {front : List Text} {name : Text} (h : IsBuried (front ++ [name])) {more : List Text}
    (hmore : more ≠ []) : IsBuried (front ++ more) := by
  obtain ⟨above, found, rest, hnames, hrest, hfound, habove⟩ := h
  obtain ⟨inner, last, rfl⟩ := (List.eq_nil_or_concat rest).resolve_left hrest
  rw [List.concat_eq_append, ← List.cons_append, ← List.append_assoc] at hnames
  obtain ⟨rfl, -⟩ := List.append_inj' hnames rfl
  exact ⟨above, found, inner ++ more, by simp, by simp [hmore], hfound, habove⟩

/-- Pieces without slashes lie in a directory of a standard name as their path does. -/
theorem exists_liesIn_iff {pieces : List Text} (hne : pieces ≠ [])
    (hpieces : ∀ piece ∈ pieces, ('/' : CodePoint) ∉ piece) (hsolid : ∀ piece ∈ pieces.dropLast, piece ≠ []) :
    (∃ name ∈ standardNames, Ignore.LiesIn name (relative pieces)) ↔ IsBuried pieces := by
  have plain : ∀ name ∈ standardNames, ('/' : CodePoint) ∉ name := by decide
  constructor
  · rintro ⟨name, hname, hlies⟩
    obtain ⟨above, more, hpath, hmore, habove⟩ :=
      (Ignore.liesIn_join_iff (plain name hname) hne hpieces hsolid).1 hlies
    exact ⟨above, name, more, hpath, hmore, hname, habove⟩
  · rintro ⟨above, name, more, hpath, hmore, hname, habove⟩
    exact ⟨name, hname, (Ignore.liesIn_join_iff (plain name hname) hne hpieces hsolid).2
      ⟨above, more, hpath, hmore, habove⟩⟩

/-! ## Verdicts -/

/-- What the own list and the standard patterns say of a path: in a directory of a standard name it is ignored unless
the own list restores it, and elsewhere if the own list ignores it. -/
structure Judges (own : Ignore.Spec) (buried : Prop) (path : Text) : Prop where
  inside : buried → (own ++ standardNames.map Ignore.named).ignores path = !own.restores path
  outside : ¬ buried → (own ++ standardNames.map Ignore.named).ignores path = own.ignores path

section

variable {own : Ignore.Spec} {names : List Text}

/-- The rules of names judge a path by the directories on it. -/
theorem judges_relative {pieces : List Text} (hne : pieces ≠ [])
    (hpieces : ∀ piece ∈ pieces, ('/' : CodePoint) ∉ piece) (hsolid : ∀ piece ∈ pieces.dropLast, piece ≠ [])
    (hseen : Ignore.Spec.seen (relative pieces) = relative pieces) :
    Judges own (IsBuried pieces) (relative pieces) := by
  have lies := exists_liesIn_iff hne hpieces hsolid
  rw [← hseen] at lies
  constructor
  · intro h
    exact Ignore.Spec.ignores_of_liesIn own standardNames _ (lies.2 h)
  · intro h
    refine Ignore.Spec.ignores_of_not_liesIn own standardNames _ fun name hname hlies => h ?_
    exact lies.1 ⟨name, hname, hlies⟩

variable (hne : names ≠ []) (hnames : ∀ name ∈ names, Path.isName name = true)

include hne hnames

/-- So they judge a file. -/
theorem judges_file : Judges own (IsBuried names) (relative names) := by
  have seen := seen_relative_append hne hnames []
  rw [List.append_nil] at seen
  refine judges_relative hne (fun name hname => Path.not_mem_of_isName (hnames name hname)) ?_ seen
  exact fun name hname => Path.ne_nil_of_isName (hnames name (List.mem_of_mem_dropLast hname))

/-- So they judge a directory, by its path with a slash. -/
theorem judges_directory : Judges own (IsBuried (names ++ [[]])) (relative names ++ "/") := by
  have shown : relative names ++ "/" = relative (names ++ [[]]) := by
    rw [relative_append hne (List.cons_ne_nil _ _)]
    exact (List.append_nil _).symm
  have seen := seen_relative_append hne hnames "/"
  rw [shown] at seen ⊢
  refine judges_relative (by simp) ?_ ?_ seen
  · refine List.forall_mem_append.2 ⟨fun name hname => Path.not_mem_of_isName (hnames name hname), ?_⟩
    exact List.forall_mem_singleton.2 List.not_mem_nil
  · rw [List.dropLast_concat]
    exact fun name hname => Path.ne_nil_of_isName (hnames name hname)

end

/-! ## Whole scans -/

section

variable {disk : Disk} {own : Ignore.Spec} {place : List Text} {entries : List (Text × Node)}
  (htree : (Node.directory entries).isWellFormed = true)

include htree

/-- A file in a directory of a standard name is listed if it is restored, and so are all directories from there
down to it. -/
theorem isListed_buried_iff {above more : List Text} {name : Text} (hname : name ∈ standardNames)
    (habove : ∀ other ∈ above, ('\n' : CodePoint) ∉ other) (hmore : more ≠ []) (size : Nat) :
    IsListed disk (own ++ standardNames.map Ignore.named) place (.directory entries) (above ++ name :: more) size
      ↔ IsFile disk place (.directory entries) (above ++ name :: more) size
        ∧ IsEntered (own ++ standardNames.map Ignore.named) above
        ∧ (∀ between, between <+: more.dropLast → own.restores (relative (above ++ name :: between) ++ "/") = true)
        ∧ own.restores (relative (above ++ name :: more)) = true := by
  have whole : (above ++ name :: more).dropLast = above ++ name :: more.dropLast := by
    rw [List.dropLast_append_of_ne_nil (List.cons_ne_nil name more), List.dropLast_cons_of_ne_nil hmore]
  rw [isListed_iff, whole, isEntered_append_iff]
  refine and_congr_right fun hfile => ?_
  have hnames := hfile.isName htree
  have restored : ∀ {path buried}, Judges own buried path → buried →
      ((own ++ standardNames.map Ignore.named).ignores path = false ↔ own.restores path = true) := by
    intro path buried h hburied
    rw [h.inside hburied, Bool.not_eq_false']
  have directory : ∀ between, between <+: more.dropLast →
      ((own ++ standardNames.map Ignore.named).ignores (relative (above ++ name :: between) ++ "/") = false
        ↔ own.restores (relative (above ++ name :: between) ++ "/") = true) := by
    intro between hbetween
    have inner : ∀ other ∈ above ++ name :: between, Path.isName other = true := by
      intro other hother
      refine hnames other ?_
      rcases List.mem_append.1 hother with hother | hother
      · exact List.mem_append_left _ hother
      · refine List.mem_append_right _ (List.mem_cons.2 ((List.mem_cons.1 hother).imp_right fun hmem => ?_))
        exact List.mem_of_mem_dropLast (hbetween.subset hmem)
    exact restored (judges_directory (by simp) inner) ⟨above, name, between ++ [[]], by simp, by simp, hname, habove⟩
  have file := restored (judges_file (by simp) hnames) ⟨above, name, more, rfl, hmore, hname, habove⟩
  rw [file, and_assoc]
  refine and_congr_right fun _ => and_congr_left fun _ => ?_
  constructor
  · intro h between hbetween
    exact (directory between hbetween).1
      (h (name :: between) (List.cons_ne_nil _ _) (List.cons_prefix_cons.2 ⟨rfl, hbetween⟩))
  · intro h other hne hother
    obtain ⟨first, between, rfl⟩ := List.exists_cons_of_ne_nil hne
    obtain ⟨rfl, hbetween⟩ := List.cons_prefix_cons.1 hother
    exact (directory between hbetween).2 (h between hbetween)

/-- Elsewhere a file is listed if it is by the own list. -/
theorem isListed_elsewhere_iff {names : List Text} (h : ¬ IsBuried names) (size : Nat) :
    IsListed disk (own ++ standardNames.map Ignore.named) place (.directory entries) names size
      ↔ IsListed disk own place (.directory entries) names size := by
  rw [isListed_iff, isListed_iff]
  refine and_congr_right fun hfile => ?_
  have hnames := hfile.isName htree
  have directory : ∀ front, front ≠ [] → front <+: names.dropLast →
      (own ++ standardNames.map Ignore.named).ignores (relative front ++ "/")
        = own.ignores (relative front ++ "/") := by
    intro front hne hfront
    obtain ⟨more, hmore, rfl⟩ := exists_append_of_prefix_dropLast hne hfront
    refine (judges_directory hne fun name hname => hnames name (List.mem_append_left more hname)).outside ?_
    exact fun hburied => h (hburied.append hmore)
  rw [(judges_file hfile.ne_nil hnames).outside h]
  refine and_congr_left fun _ => forall_congr' fun front => forall_congr' fun hne => forall_congr' fun hfront => ?_
  rw [directory front hne hfront]

end

/-- What the scan of a directory finds by the standard patterns. In a directory of a standard name these are the files
that are restored by the directory's own list, together with all directories from there down to them; elsewhere they
are what the own list leaves. So nothing in a directory of a standard name is found if no line is negated. -/
theorem scan_standard_exact {disk : Disk} (hdisk : disk.isWellFormed = true) {root once real : Path}
    (hroot : GoesOver disk root once real) {use : Bool} {own : Ignore.Spec}
    (hown : rules disk ⟨[], use⟩ real = .ok own) :
    ∃ entries listing, disk.find? real.parts = some (.directory entries)
      ∧ scan disk ⟨standardPatterns, use⟩ root = .ok listing
      ∧ (∀ f above name more, name ∈ standardNames → (∀ other ∈ above, ('\n' : CodePoint) ∉ other) → more ≠ [] →
        f.path = .ofNames (real.parts ++ (above ++ name :: more)) → (f ∈ listing.files
          ↔ IsFile disk real.parts (.directory entries) (above ++ name :: more) f.size
            ∧ IsEntered (own ++ standardNames.map Ignore.named) above
            ∧ (∀ between, between <+: more.dropLast →
              own.restores (relative (above ++ name :: between) ++ "/") = true)
            ∧ own.restores (relative (above ++ name :: more)) = true))
      ∧ (∀ f names, ¬ IsBuried names → f.path = .ofNames (real.parts ++ names) → (f ∈ listing.files
          ↔ IsListed disk own real.parts (.directory entries) names f.size))
      ∧ ((∀ rule ∈ own, rule.negated = false) → ∀ f ∈ listing.files, ∀ names,
        f.path = .ofNames (real.parts ++ names) → ¬ IsBuried names) := by
  obtain ⟨entries, hfind, hscan⟩ := exists_scan_of_rules hdisk hroot ⟨standardPatterns, use⟩
  obtain ⟨listing, hlisting, hfiles, -⟩ := hscan _ (rules_standard hown)
  have wellFormed := Node.isWellFormed_find? hdisk hfind
  -- a file is found at one place only
  have found : ∀ f names, f.path = .ofNames (real.parts ++ names) → (f ∈ listing.files
      ↔ IsListed disk (own ++ standardNames.map Ignore.named) real.parts (.directory entries) names f.size) := by
    intro f names hpath
    rw [hfiles]
    constructor
    · rintro ⟨others, h, hother⟩
      have same : real.parts ++ others = real.parts ++ names := (Path.mk.inj (hother.symm.trans hpath)).2
      rwa [← List.append_cancel_left same]
    · exact fun h => ⟨names, h, hpath⟩
  have buried : ∀ f above name more, name ∈ standardNames → (∀ other ∈ above, ('\n' : CodePoint) ∉ other) →
      more ≠ [] → f.path = .ofNames (real.parts ++ (above ++ name :: more)) → (f ∈ listing.files ↔ _) :=
    fun f above name more hname habove hmore hpath =>
      (found f _ hpath).trans (isListed_buried_iff wellFormed hname habove hmore f.size)
  refine ⟨entries, listing, hfind, hlisting, buried,
    fun f names h hpath => (found f names hpath).trans (isListed_elsewhere_iff wellFormed h f.size), ?_⟩
  rintro hplain f hf _ hpath ⟨above, name, more, rfl, hmore, hname, habove⟩
  obtain ⟨-, -, -, hrestores⟩ := (buried f above name more hname habove hmore hpath).1 hf
  rw [Ignore.Spec.restores_eq_false_of_forall hplain] at hrestores
  cases hrestores

/-! ### An example -/

/-- A list of patterns that restores all there is, and a file in a directory of a standard name. -/
@[irreducible] def restoringTree : Disk :=
  .directory [("t", .directory [(".git", .directory [("config.py", .file [])]),
    (".gitignore", .file (("!*\n" : Text).map fun c => UInt8.ofNat c.val))])]

/-- The file is found, since the directory and the file are restored. -/
theorem scan_standard_exact_on_restoringTree : ∃ own listing,
    rules restoringTree ⟨[], true⟩ (.ofText "/t") = .ok own
      ∧ scan restoringTree .standard (.ofText "/t") = .ok listing
      ∧ ⟨.ofText "/t/.git/config.py", 0⟩ ∈ listing.files
      ∧ own.restores (relative [".git"] ++ "/") = true ∧ own.restores (relative [".git", "config.py"]) = true := by
  have wellFormed : restoringTree.isWellFormed = true := by decide +kernel
  have root : Disk.isDirectory restoringTree (.ofText "/t") = true := by decide +kernel
  have resolved : (Disk.resolve restoringTree (.ofText "/t")).toOption.any (fun p => p = .ofText "/t") = true := by
    decide +kernel
  have accepted : (rules restoringTree ⟨[], true⟩ (.ofText "/t")).toOption.any (fun _ => true) = true := by
    decide +kernel
  obtain ⟨own, hown, -⟩ := exists_eq_ok_of_any accepted
  obtain ⟨entries, listing, -, hscan, hburied, -⟩ :=
    scan_standard_exact wellFormed (goesOver_of_isDirectory wellFormed root (eq_ok_of_any resolved)) hown
  have files : (scan restoringTree .standard (.ofText "/t")).toOption.any
      (fun l => l.files.contains ⟨.ofText "/t/.git/config.py", 0⟩) = true := by decide +kernel
  obtain ⟨_, hagain, hfound⟩ := exists_eq_ok_of_any files
  obtain rfl := Except.ok.inj (hscan.symm.trans hagain)
  have found := List.contains_iff_mem.1 hfound
  obtain ⟨-, -, hdirectories, hfile⟩ :=
    (hburied ⟨.ofText "/t/.git/config.py", 0⟩ [] ".git" ["config.py"] (by decide) nofun (by simp) rfl).1 found
  exact ⟨own, listing, hown, hscan, found, hdirectories [] (List.nil_prefix), hfile⟩

end SourceAtlas.Scan
