import SourceAtlas.Proofs.Scan.Contents
import SourceAtlas.Proofs.Text.Lines

/-!
Comments in the list of patterns of a directory. A line that begins with a number sign says nothing, but lists of
patterns are cut at more characters than those that end the lines of a file. What stands behind one of them in a
comment is a line of its own, and holds as a pattern. A comment without any changes nothing.

Main statements: `ofLines_comment`, `scan_insert_comment`.
-/

namespace SourceAtlas

namespace Ignore

/-! ## Lines that say nothing -/

/-- A line that gives no rule, and is none that cannot be read either. -/
def SaysNothing (line : Text) : Prop := Rule.ofLine line = .ok none

instance (line : Text) : Decidable (SaysNothing line) := by
  unfold SaysNothing
  infer_instance

/-- A line that begins with anything but a blank still does when it has lost those at its end. -/
theorem exists_stripped_cons {c : CodePoint} (hc : Unicode.isBlank c = false) (t : Text) :
    ∃ rest, stripped (c :: t) = c :: rest := by
  unfold stripped
  split
  · exact ⟨t, rfl⟩
  · rw [Text.dropEndWhile, List.reverse_cons, List.dropWhile_append]
    split
    · exact ⟨[], by simp [hc]⟩
    · exact ⟨_, List.reverse_append⟩

/-- A comment says nothing. -/
theorem saysNothing_comment (t : Text) : SaysNothing ('#' :: t) := by
  obtain ⟨rest, hrest⟩ := exists_stripped_cons (c := '#') (by decide) t
  unfold SaysNothing Rule.ofLine
  rw [hrest]
  rfl

namespace Spec

/-- A line that says nothing makes no rule. -/
theorem ofLines_cons_of_saysNothing {line : Text} (h : SaysNothing line) (rest : List Text) :
    ofLines (line :: rest) = ofLines rest := by
  rw [ofLines, h]
  cases ofLines rest with
  | _ => rfl

/-- Lines that come to the same rules, or the same fault, do so behind any others. -/
theorem ofLines_append_congr {back other : List Text} (h : ofLines back = ofLines other) (front : List Text) :
    ofLines (front ++ back) = ofLines (front ++ other) := by
  induction front with
  | nil => exact h
  | cons line rest ih =>
    rw [List.cons_append, List.cons_append, ofLines, ofLines, ih]

/-- Nor do several. -/
theorem ofLines_append_of_saysNothing {middle : List Text} (h : ∀ line ∈ middle, SaysNothing line)
    (back : List Text) : ofLines (middle ++ back) = ofLines back := by
  induction middle with
  | nil => rfl
  | cons line rest ih =>
    rw [List.forall_mem_cons] at h
    rw [List.cons_append, ofLines_cons_of_saysNothing h.1, ih h.2]

/-- Lines make no rule just if none of them says anything. -/
theorem ofLines_eq_ok_nil_iff {lines : List Text} : ofLines lines = .ok [] ↔ ∀ line ∈ lines, SaysNothing line := by
  constructor
  · intro h
    induction lines with
    | nil => exact List.forall_mem_nil _
    | cons line rest ih =>
      rw [ofLines] at h
      split at h
      · cases h
      · next rule hrule =>
        obtain ⟨rules, hrules, happend⟩ := map_eq_ok_iff.1 h
        obtain ⟨hnone, rfl⟩ := List.append_eq_nil_iff.1 happend
        rw [Option.toList_eq_nil_iff.1 hnone] at hrule
        exact List.forall_mem_cons.2 ⟨hrule, ih hrules⟩
  · intro h
    rw [← List.append_nil lines, ofLines_append_of_saysNothing h]
    rfl

/-- Further lines leave rules as they are exactly if they say nothing. -/
theorem ofLines_insert_eq_ok_iff {front middle back : List Text} {spec : Spec}
    (h : ofLines (front ++ back) = .ok spec) :
    ofLines (front ++ middle ++ back) = .ok spec ↔ ∀ line ∈ middle, SaysNothing line := by
  constructor
  · intro hinsert
    obtain ⟨a, c, ha, hc, rfl⟩ := ofLines_append_eq_ok_iff.1 h
    obtain ⟨_, other, hfront, hback, heq⟩ := ofLines_append_eq_ok_iff.1 hinsert
    obtain ⟨_, b, hagain, hb, rfl⟩ := ofLines_append_eq_ok_iff.1 hfront
    obtain rfl := Except.ok.inj (ha.symm.trans hagain)
    obtain rfl := Except.ok.inj (hc.symm.trans hback)
    have hnil : b = [] := by simpa using heq
    exact ofLines_eq_ok_nil_iff.1 (hnil ▸ hb)
  · intro hvoid
    rw [List.append_assoc, ofLines_append_congr (ofLines_append_of_saysNothing hvoid back), h]

end Spec

/-! ## What a comment spills -/

/-- A comment as a line of a file. -/
def commentLine (comment : Text) : Text := ('#' : CodePoint) :: (comment ++ [('\n' : CodePoint)])

/-- The further lines that a comment is cut into, behind the one that begins with the number sign. -/
def spill (comment : Text) : List Text := (Text.lines (comment ++ [('\n' : CodePoint)])).tail

/-- A comment spills nothing exactly if no character in it ends a line. -/
theorem spill_eq_nil_iff {comment : Text} (hreturn : ('\r' : CodePoint) ∉ comment) :
    spill comment = [] ↔ ∀ c ∈ comment, Text.endsLine c = false := by
  unfold spill
  induction comment with
  | nil => exact iff_of_true rfl (List.forall_mem_nil _)
  | cons c rest ih =>
    obtain ⟨hc, hrest⟩ := not_or.1 (mt List.mem_cons.2 hreturn)
    rw [List.forall_mem_cons, List.cons_append]
    cases hend : Text.endsLine c with
    | false =>
      rw [Text.lines_cons_of_not_endsLine hend, List.tail_cons, ih hrest, and_iff_right rfl]
    | true =>
      rw [Text.lines_cons_of_endsLine hend fun h => hc h.1.symm, List.tail_cons]
      exact iff_of_false (Text.lines_ne_nil (by simp)) (fun h => Bool.noConfusion h.1)

/-- Cut into lines, a comment is itself up to its first break, and what it spills. -/
theorem exists_lines_commentLine (comment : Text) :
    ∃ first, Text.lines (commentLine comment) = (('#' : CodePoint) :: first) :: spill comment :=
  ⟨_, Text.lines_cons_of_not_endsLine rfl⟩

/-- A comment between two lines comes to what it spills. -/
theorem ofLines_comment {front back : Text} (hparts : Text.PartsLines front back) (comment : Text)
    (patterns : List Text) : Spec.ofLines (Text.lines (front ++ (commentLine comment ++ back)) ++ patterns)
      = Spec.ofLines (Text.lines front ++ (spill comment ++ (Text.lines back ++ patterns))) := by
  have before : Text.PartsLines front (commentLine comment ++ back) := by
    intro c hc
    refine ⟨(hparts c hc).1, fun h => ?_⟩
    exact absurd (Option.some.inj h.2) (by decide)
  have after : Text.PartsLines (commentLine comment) back :=
    Text.partsLines_feed (('#' : CodePoint) :: comment) back
  obtain ⟨first, hfirst⟩ := exists_lines_commentLine comment
  rw [Text.lines_append before, Text.lines_append after, hfirst, List.append_assoc, List.append_assoc]
  apply Spec.ofLines_append_congr
  rw [List.cons_append, Spec.ofLines_cons_of_saysNothing (saysNothing_comment first)]

end Ignore

namespace Scan

/-- A directory that a scan reaches and does not enter, by its names from the root of the scan. -/
def IsPruned (disk : Disk) (exclusions : Exclusions) (real : Path) (names : List Text) : Prop :=
  ∃ spec entries, rules disk exclusions real = .ok spec
    ∧ disk.find? (real.parts ++ names) = some (.directory entries) ∧ names ≠ []
    ∧ IsEntered spec names.dropLast ∧ spec.ignores (relative names ++ "/") = true

variable {before after : Disk} {exclusions : Exclusions} {real : Path}

/-- On disks that are alike but for contents the same directories are pruned by the same rules. -/
theorem IsPruned.of_bare_eq {names : List Text} (h : IsPruned after exclusions real names)
    (halike : before.bare = after.bare) (hrules : rules before exclusions real = rules after exclusions real) :
    IsPruned before exclusions real names := by
  obtain ⟨spec, entries, hspec, hfind, hne, hentered, hignored⟩ := h
  obtain ⟨there, hthere, hsame⟩ := Node.exists_find?_of_bare_eq halike hfind
  cases there with
  | directory others => exact ⟨spec, others, hrules.trans hspec, hthere, hne, hentered, hignored⟩
  | _ => cases hsame

/-- The lines of a list of patterns are those of its text. -/
theorem fileLines_eq (bytes : Bytes) : Ignore.Spec.fileLines bytes = Text.lines (Utf8.decode bytes) :=
  Text.lines_unifyLineEnds _

/-- A comment put between two lines of the list of patterns of a directory comes to the lines that it spills, which
hold as patterns. It leaves the rules as they are exactly if these say nothing, as when there are none, for no
character in the comment ends a line. Then a scan of the directory, by whatever path, finds the same files, ignores as
many entries, meets the same failures, and does not enter the same directories. -/
theorem scan_insert_comment (halike : before.bare = after.bare) {old new : Bytes}
    (hold : gitignore? before real = some old) (hnew : gitignore? after real = some new)
    {front comment back : Text} (hparts : Text.PartsLines front back) (hcomment : ('\r' : CodePoint) ∉ comment)
    (hbefore : Utf8.decode old = front ++ back)
    (hafter : Utf8.decode new = front ++ (Ignore.commentLine comment ++ back)) (exclusions : Exclusions) :
    (Ignore.spill comment = [] ↔ ∀ c ∈ comment, Text.endsLine c = false)
    ∧ (exclusions.useGitignore = true →
        rules after exclusions real = Ignore.Spec.ofLines
          (Text.lines front ++ (Ignore.spill comment ++ (Text.lines back ++ exclusions.patterns)))
        ∧ ∀ spec, rules before exclusions real = .ok spec →
          (rules after exclusions real = .ok spec ↔ ∀ line ∈ Ignore.spill comment, Ignore.SaysNothing line))
    ∧ ((exclusions.useGitignore = true → ∀ line ∈ Ignore.spill comment, Ignore.SaysNothing line) →
        (∀ root once, Disk.resolve before root = .ok once → Disk.resolve before once = .ok real →
          (scan after exclusions root).map Listing.bare = (scan before exclusions root).map Listing.bare)
        ∧ (∀ root, Disk.resolve before root = .ok real →
          (scanQuietly after exclusions root).map Listing.bare = (scanQuietly before exclusions root).map Listing.bare)
        ∧ ∀ names, IsPruned after exclusions real names ↔ IsPruned before exclusions real names) := by
  have own : exclusions.useGitignore = true → rules before exclusions real
      = Ignore.Spec.ofLines (Text.lines front ++ (Text.lines back ++ exclusions.patterns)) := by
    intro huse
    rw [rules_eq, lines_of_gitignore huse hold, fileLines_eq, hbefore, Text.lines_append hparts, List.append_assoc]
  have more : exclusions.useGitignore = true → rules after exclusions real = Ignore.Spec.ofLines
      (Text.lines front ++ (Ignore.spill comment ++ (Text.lines back ++ exclusions.patterns))) := by
    intro huse
    rw [rules_eq, lines_of_gitignore huse hnew, fileLines_eq, hafter, Ignore.ofLines_comment hparts]
  refine ⟨Ignore.spill_eq_nil_iff hcomment, fun huse => ⟨more huse, fun spec hspec => ?_⟩, fun hvoid => ?_⟩
  · rw [own huse] at hspec
    rw [more huse, ← List.append_assoc]
    exact Ignore.Spec.ofLines_insert_eq_ok_iff hspec
  · have same : rules before exclusions real = rules after exclusions real := by
      by_cases huse : exclusions.useGitignore = true
      · rw [own huse, more huse]
        exact (Ignore.Spec.ofLines_append_congr (Ignore.Spec.ofLines_append_of_saysNothing (hvoid huse) _) _).symm
      -- a list of patterns that does not count is not read
      · rw [rules, rules, if_neg huse, if_neg huse]
    refine ⟨fun root once honce hreal => ?_, fun root hreal => ?_, fun names =>
      ⟨fun h => h.of_bare_eq halike same, fun h => h.of_bare_eq halike.symm same.symm⟩⟩
    · refine (scan_bare_eq root halike fun other path hroot => ?_).symm
      obtain rfl := Except.ok.inj (honce.symm.trans hroot.resolve_eq)
      obtain rfl := Except.ok.inj (hreal.symm.trans hroot.again)
      exact same
    · refine (scanQuietly_bare_eq root halike fun path hpath => ?_).symm
      obtain rfl := Except.ok.inj (hreal.symm.trans hpath)
      exact same

/-! ### An example -/

/-- Behind a form feed in a comment stands a pattern, by which two files are no longer found. Behind a blank it would
change nothing. -/
theorem scan_insert_comment_on_patternTree :
    Ignore.spill " rules\x0cb.py" = [("b.py" : Text)]
    ∧ (∃ spec, rules (patternTree "c.py\n") .standard (.ofText "/t") = .ok spec
      ∧ rules (patternTree "# rules\x0cb.py\nc.py\n") .standard (.ofText "/t") ≠ .ok spec)
    ∧ (∃ listed shown, scan (patternTree "c.py\n") .standard (.ofText "/t") = .ok listed
      ∧ scan (patternTree "# rules\x0cb.py\nc.py\n") .standard (.ofText "/t") = .ok shown
      ∧ listed.files.length = 3 ∧ shown.files.length = 1)
    ∧ (∃ listed shown, scan (patternTree "c.py\n") .standard (.ofText "/t") = .ok listed
      ∧ scan (patternTree "# rules b.py\nc.py\n") .standard (.ofText "/t") = .ok shown
      ∧ shown.files.map FoundFile.path = listed.files.map FoundFile.path) := by
  have alike : ∀ patterns : Text, (patternTree "c.py\n").bare = (patternTree patterns).bare := by
    unfold patternTree
    exact fun _ => rfl
  have resolved : (Disk.resolve (patternTree "c.py\n") (.ofText "/t")).toOption.any
      (fun p => p = .ofText "/t") = true := by decide +kernel
  have old : gitignore? (patternTree "c.py\n") (.ofText "/t")
      = some (("c.py\n" : Text).map fun c => UInt8.ofNat c.val) := by decide +kernel
  have cut : gitignore? (patternTree "# rules\x0cb.py\nc.py\n") (.ofText "/t")
      = some (("# rules\x0cb.py\nc.py\n" : Text).map fun c => UInt8.ofNat c.val) := by decide +kernel
  have whole : gitignore? (patternTree "# rules b.py\nc.py\n") (.ofText "/t")
      = some (("# rules b.py\nc.py\n" : Text).map fun c => UInt8.ofNat c.val) := by decide +kernel
  have spilt : Ignore.spill " rules\x0cb.py" = [("b.py" : Text)] := by decide +kernel
  have plain : (" rules b.py" : Text).all (fun c => !Text.endsLine c) = true := by decide +kernel
  have speaks : ¬ Ignore.SaysNothing "b.py" := by decide +kernel
  have counts : (scan (patternTree "c.py\n") .standard (.ofText "/t")).toOption.any (fun l => l.files.length == 3)
      = true := by decide +kernel
  have fewer : (scan (patternTree "# rules\x0cb.py\nc.py\n") .standard (.ofText "/t")).toOption.any
      (fun l => l.files.length == 1) = true := by decide +kernel
  have accepted : (rules (patternTree "c.py\n") .standard (.ofText "/t")).toOption.any (fun _ => true) = true := by
    decide +kernel
  obtain ⟨spec, hspec, -⟩ := exists_eq_ok_of_any accepted
  obtain ⟨listed, hlisted, hthree⟩ := exists_eq_ok_of_any counts
  obtain ⟨shown, hshown, hone⟩ := exists_eq_ok_of_any fewer
  obtain ⟨-, hrules, -⟩ := @scan_insert_comment _ _ _ (alike _) _ _ old cut
    [] " rules\x0cb.py" "c.py\n" (Text.partsLines_nil _) (by decide +kernel) (by decide +kernel) (by decide +kernel)
    .standard
  obtain ⟨hnone, -, hinert⟩ := @scan_insert_comment _ _ _ (alike _) _ _ old whole
    [] " rules b.py" "c.py\n" (Text.partsLines_nil _) (by decide +kernel) (by decide +kernel) (by decide +kernel)
    .standard
  refine ⟨spilt, ⟨spec, hspec, fun hsame => ?_⟩, ⟨listed, shown, hlisted, hshown, beq_iff_eq.1 hthree,
    beq_iff_eq.1 hone⟩, ?_⟩
  · exact speaks (((hrules rfl).2 spec hspec).1 hsame "b.py" (by rw [spilt]; exact List.mem_singleton_self _))
  · have nothing : Ignore.spill " rules b.py" = [] := hnone.2 fun c hc => by
      simpa using List.all_eq_true.1 plain c hc
    obtain ⟨hscan, -⟩ := hinert fun _ line hline => by
      rw [nothing] at hline
      cases hline
    have hscan := hscan (.ofText "/t") (.ofText "/t") (eq_ok_of_any resolved) (eq_ok_of_any resolved)
    rw [hlisted] at hscan
    obtain ⟨again, hagain, hbare⟩ := map_eq_ok_iff.1 hscan
    exact ⟨listed, again, hlisted, hagain, Listing.paths_eq_of_bare_eq hbare⟩

end Scan

end SourceAtlas
