import SourceAtlas.Proofs.Analysis.Interleaving

/-!
From a scan to the findings. Every file that a scan has found is handled once and shown by its path as seen from the
root of the run, with the chunks that were looked up for it or extracted from it. The findings are those of the files
with chunks, in the order of the scan, and the statistics count them: no file is lost, and none stands in the place of
another. The paths are those of the scan unless a link on the way to the root leads back to itself: the scan makes the
path of the root real once more than the run does.

Main statement: `findings_account_for_scan`.
-/

namespace SourceAtlas

/-- What a file adds to the findings of a run: nothing if it has no chunks. -/
def Visit.finding? (v : Visit) : Option (Text × List Chunk) :=
  if v.chunks.isEmpty then none else some (v.shown, v.chunks)

namespace Analysis

variable {policy : Policy} {read : Path → Except Disk.Failure Bytes}

/-! ## What is collected -/

/-- A file without chunks adds nothing to the findings. -/
theorem filterMap_finding?_cons (v : Visit) (rest : List Visit) :
    (v :: rest).filterMap Visit.finding?
      = if v.chunks.isEmpty then rest.filterMap Visit.finding?
        else (v.shown, v.chunks) :: rest.filterMap Visit.finding? := by
  rw [List.filterMap_cons, Visit.finding?]
  cases v.chunks.isEmpty with
  | true => rfl
  | false => rfl

theorem mem_shown_of_mem_findings {visits : List Visit} {shown : Text}
    (h : shown ∈ (visits.filterMap Visit.finding?).map Prod.fst) : shown ∈ visits.map Visit.shown := by
  obtain ⟨entry, hentry, rfl⟩ := List.mem_map.1 h
  obtain ⟨v, hv, hfinding⟩ := List.mem_filterMap.1 hentry
  unfold Visit.finding? at hfinding
  split at hfinding
  · cases hfinding
  · rw [← Option.some.inj hfinding]
    exact List.mem_map_of_mem hv

/-- Files that are shown by different paths are found by different paths. -/
theorem nodup_findings {visits : List Visit} (h : (visits.map Visit.shown).Nodup) :
    ((visits.filterMap Visit.finding?).map Prod.fst).Nodup := by
  induction visits with
  | nil => exact List.nodup_nil
  | cons v rest ih =>
    rw [List.map_cons, List.nodup_cons] at h
    rw [filterMap_finding?_cons]
    split
    · exact ih h.2
    · exact List.nodup_cons.2 ⟨fun hmem => h.1 (mem_shown_of_mem_findings hmem), ih h.2⟩

/-- Files that are seen by different paths do not replace each other's chunks. -/
theorem collect_eq_filterMap {visits : List Visit} (h : (visits.map Visit.shown).Nodup) :
    collect visits = visits.filterMap Visit.finding? := by
  induction visits using List.reverseRecOn with
  | nil => rfl
  | append_singleton visits v ih =>
    rw [List.map_append, List.nodup_append] at h
    obtain ⟨hfront, -, hapart⟩ := h
    have last : collect (visits ++ [v]) = collectOne (collect visits) v := List.foldl_concat _ _ _ _
    have fresh : v.shown ∉ (visits.filterMap Visit.finding?).map Prod.fst := fun hmem =>
      hapart v.shown (mem_shown_of_mem_findings hmem) v.shown (List.mem_singleton_self _) rfl
    rw [last, ih hfront, collectOne, List.filterMap_append, filterMap_finding?_cons, List.filterMap_nil]
    split
    · exact (List.append_nil _).symm
    · exact Association.set_of_not_mem fresh v.chunks

/-! ## Where chunks come from -/

section

variable (policy : Policy) (read : Path → Except Disk.Failure Bytes) (start : Store × Flight) (events : List Event)

/-- Where the chunks of a file come from, in a run that began so: from the store, which had them under the
fingerprint of the file when the file was found in it, or from the text of the file. -/
inductive IsSupplied (t : Target) (v : Visit) : Prop
  | lookedUp {source fingerprint : Text} {before : List Event} {s : Store} {f : Flight}
      (hcontent : content read t.path = .ok (source, fingerprint)) (hflies : Flies read start before (s, f))
      (hbefore : before ++ [.found t] <+: events) (hget : s.get t.key = .entry fingerprint v.chunks)
      (hhit : v.isHit = true)
  | extracted {source fingerprint : Text} (hcontent : content read t.path = .ok (source, fingerprint))
      (hevent : .extracted t source fingerprint ∈ events) (hchunks : v.chunks = extract policy t.shown source)
      (hmiss : v.isHit = false)

/-- What has been read of a file is its content, it was extracted if it was missed, and once it has been handled
it is shown by its path and supplied with chunks. -/
def Task.IsSupplied (task : Task) : Prop :=
  match task.stage with
  | .waiting => True
  | .loaded source fingerprint => content read task.target.path = .ok (source, fingerprint)
  | .missed source fingerprint answer => content read task.target.path = .ok (source, fingerprint)
      ∧ .extracted task.target source fingerprint ∈ events ∧ answer ≠ .hit
  | .finished v => v.shown = task.target.shown.toText
      ∧ Analysis.IsSupplied policy read start events task.target v

end

section

variable {start : Store × Flight} {events : List Event}

/-- What has happened stays so. -/
theorem IsSupplied.snoc {t : Target} {v : Visit} (h : IsSupplied policy read start events t v) (e : Event) :
    IsSupplied policy read start (events ++ [e]) t v := by
  cases h with
  | lookedUp hcontent hflies hbefore hget hhit =>
    exact .lookedUp hcontent hflies (hbefore.trans (List.prefix_append _ _)) hget hhit
  | extracted hcontent hevent hchunks hmiss =>
    exact .extracted hcontent (List.mem_append_left _ hevent) hchunks hmiss

/-- So it is for every task. -/
theorem Task.IsSupplied.snoc {task : Task} (h : task.IsSupplied policy read start events) (e : Event) :
    task.IsSupplied policy read start (events ++ [e]) := by
  obtain ⟨target, stage⟩ := task
  cases stage with
  | waiting => trivial
  | loaded source fingerprint => exact h
  | missed source fingerprint answer => exact ⟨h.1, List.mem_append_left _ h.2.1, h.2.2⟩
  | finished v => exact ⟨h.1, h.2.snoc e⟩

/-- A step of a run supplies the file that it handles. -/
theorem Advance.isSupplied {s s' : Store} {f f' : Flight} {e : Event} (hbefore : Flies read start events (s, f))
    (hadvance : Advance read (s, f) e (s', f')) (hpolicy : f.policy = policy)
    (h : ∀ task ∈ f.tasks, task.IsSupplied policy read start events) :
    f'.policy = policy ∧ ∀ task ∈ f'.tasks, task.IsSupplied policy read start (events ++ [e]) := by
  have old : ∀ task ∈ f.tasks, task.IsSupplied policy read start (events ++ [e]) :=
    fun task htask => (h task htask).snoc e
  cases hadvance with
  | load hat hcontent => exact ⟨hpolicy, Flight.forall_tasks_move old hcontent⟩
  | @find _ _ _ target source fingerprint _ _ hat hanswer =>
    have hcontent : content read target.path = .ok (source, fingerprint) := h _ (Flight.mem_tasks_of_at hat)
    obtain ⟨hget, rfl⟩ := answerTo_eq_some hanswer
    exact ⟨hpolicy, Flight.forall_tasks_move old
      ⟨rfl, .lookedUp hcontent hbefore (List.prefix_refl _) hget rfl⟩⟩
  | @miss _ _ _ target source fingerprint _ hat hanswer =>
    have hcontent : content read target.path = .ok (source, fingerprint) := h _ (Flight.mem_tasks_of_at hat)
    exact ⟨hpolicy, Flight.forall_tasks_move old
      ⟨hcontent, List.mem_append_right _ (List.mem_singleton_self _), (answerTo_eq_none hanswer).2⟩⟩
  | @keep _ _ _ target source fingerprint answer hat =>
    obtain ⟨hcontent, hevent, hanswer⟩ := h _ (Flight.mem_tasks_of_at hat)
    rw [hpolicy]
    have missed : Visit.isHit ⟨target.key, target.shown.toText, answer, extract policy target.shown source⟩
        = false := Bool.eq_false_iff.2 fun hhit => hanswer (isHit_iff.1 hhit)
    exact ⟨hpolicy, Flight.forall_tasks_move old
      ⟨rfl, .extracted hcontent (List.mem_append_left _ hevent) rfl missed⟩⟩
  | next _ _ => exact ⟨hpolicy, old⟩

/-- A run supplies all its files. -/
theorem Flies.isSupplied {y : Store × Flight} (h : Flies read start events y) (hpolicy : start.2.policy = policy)
    (hwaiting : ∀ task ∈ start.2.tasks, task.stage = .waiting) :
    y.2.policy = policy ∧ ∀ task ∈ y.2.tasks, task.IsSupplied policy read start events := by
  induction h with
  | refl =>
    refine ⟨hpolicy, fun task htask => ?_⟩
    rw [Task.IsSupplied, hwaiting task htask]
    trivial
  | snoc before last ih => exact last.isSupplied before ih.1 ih.2

end

/-! ## From the scan to the findings -/

section

variable (policy : Policy) (read : Path → Except Disk.Failure Bytes) (start : Store × Flight) (events : List Event)
  (once real : Path)

/-- A scanned file has been handled: it is shown by its path from the root of the run and supplied with chunks. It is
shown by its names from the root of the scan, as in the scan, exactly if both roots are one. -/
def IsHandled (f : FoundFile) (v : Visit) : Prop :=
  v.shown = (Path.relativeTo once f.path).toText
    ∧ (∃ names, f.path = .ofNames (real.parts ++ names) ∧ (v.shown = Scan.relative names ↔ once = real))
    ∧ IsSupplied policy read start events ⟨f.path, Path.relativeTo once f.path⟩ v

/-- The findings of a run are those of the scanned files with chunks, in the order of the scan and each file
once, and its statistics count them. -/
structure AccountsFor (files : List FoundFile) (visits : List Visit) (findings : Findings) (counts : Statistics) :
    Prop where
  handled : List.Forall₂ (IsHandled policy read start events once real) files visits
  findings_eq : findings = visits.filterMap Visit.finding?
  distinct : (findings.map Prod.fst).Nodup
  files_eq : counts.files = files.length
  hits_eq : counts.hits = (visits.countP Visit.isHit)
  hits_add_misses : counts.hits + counts.misses = counts.files
  filesWithEntities_eq : counts.filesWithEntities = findings.length
  chunks_eq : counts.chunks = (findings.map fun entry => (entry.2.length : Int)).sum

end

/-- Every file that is handled is answered from the store or not. -/
theorem hits_add_misses (files : Nat) (visits : List Visit) :
    (statistics files visits).hits + (statistics files visits).misses = visits.length := by
  have split := List.length_eq_length_filter_add (l := visits) Visit.isHit
  show ((visits.filter Visit.isHit).length : Int) + ((visits.filter fun v => !v.isHit).length : Int) = _
  omega

/-- The chunks that are counted are those of the findings. -/
theorem chunks_eq_sum (files : Nat) (visits : List Visit) :
    (statistics files visits).chunks = ((collect visits).map fun entry => (entry.2.length : Int)).sum := by
  rw [List.sum_eq_foldl, List.foldl_map]
  rfl

/-- A scanned file is seen from the root of the run by the names that the scan matches with its rules, exactly if this
is the root of the scan. -/
theorem ofPath_of_scan {disk : Disk} (hdisk : disk.isWellFormed = true) {exclusions : Scan.Exclusions}
    {root once real : Path} (hroot : Scan.GoesOver disk root once real) {listing : Listing}
    (hscan : Scan.scan disk exclusions root = .ok listing) {f : FoundFile} (hf : f ∈ listing.files)
    (hbelow : f.IsBelow real) :
    f.path.isSound = true ∧ Target.ofPath once f.path = ⟨f.path, Path.relativeTo once f.path⟩
      ∧ ∃ names, f.path = .ofNames (real.parts ++ names)
        ∧ ((Path.relativeTo once f.path).toText = Scan.relative names ↔ once = real) := by
  have isFile := isFilePath_of_mem_scan hdisk hroot hscan hf hbelow
  have direct := isDirect_of_resolve hroot.resolve_eq
  have anchor := (hroot.exists_directory hdisk).1
  obtain ⟨names, hne, hnames, hpath⟩ := hbelow
  have named : f.path.IsNamed := fun name hname => .inr (isFile.isName name hname)
  have text : (⟨.relative, names⟩ : Path).toText = Scan.relative names := by
    rw [Path.toText, List.isEmpty_eq_false_iff.2 hne]
    rfl
  rw [anchor] at hpath
  refine ⟨Disk.isSound_of_isName fun name hname => .inr (isFile.isName name hname), ?_, names, hpath, ?_⟩
  · rw [Target.ofPath, isFile.join_eq]
  rw [← text, Path.toText_inj (named.relativeTo once) fun name hname => .inr (hnames name hname)]
  constructor
  · intro h
    obtain ⟨common, up, down, hcommon, hdown, hseen⟩ := Path.exists_relativeTo_eq once f.path
    rw [direct.normal_eq] at hcommon
    rw [isFile.direct.normal_eq, hpath] at hdown
    have parts := (Path.mk.inj (hseen.symm.trans h)).2
    -- no name of the file is two dots, so that it is not seen by going up
    obtain rfl : up = [] := by
      cases up with
      | nil => rfl
      | cons first rest =>
        have mem : Path.above ∈ names := by
          rw [← parts]
          exact List.mem_cons_self
        exact absurd rfl (Path.ne_above_of_isName (hnames _ mem))
    rw [List.append_nil] at hcommon
    rw [List.map_nil, List.nil_append] at parts
    rw [← hcommon, parts] at hdown
    have same : real.parts = once.parts := List.append_cancel_right hdown
    rw [Path.mk.injEq]
    exact ⟨direct.anchor_eq.trans anchor.symm, same.symm⟩
  · rintro rfl
    rw [hpath]
    exact Path.relativeTo_append fun name hname => isFile.direct.ne_above name (hpath ▸ hname)

/-- A directory has been scanned, and all files found can be read. Then its analysis is completed whatever the
store holds, as one of the interleavings of its steps; and in whatever interleaving it is completed, its findings
and statistics account for the files found. -/
theorem findings_account_for_scan {disk : Disk} (hdisk : disk.isWellFormed = true)
    {exclusions : Scan.Exclusions} {size : Int} (hsize : 1 ≤ size) {root : Path} {listing : Listing}
    (hscan : Scan.scan disk exclusions root = .ok listing)
    (hreadable : ∀ f ∈ listing.files, ∃ bytes, Disk.read disk f.path = .ok bytes) (s : Store) :
    ∃ once real start, Scan.GoesOver disk root once real
      ∧ launch? .excludeImports disk exclusions size root = some start
      ∧ (∃ result events f, (directory disk exclusions size root s).result = .ok result
        ∧ Flies (Disk.read disk) (s, start) events ((directory disk exclusions size root s).store, f)
        ∧ f.landing? = some result)
      ∧ ∀ events s' f findings counts, Flies (Disk.read disk) (s, start) events (s', f) →
        f.landing? = some (findings, counts) → ∃ visits,
          AccountsFor .excludeImports (Disk.read disk) (s, start) events once real listing.files visits findings
            counts := by
  obtain ⟨once, real, hroot, below, -⟩ := Scan.scan_spec hdisk hscan
  have seen := fun f hf => ofPath_of_scan hdisk hroot hscan hf (below f hf)
  let list := targets once (listing.files.map FoundFile.path)
  let start := Flight.start .excludeImports size.toNat list
  have hlaunch : launch? .excludeImports disk exclusions size root = some start :=
    launch?_eq_some_iff.2 ⟨listing, once, hscan, by omega, hroot.resolve_eq, rfl⟩
  obtain ⟨-, hwaiting, -, -, hshown⟩ := launch?_spec hdisk hlaunch
  have htargets : start.targets = listing.files.map fun f => Target.ofPath once f.path := by
    rw [Flight.targets_start]
    exact List.map_map
  have contents : ∀ t ∈ start.targets, ∃ pair, content (Disk.read disk) t.path = .ok pair := by
    rw [htargets]
    intro t ht
    obtain ⟨f, hf, rfl⟩ := List.mem_map.1 ht
    obtain ⟨hsound, hseen, -⟩ := seen f hf
    rw [hseen]
    exact Target.IsReadable.exists_content (t := ⟨f.path, Path.relativeTo once f.path⟩) ⟨hsound, hreadable f hf⟩
  refine ⟨once, real, start, hroot, hlaunch, ?_, fun events s' f findings counts hflies hland => ?_⟩
  · obtain ⟨result, hresult⟩ := exists_result_of_contents hlaunch contents s
    obtain ⟨_, events, f, hlaunch', hflies, hland⟩ := exists_flies_of_directory hresult
    obtain rfl := Option.some.inj (hlaunch.symm.trans hlaunch')
    exact ⟨result, events, f, hresult, hflies, hland⟩
  · obtain ⟨visits, hvisits, rfl, rfl⟩ := Flight.exists_visits_of_landing hland
    have supplied : ∀ {t v}, ⟨t, .finished v⟩ ∈ f.tasks → v.shown = t.shown.toText
        ∧ IsSupplied .excludeImports (Disk.read disk) (s, start) events t v :=
      fun hmem => (hflies.isSupplied rfl hwaiting).2 _ hmem
    have finished := Flight.forall₂_targets hvisits
    rw [show f.targets = start.targets from hflies.targets_eq] at finished
    -- the paths by which files are seen are those by which their visits are shown, and are distinct
    have shown : visits.map Visit.shown = start.targets.map fun t => t.shown.toText := by
      rw [← List.forall₂_eq_eq_eq, List.forall₂_map_left_iff, List.forall₂_map_right_iff]
      exact finished.flip.imp fun v t hmem => (supplied hmem).1
    have distinct : (visits.map Visit.shown).Nodup := shown ▸ hshown
    have count : f.tasks.length = listing.files.length := by
      have same := congrArg List.length (hflies.targets_eq.trans htargets)
      rwa [Flight.targets, List.length_map, List.length_map] at same
    rw [htargets, List.forall₂_map_left_iff] at finished
    refine ⟨visits, ?_, collect_eq_filterMap distinct, ?_, ?_, ?_, ?_, rfl, chunks_eq_sum _ _⟩
    · refine ((List.forall₂_and_left _ _).2 ⟨fun f hf => hf, finished⟩).imp ?_
      rintro g v ⟨hg, hmem⟩
      obtain ⟨-, hseen, names, hpath, htext⟩ := seen g hg
      rw [hseen] at hmem
      obtain ⟨hshown, hsupplied⟩ := supplied hmem
      exact ⟨hshown, ⟨names, hpath, by rw [hshown]; exact htext⟩, hsupplied⟩
    · rw [collect_eq_filterMap distinct]
      exact nodup_findings distinct
    · exact congrArg Nat.cast count
    · rw [List.countP_eq_length_filter]
      rfl
    · rw [hits_add_misses, ← hvisits.length_eq]
      rfl

/-! ### An example -/

/-- Two files with a function each, one of them in an inner directory, and one with nothing in it; beside them a link
to their directory, and one to itself. -/
@[irreducible] def sparseTree : Disk :=
  .directory [("t", .directory [("z.py", .file []),
    ("a", .directory [("x.py", .file (("def f(): pass\n" : Text).map fun c => UInt8.ofNat c.val))]),
    ("m.py", .file (("def g(): pass\n" : Text).map fun c => UInt8.ofNat c.val))]),
    ("ln", .link "t"), ("loop", .link "loop")]

/-- One file has been stored. Of the three files found two have chunks, and all three are counted. -/
theorem findings_account_for_scan_on_sparseTree :
    let stored := (run sparseTree .excludeImports 1 (.ofText "/t") [.ofText "m.py"] .empty).store
    let outcome := directory sparseTree .standard 2 (.ofText "/t") stored
    ∃ listing findings counts, Scan.scan sparseTree .standard (.ofText "/t") = .ok listing
      ∧ outcome.result = .ok (findings, counts) ∧ findings.map Prod.fst = (["m.py", "a/x.py"] : List Text)
      ∧ counts.files = 3 ∧ counts.hits = 1 ∧ counts.misses = 2
      ∧ ∃ start events f visits, Flies (Disk.read sparseTree) (stored, start) events (outcome.store, f)
        ∧ AccountsFor .excludeImports (Disk.read sparseTree) (stored, start) events (.ofText "/t") (.ofText "/t")
          listing.files visits findings counts := by
  intro stored outcome
  have wellFormed : sparseTree.isWellFormed = true := by decide +kernel
  have scanned : (Scan.scan sparseTree .standard (.ofText "/t")).toOption.any (fun l =>
      l.files.all fun f => (Disk.read sparseTree f.path).toOption.any fun _ => true) = true := by decide +kernel
  obtain ⟨listing, hscan, hfiles⟩ := exists_eq_ok_of_any scanned
  have readable : ∀ f ∈ listing.files, ∃ bytes, Disk.read sparseTree f.path = .ok bytes := by
    intro f hf
    obtain ⟨bytes, hbytes, -⟩ := exists_eq_ok_of_any (List.all_eq_true.1 hfiles f hf)
    exact ⟨bytes, hbytes⟩
  obtain ⟨once, real, start, hroot, -, ⟨result, events, f, hresult, hflies, hland⟩, any⟩ :=
    @findings_account_for_scan sparseTree wellFormed .standard 2 (by decide) _ listing hscan readable stored
  obtain ⟨findings, counts⟩ := result
  obtain ⟨visits, haccounts⟩ := any events _ f findings counts hflies hland
  have resolved : (Disk.resolve sparseTree (.ofText "/t")).toOption.any (fun p => p = .ofText "/t") = true := by
    decide +kernel
  obtain rfl := Except.ok.inj (hroot.resolve_eq.symm.trans (eq_ok_of_any resolved))
  obtain rfl := Except.ok.inj (hroot.again.symm.trans (eq_ok_of_any resolved))
  have shown : outcome.result.toOption.any (fun r => r.1.map Prod.fst == (["m.py", "a/x.py"] : List Text)
      && r.2.files == 3 && r.2.hits == 1 && r.2.misses == 2) = true := by decide +kernel
  obtain ⟨_, hresult', hshown⟩ := exists_eq_ok_of_any shown
  obtain rfl := Except.ok.inj (hresult.symm.trans hresult')
  simp only [Bool.and_eq_true, beq_iff_eq] at hshown
  obtain ⟨⟨⟨hkeys, hcount⟩, hhits⟩, hmisses⟩ := hshown
  exact ⟨listing, findings, counts, hscan, hresult, hkeys, hcount, hhits, hmisses, start, events, f, visits,
    hflies, haccounts⟩

/-- Through the link that leads back to itself, the scan and the run come to different roots. -/
example : (directory sparseTree .standard 2 (.ofText "/loop/../ln") .empty).result.toOption.map
    (fun r => r.1.map Prod.fst) = some (["../t/m.py", "../t/a/x.py"] : List Text) := by decide +kernel

end Analysis

end SourceAtlas
