import SourceAtlas.Proofs.Analysis.Findings
import SourceAtlas.Proofs.Analysis.Interleaving
import SourceAtlas.Proofs.Store.Codec

/-!
Completion. Whatever bytes the files of a directory hold and whatever they are called, no step of a run over them
fails: what is decoded has a fingerprint, source with errors has no entities, and keys, fingerprints and payloads
have forms that can be encoded. Hence a run over readable files goes on until all of them have been handled.

Main statement: `directory_completes`.
-/

namespace SourceAtlas

/-- Fingerprints are ASCII. -/
theorem Fingerprint.isAscii_of_ofText {t fingerprint : Text} (h : ofText t = .ok fingerprint) :
    fingerprint.IsAscii := by
  unfold ofText at h
  cases hencode : Utf8.encode t with
  | error e =>
    rw [hencode] at h
    cases h
  | ok bytes =>
    rw [hencode] at h
    obtain rfl := Except.ok.inj h
    exact Text.isAscii_hex 16 _

/-- Whatever the bytes of a file are, their text has a fingerprint. -/
theorem Fingerprint.exists_ofText_decode (bytes : Bytes) :
    ∃ fingerprint, ofText (Utf8.decode bytes) = .ok fingerprint := by
  obtain ⟨again, hencode⟩ := Utf8.exists_encode_decode bytes
  exact ⟨ofBytes again, by rw [ofText, hencode]; rfl⟩

/-- Source with an error has no chunks, and neither has a file that is no source. -/
theorem extract_of_rejected {path : Path} {source : Text} (h : isRead path = false ∨ Source.parse? source = none)
    (policy : Policy) : extract policy path source = [] := by
  rcases h with hpath | hsource
  · rw [extract, hpath]
    rfl
  · exact extract_eq_nil_of_parse? hsource policy path

/-- A path has a form by which it can be looked up. -/
theorem Store.exists_encode_storageKey (path : Text) : ∃ bytes, Utf8.encode (storageKey path) = .ok bytes :=
  Utf8.exists_encode_iff.2 fun _ hc => isSurrogate_of_mem_storageKey hc

/-- The row that well-typed chunks are stored as can be encoded. -/
theorem Row.encodable_of_wellTyped (path : Text) {fingerprint : Text} (hfingerprint : fingerprint.IsAscii)
    {chunks : List Chunk} (h : ∀ c ∈ chunks, c.WellTyped) :
    Row.Encodable ⟨Store.storageKey path, fingerprint, Payload.write chunks⟩ := by
  simp only [Row.Encodable, List.forall_mem_cons, List.not_mem_nil, false_implies, implies_true, and_true]
  exact ⟨Store.exists_encode_storageKey path, hfingerprint.exists_encode, (Payload.isAscii_write h).exists_encode⟩

namespace Analysis

variable {read : Path → Except Disk.Failure Bytes}

/-! ## Steps that fail -/

/-- The next step of a file fails: it cannot be read or its text has no fingerprint, its key cannot be asked for, or
the row that was extracted for it cannot be stored. -/
inductive Flight.Fails (read : Path → Except Disk.Failure Bytes) (f : Flight) : Prop
  | content {i : Nat} {target : Target} {fault : Fault} (hat : f.At i target .waiting)
      (hcontent : Analysis.content read target.path = .error fault)
  | lookup {i : Nat} {target : Target} {source fingerprint : Text} (hat : f.At i target (.loaded source fingerprint))
      (hkey : ¬ ∃ bytes, Utf8.encode (Store.storageKey target.key) = .ok bytes)
  | put {i : Nat} {target : Target} {source fingerprint : Text} {answer : Answer}
      (hat : f.At i target (.missed source fingerprint answer))
      (hrow : ¬ Row.Encodable ⟨Store.storageKey target.key, fingerprint,
        Payload.write (extract f.policy target.shown source)⟩)

theorem isAscii_of_content {path : Path} {source fingerprint : Text}
    (h : content read path = .ok (source, fingerprint)) : fingerprint.IsAscii :=
  Fingerprint.isAscii_of_ofText (content_eq_ok_iff.1 h).2.2

/-- The row of a file whose content has been read can be stored. -/
theorem encodable_of_content {path : Path} {source fingerprint : Text}
    (h : content read path = .ok (source, fingerprint)) (policy : Policy) (key : Text) (shown : Path) :
    Row.Encodable ⟨Store.storageKey key, fingerprint, Payload.write (extract policy shown source)⟩ :=
  Row.encodable_of_wellTyped key (isAscii_of_content h) fun _ => wellTyped_of_mem_extract

/-- No step fails in a run over readable files that has read what they hold. -/
theorem Flight.not_fails {f : Flight} (hreadable : ∀ t ∈ f.targets, t.IsReadable read)
    (hcurrent : ∀ task ∈ f.tasks, task.IsCurrent read) : ¬ f.Fails read := by
  intro h
  cases h with
  | content hat hcontent =>
    obtain ⟨pair, hpair⟩ := (hreadable _ (mem_targets_of_at hat)).exists_content
    rw [hpair] at hcontent
    cases hcontent
  | lookup hat hkey => exact hkey (Store.exists_encode_storageKey _)
  | put hat hrow => exact hrow (encodable_of_content (hcurrent _ (mem_tasks_of_at hat)) _ _ _)

/-- What a step of a run stores can be encoded. -/
theorem Advance.encodable {s s' : Store} {f f' : Flight} {e : Event} (h : Advance read (s, f) e (s', f'))
    (hcurrent : ∀ task ∈ f.tasks, task.IsCurrent read) {r : Row} (hr : r ∈ s'.rows) : r ∈ s.rows ∨ r.Encodable := by
  cases h with
  | keep hat =>
    rcases Store.mem_rows_put hr with rfl | hr
    · exact .inr (encodable_of_content (hcurrent _ (Flight.mem_tasks_of_at hat)) _ _ _)
    · exact .inl hr
  | _ => exact .inl hr

theorem Flies.encodable {x y : Store × Flight} {events : List Event} (h : Flies read x events y)
    (hwaiting : ∀ task ∈ x.2.tasks, task.stage = .waiting) {r : Row} (hr : r ∈ y.1.rows) :
    r ∈ x.1.rows ∨ r.Encodable := by
  induction h with
  | refl => exact .inl hr
  | snoc before last ih =>
    rcases last.encodable (before.isCurrent hwaiting).2.1 hr with hr | hencodable
    · exact ih hr
    · exact .inr hencodable

/-! ## Directories -/

/-- A directory whose rules can be read can be scanned. -/
theorem exists_scan_of_rules {disk : Disk} {exclusions : Scan.Exclusions} {root once real : Path}
    (hroot : Scan.GoesOver disk root once real) {spec : Ignore.Spec}
    (hrules : Scan.rules disk exclusions real = .ok spec) :
    ∃ listing, Scan.scan disk exclusions root = .ok listing := by
  rw [hroot.scan_eq, Scan.listing, hrules]
  exact ⟨_, rfl⟩

/-- The analysis of a directory is completed, whatever its files hold and are called and whatever the store holds,
if its rules can be read and its files can. In any interleaving no step fails, the run goes on until all files have
been handled, and what it stores can be encoded. For any bytes have a text with a fingerprint, and source with
an error has no chunks. -/
theorem directory_completes {disk : Disk} (hdisk : disk.isWellFormed = true) {exclusions : Scan.Exclusions}
    {size : Int} (hsize : 1 ≤ size) {root once real : Path} (hroot : Scan.GoesOver disk root once real)
    {spec : Ignore.Spec} (hrules : Scan.rules disk exclusions real = .ok spec) :
    (∃ listing, Scan.scan disk exclusions root = .ok listing
      ∧ ((∀ f ∈ listing.files, ∃ bytes, Disk.read disk f.path = .ok bytes) → ∀ s : Store,
        (∃ result, (directory disk exclusions size root s).result = .ok result)
        ∧ ∃ start, launch? .excludeImports disk exclusions size root = some start
          ∧ ∀ events s' f, Flies (Disk.read disk) (s, start) events (s', f) →
            ¬ f.Fails (Disk.read disk) ∧ events.length ≤ 4 * listing.files.length
            ∧ ((∃ e y, Advance (Disk.read disk) (s', f) e y) ∨ ∃ result, f.landing? = some result)
            ∧ ∀ r ∈ s'.rows, r ∈ s.rows ∨ r.Encodable))
    ∧ (∀ bytes, ∃ fingerprint, Fingerprint.ofText (Utf8.decode bytes) = .ok fingerprint)
    ∧ ∀ policy path source, isRead path = false ∨ Source.parse? source = none → extract policy path source = [] := by
  refine ⟨?_, Fingerprint.exists_ofText_decode, fun policy path source h => extract_of_rejected h policy⟩
  obtain ⟨listing, hscan⟩ := exists_scan_of_rules hroot hrules
  refine ⟨listing, hscan, fun hreadable s => ?_⟩
  let list := targets once (listing.files.map FoundFile.path)
  let start := Flight.start .excludeImports size.toNat list
  have hlaunch : launch? .excludeImports disk exclusions size root = some start :=
    launch?_eq_some_iff.2 ⟨listing, once, hscan, by omega, hroot.resolve_eq, rfl⟩
  obtain ⟨-, hwaiting, -, -, -⟩ := launch?_spec hdisk hlaunch
  -- the files found are those of the run, and can be read
  have readable : ∀ t ∈ start.targets, t.IsReadable (Disk.read disk) := by
    rw [Flight.targets_start]
    intro t ht
    obtain ⟨path, hpath, rfl⟩ := List.mem_map.1 ht
    obtain ⟨f, hf, rfl⟩ := List.mem_map.1 hpath
    obtain ⟨_, _, hagain, below, -⟩ := Scan.scan_spec hdisk hscan
    obtain rfl := Except.ok.inj (hroot.resolve_eq.symm.trans hagain.resolve_eq)
    obtain ⟨hsound, hseen, -⟩ := ofPath_of_scan hdisk hagain hscan hf (below f hf)
    rw [hseen]
    exact ⟨hsound, hreadable f hf⟩
  refine ⟨exists_result_of_contents hlaunch (fun t ht => (readable t ht).exists_content) s, start, hlaunch,
    fun events s' f hflies => ?_⟩
  have htargets : f.targets = start.targets := hflies.targets_eq
  have reached := htargets ▸ readable
  refine ⟨Flight.not_fails reached (hflies.isCurrent hwaiting).2.1, ?_, exists_advance_or_landing reached,
    fun r hr => hflies.encodable hwaiting hr⟩
  have bound := (hflies.length_add_work_le (show 0 < size.toNat by omega)).2
  have count : list.length = listing.files.length := (List.length_map _).trans (List.length_map _)
  rw [Flight.work_start, count] at bound
  omega

/-! ### An example -/

/-- Two files: one whose name and content are no text, and one with an error. -/
@[irreducible] def brokenTree : Disk :=
  .directory [("t", .directory [(CodePoint.ofNat 0xDCE9 :: ".py", .file [0xFF, 0x00, 0xED, 0xA0, 0x80]),
    ("x.py", .file (("def f(:" : Text).map fun c => UInt8.ofNat c.val))])]

/-- The analysis is completed without chunks, and both files have rows that can be encoded. -/
theorem directory_completes_on_brokenTree :
    let outcome := directory brokenTree .standard 1 (.ofText "/t") .empty
    ∃ findings counts, outcome.result = .ok (findings, counts) ∧ findings = [] ∧ counts.misses = 2
      ∧ outcome.store.count = 2 ∧ ∀ r ∈ outcome.store.rows, r.Encodable := by
  intro outcome
  have wellFormed : brokenTree.isWellFormed = true := by decide +kernel
  have root : Disk.isDirectory brokenTree (.ofText "/t") = true := by decide +kernel
  have resolved : (Disk.resolve brokenTree (.ofText "/t")).toOption.any (fun p => p = .ofText "/t") = true := by
    decide +kernel
  have accepted : (Scan.rules brokenTree .standard (.ofText "/t")).toOption.any (fun _ => true) = true := by
    decide +kernel
  obtain ⟨spec, hrules, -⟩ := exists_eq_ok_of_any accepted
  obtain ⟨⟨listing, hscan, any⟩, -, -⟩ :=
    @directory_completes _ wellFormed .standard 1 (by decide) _ _ _
      (Scan.goesOver_of_isDirectory wellFormed root (eq_ok_of_any resolved)) spec hrules
  have scanned : (Scan.scan brokenTree .standard (.ofText "/t")).toOption.any (fun l =>
      l.files.all fun f => (Disk.read brokenTree f.path).toOption.any fun _ => true) = true := by decide +kernel
  have readable : ∀ f ∈ listing.files, ∃ bytes, Disk.read brokenTree f.path = .ok bytes := by
    obtain ⟨found, hfound, hfiles⟩ := exists_eq_ok_of_any scanned
    obtain rfl := Except.ok.inj (hscan.symm.trans hfound)
    intro f hf
    obtain ⟨bytes, hbytes, -⟩ := exists_eq_ok_of_any (List.all_eq_true.1 hfiles f hf)
    exact ⟨bytes, hbytes⟩
  obtain ⟨⟨⟨findings, counts⟩, hresult⟩, start, hlaunch, flights⟩ := any readable .empty
  have numbers : outcome.result.toOption.any (fun r => r.1.isEmpty && r.2.misses == 2) = true := by decide +kernel
  obtain ⟨_, hagain, hnumbers⟩ := exists_eq_ok_of_any numbers
  obtain rfl := Except.ok.inj (hresult.symm.trans hagain)
  obtain ⟨hempty, hmisses⟩ := Bool.and_eq_true_iff.1 hnumbers
  obtain ⟨_, events, f, hlaunch', hflies, -⟩ := exists_flies_of_directory hresult
  obtain rfl := Option.some.inj (hlaunch.symm.trans hlaunch')
  refine ⟨findings, counts, hresult, List.isEmpty_iff.1 hempty, beq_iff_eq.1 hmisses, by decide +kernel,
    fun r hr => ?_⟩
  exact ((flights events _ f hflies).2.2.2 r hr).resolve_left List.not_mem_nil

end Analysis

end SourceAtlas
