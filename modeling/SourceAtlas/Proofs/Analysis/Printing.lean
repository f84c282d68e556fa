import SourceAtlas.Proofs.Analysis.Findings
import SourceAtlas.Proofs.Analysis.Inclusion
import SourceAtlas.Proofs.Outline.Encoding
import SourceAtlas.Proofs.Payload.Shape

/-!
Printing. Surrogates come into an outline by the names of files that are no text, and by documentation whose escapes
name them. They never come by a source, whatever its bytes are and whether its chunks were extracted just now or taken
from a row that some run of the session has written: contents are parts of decoded text, and reading back a row brings
no surrogates into them. So an outline can be printed exactly if no such name and no such documentation is shown.

Main statement: `outline_prints_iff`.
-/

namespace SourceAtlas

/-! ## Chunks of files -/

/-- A chunk stems from a file: it was extracted from the text of some bytes, and since then it may have been read back
with its pairs of surrogates joined. -/
def Chunk.StemsFromFile (c : Chunk) : Prop :=
  ∃ policy path bytes, ∃ d ∈ extract policy path (Utf8.decode bytes), c = d ∨ c = d.joined

namespace Chunk.StemsFromFile

variable {c : Chunk}

theorem wellTyped (h : c.StemsFromFile) : c.WellTyped := by
  obtain ⟨policy, path, bytes, d, hd, rfl | rfl⟩ := h
  · exact wellTyped_of_mem_extract hd
  · exact (wellTyped_of_mem_extract hd).joined

/-- Its content is a part of what was decoded. -/
theorem content (h : c.StemsFromFile) : c.content.HoldsEncodable := by
  obtain ⟨policy, path, bytes, d, hd, hc⟩ := h
  obtain ⟨e, -, rfl⟩ := exists_entity_of_mem_extract hd
  have part := (Utf8.isEncodable_decode bytes).subset (Source.slice_subset _ e.span)
  rcases hc with rfl | rfl
  · exact Json.holdsEncodable_string.2 part
  · refine Json.holdsEncodable_string.2 ?_
    rw [part.joinPairs_eq]
    exact part

end Chunk.StemsFromFile

namespace Analysis

/-- What a session reads back from its store stems from files. -/
theorem Session.stemsFromFile_of_get {disk : Disk} {deeds : List Deed} {m : Moment}
    (h : Session (.blank disk) deeds m) {path fingerprint : Text} {chunks : List Chunk}
    (hget : m.store.get path = .entry fingerprint chunks) : ∀ c ∈ chunks, c.StemsFromFile := by
  obtain ⟨payload, hrow, hread⟩ := Store.get_eq_entry_iff.1 hget
  obtain ⟨w, hw⟩ := h.exists_writing _ (Store.mem_of_row?_eq_some hrow).1
  have hreading := w.deeds_eq
  rw [← List.cons_append, ← List.append_assoc] at hreading
  obtain ⟨y, -, hcontent⟩ := (hreading ▸ h).exists_content
  obtain ⟨-, ⟨bytes, -, hbytes⟩, -⟩ := content_eq_ok_iff.1 hcontent
  obtain ⟨-, -, rfl⟩ := Row.mk.inj hw
  rw [Payload.read_write fun c hc => wellTyped_of_mem_extract hc] at hread
  obtain rfl := Except.ok.inj hread
  intro c hc
  obtain ⟨d, hd, rfl⟩ := List.mem_map.1 hc
  exact ⟨_, _, bytes, d, hbytes ▸ hd, .inr rfl⟩

/-- All chunks that an analysis finds in the course of a session stem from files. -/
theorem Session.stemsFromFile_of_directory {disk now : Disk} {past : List Deed} {s : Store}
    (h : Session (.blank disk) past ⟨now, s, none⟩) {exclusions : Scan.Exclusions} {size : Int} {root : Path}
    {findings : Findings} {counts : Statistics}
    (hresult : (directory now exclusions size root s).result = .ok (findings, counts)) :
    ∀ file ∈ findings, ∀ c ∈ file.2, c.StemsFromFile := by
  obtain ⟨start, events, f, hlaunch, hflies, hland⟩ := exists_flies_of_directory hresult
  obtain ⟨listing, real, -, hsize, hreal, rfl⟩ := launch?_eq_some_iff.1 hlaunch
  let order : Order := ⟨.excludeImports, size, root, listing.files.map FoundFile.path⟩
  have began : Session (.blank disk) (past ++ [.began order real]) ⟨now, s, some (order.flight real)⟩ :=
    h.snoc (.start hsize hreal)
  obtain ⟨-, htasks⟩ := hflies.isSupplied rfl (Flight.forall_tasks_start (fun _ => rfl) _ _ _)
  intro file hfile c hc
  obtain ⟨target, v, htask, rfl⟩ := Flight.exists_task_of_mem_landing hland hfile
  obtain ⟨-, hsupplied⟩ := htasks _ htask
  cases hsupplied with
  | lookedUp _ hbefore _ hget _ => exact (began.trans (session_of_flies hbefore)).stemsFromFile_of_get hget c hc
  | extracted hcontent _ hchunks _ =>
    obtain ⟨-, ⟨bytes, -, rfl⟩, -⟩ := content_eq_ok_iff.1 hcontent
    exact ⟨_, _, bytes, c, hchunks ▸ hc, .inl rfl⟩

/-- Whatever a session has done before and whatever the analysis of a directory finds then, all its chunks stem from
files, it has an outline in every form, and this can be printed exactly if the names of files and the documentation
that it shows can be encoded. -/
theorem outline_prints_iff {disk now : Disk} {past : List Deed} {s : Store}
    (h : Session (.blank disk) past ⟨now, s, none⟩) {exclusions : Scan.Exclusions} {size : Int} {root : Path}
    {findings : Findings} {counts : Statistics}
    (hresult : (directory now exclusions size root s).result = .ok (findings, counts)) (o : Outline) :
    (∀ file ∈ findings, ∀ c ∈ file.2, c.StemsFromFile)
      ∧ ∃ t, o.render findings = .ok t
        ∧ ((∃ bytes, Utf8.encode t = .ok bytes) ↔ ∀ file ∈ findings, o.ShowsEncodable file) := by
  have stems := h.stemsFromFile_of_directory hresult
  obtain ⟨t, ht⟩ := o.exists_render fun file hfile c hc => (stems file hfile c hc).wellTyped
  refine ⟨stems, t, ht, Utf8.exists_encode_iff.trans ?_⟩
  exact o.isEncodable_render_iff (fun file hfile c hc => (stems file hfile c hc).content) ht

/-! ### An example -/

/-- Two files: one whose name is no text, and one whose documentation names a surrogate. -/
@[irreducible] def strangeTree : Disk :=
  .directory [("t", .directory [
    (CodePoint.ofNat 0xDCE9 :: ".py", .file (("def f(): pass\n" : Text).map fun c => UInt8.ofNat c.val)),
    ("b.py", .file (("def g():\n    '\\ud800'\n" : Text).map fun c => UInt8.ofNat c.val))])]

/-- Even without documentation the outline cannot be printed, also if its chunks are those of an earlier run. -/
theorem outline_prints_iff_on_strangeTree : ∃ past s findings, ∃ counts : Statistics, ∃ t,
    Session (.blank strangeTree) past ⟨strangeTree, s, none⟩
      ∧ (directory strangeTree .standard 1 (.ofText "/t") s).result = .ok (findings, counts) ∧ counts.hits = 2
      ∧ (⟨none, true⟩ : Outline).render findings = .ok t ∧ ¬ ∃ bytes, Utf8.encode t = .ok bytes := by
  let outcome := fun s => directory strangeTree .standard 1 (.ofText "/t") s
  have one : (outcome .empty).result.toOption.any (fun _ => true) = true := by decide +kernel
  have two : (outcome (outcome .empty).store).result.toOption.any (fun r => r.2.hits == 2
      && r.1.any fun file => !file.2.isEmpty && !decide file.1.IsEncodable) = true := by decide +kernel
  obtain ⟨⟨first, firstCounts⟩, hone, -⟩ := exists_eq_ok_of_any one
  obtain ⟨⟨findings, counts⟩, htwo, hfound⟩ := exists_eq_ok_of_any two
  obtain ⟨run, hreaches⟩ := exists_reaches_of_directory hone
  obtain ⟨past, hpast⟩ := hreaches.exists_session
  obtain ⟨hhits, hany⟩ := Bool.and_eq_true_iff.1 hfound
  obtain ⟨file, hfile, hname⟩ := List.any_eq_true.1 hany
  rw [Bool.and_eq_true, Bool.not_eq_true', Bool.not_eq_true', decide_eq_false_iff_not] at hname
  obtain ⟨-, t, ht, hprints⟩ := outline_prints_iff hpast htwo ⟨none, true⟩
  refine ⟨past, _, findings, counts, t, hpast, htwo, beq_iff_eq.1 hhits, ht, fun hbytes => ?_⟩
  obtain ⟨c, hc⟩ := List.exists_mem_of_ne_nil file.2 (by simpa using hname.1)
  exact hname.2 (hprints.1 hbytes file hfile c hc rfl).1

end Analysis

end SourceAtlas
