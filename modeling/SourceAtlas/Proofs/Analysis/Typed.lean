import SourceAtlas.Proofs.Analysis.Inclusion
import SourceAtlas.Proofs.Payload.Shape

/-!
Runs over stores of well-typed chunks. The extractor makes well-typed chunks only, and stored ones are well typed
when they are read back. So if all that can be read from a store is well typed, a run leaves it so and finds nothing
else.

Main statement: `wellTyped_of_directory`.
-/

namespace SourceAtlas

/-! ## Stores -/

/-- The chunks that can be read from a store are well typed. -/
def Store.HoldsTyped (s : Store) : Prop :=
  ∀ r ∈ s.rows, ∀ chunks, Payload.read r.payload = .ok chunks → ∀ c ∈ chunks, c.WellTyped

namespace Store.HoldsTyped

variable {s : Store}

/-- What is found in such a store is well typed. -/
theorem of_get (h : s.HoldsTyped) {path fingerprint : Text} {chunks : List Chunk}
    (hget : s.get path = .entry fingerprint chunks) : ∀ c ∈ chunks, c.WellTyped := by
  obtain ⟨payload, hrow, hread⟩ := get_eq_entry_iff.1 hget
  exact h _ (mem_of_row?_eq_some hrow).1 chunks hread

/-- A store stays so with well-typed chunks put in it. -/
theorem put (h : s.HoldsTyped) (path fingerprint : Text) {chunks : List Chunk} (hchunks : ∀ c ∈ chunks, c.WellTyped) :
    (s.put path fingerprint chunks).HoldsTyped := by
  intro r hr others hread
  rcases mem_rows_put hr with rfl | hr
  -- what was put is read back with its pairs of surrogates joined
  · rw [Payload.read_write hchunks] at hread
    obtain rfl := Except.ok.inj hread
    intro c hc
    obtain ⟨d, hd, rfl⟩ := List.mem_map.1 hc
    exact (hchunks d hd).joined
  · exact h r hr others hread

/-- It stays so when a directory is cleared. -/
theorem clearUnder (h : s.HoldsTyped) (directory : Text) : (s.clearUnder directory).1.HoldsTyped :=
  fun r hr => h r (mem_rows_clearUnder hr)

end Store.HoldsTyped

namespace Analysis

variable {read : Path → Except Disk.Failure Bytes}

/-! ## Runs -/

/-- The chunks of a file are well typed once it has been handled. -/
def Task.IsTyped (task : Task) : Prop := ∀ v, task.stage = .finished v → ∀ c ∈ v.chunks, c.WellTyped

/-- Each step of a run keeps the store and its tasks well typed. -/
theorem Advance.isTyped {s s' : Store} {f f' : Flight} {e : Event} (h : Advance read (s, f) e (s', f'))
    (hs : s.HoldsTyped) (hf : ∀ task ∈ f.tasks, task.IsTyped) :
    s'.HoldsTyped ∧ ∀ task ∈ f'.tasks, task.IsTyped := by
  cases h with
  | load hat _ => exact ⟨hs, Flight.forall_tasks_move hf fun v hv => nomatch hv⟩
  | find hat hanswer =>
    refine ⟨hs, Flight.forall_tasks_move hf fun v hv => ?_⟩
    obtain rfl := Stage.finished.inj hv
    exact hs.of_get (answerTo_eq_some hanswer).1
  | miss hat _ => exact ⟨hs, Flight.forall_tasks_move hf fun v hv => nomatch hv⟩
  | keep hat =>
    refine ⟨hs.put _ _ fun _ => wellTyped_of_mem_extract, Flight.forall_tasks_move hf fun v hv => ?_⟩
    obtain rfl := Stage.finished.inj hv
    exact fun _ => wellTyped_of_mem_extract
  | next _ _ => exact ⟨hs, hf⟩

/-- So does a run. -/
theorem Flies.isTyped {x y : Store × Flight} {events : List Event} (h : Flies read x events y)
    (hs : x.1.HoldsTyped) (hf : ∀ task ∈ x.2.tasks, task.IsTyped) :
    y.1.HoldsTyped ∧ ∀ task ∈ y.2.tasks, task.IsTyped := by
  induction h with
  | refl => exact ⟨hs, hf⟩
  | snoc _ last ih => exact last.isTyped ih.1 ih.2

/-- The analysis of a directory finds well-typed chunks and leaves no others in a store that held no others. -/
theorem wellTyped_of_directory {disk : Disk} {exclusions : Scan.Exclusions} {size : Int} {root : Path} {s : Store}
    (hs : s.HoldsTyped) {findings : Findings} {counts : Statistics}
    (hresult : (directory disk exclusions size root s).result = .ok (findings, counts)) :
    (directory disk exclusions size root s).store.HoldsTyped ∧ ∀ file ∈ findings, ∀ c ∈ file.2, c.WellTyped := by
  obtain ⟨start, events, f, hlaunch, hflies, hland⟩ := exists_flies_of_directory hresult
  obtain ⟨listing, real, -, -, -, rfl⟩ := launch?_eq_some_iff.1 hlaunch
  obtain ⟨hstore, htasks⟩ := hflies.isTyped hs
    (Flight.forall_tasks_start (fun _ => show Task.IsTyped _ from fun v hv => nomatch hv) _ _ _)
  refine ⟨hstore, fun file hfile => ?_⟩
  obtain ⟨target, v, htask, rfl⟩ := Flight.exists_task_of_mem_landing hland hfile
  exact htasks _ htask v rfl

end Analysis

end SourceAtlas
