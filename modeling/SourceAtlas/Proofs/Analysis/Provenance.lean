import SourceAtlas.Proofs.Analysis.History
import SourceAtlas.Proofs.Store.Table

/-!
Where rows come from. In every history, whatever clears and aborts are in it, each row stems from a file of its
key that was read and extracted, by whatever run and from whatever root; hence every row can be read.

Main statement: `Reaches.isBacked`.
-/

namespace SourceAtlas.Analysis

variable {policy : Policy} {read : Path → Except Disk.Failure Bytes}

/-! ## Where rows come from -/

/-- A file was read with this text and fingerprint, and extracted. -/
structure IsExtraction (events : List Event) (target : Target) (source fingerprint : Text) : Prop where
  proper : target.IsProper
  sound : target.path.isSound = true
  wasLoaded : .loaded target source fingerprint ∈ events
  wasExtracted : .extracted target source fingerprint ∈ events

/-- A row stems from an extraction. -/
def IsBacked (policy : Policy) (events : List Event) (r : Row) : Prop :=
  ∃ target source, IsExtraction events target source r.fingerprint ∧ r.key = Store.storageKey target.key
    ∧ r.payload = Payload.write (extract policy target.shown source)

/-- What is known of a file that is being handled. -/
def Task.IsBacked (events : List Event) (task : Task) : Prop :=
  match task.stage with
  | .loaded source fingerprint =>
    task.target.path.isSound = true ∧ .loaded task.target source fingerprint ∈ events
  | .missed source fingerprint _ => IsExtraction events task.target source fingerprint
  | _ => True

/-- Every row stems from an extraction, and a run under way is under the policy and has proper files whose
contents have been read as they say. -/
structure AreBacked (policy : Policy) (events : List Event) (s : Store) (f : Flight) : Prop where
  rows : ∀ r ∈ s.rows, IsBacked policy events r
  policy_eq : f.policy = policy
  proper : ∀ t ∈ f.targets, t.IsProper
  tasks : ∀ task ∈ f.tasks, task.IsBacked events

/-- A path that has been read can be that of a file. -/
theorem isSound_of_content {path : Path} {pair : Text × Text}
    (h : content read path = .ok pair) : path.isSound = true :=
  (content_eq_ok_iff.1 h).1

/-- A flight stays backed when a file goes on with what backs it. -/
theorem AreBacked.move {events : List Event} {s : Store} {f : Flight} {i : Nat} {target : Target}
    {stage other : Stage} (h : AreBacked policy events s f) (hat : f.At i target stage)
    (hnew : Task.IsBacked events ⟨target, other⟩) : AreBacked policy events s (f.move i target other) where
  rows := h.rows
  policy_eq := h.policy_eq
  proper := by rw [Flight.targets_move hat]; exact h.proper
  tasks := Flight.forall_tasks_move h.tasks hnew

/-- A step of a run keeps rows backed. -/
theorem Advance.areBacked {events : List Event} {s s' : Store}
    {f f' : Flight} {e : Event} (h : Advance read (s, f) e (s', f')) (he : e ∈ events)
    (hf : AreBacked policy events s f) : AreBacked policy events s' f' := by
  cases h with
  | load hat hcontent => exact hf.move hat ⟨isSound_of_content hcontent, he⟩
  | find hat _ => exact hf.move hat trivial
  | miss hat _ =>
    obtain ⟨hsound, hloaded⟩ := hf.tasks _ (Flight.mem_tasks_of_at hat)
    exact hf.move hat ⟨hf.proper _ (Flight.mem_targets_of_at hat), hsound, hloaded, he⟩
  | keep hat =>
    have hbacked := hf.tasks _ (Flight.mem_tasks_of_at hat)
    refine ⟨?_, hf.policy_eq, ?_, Flight.forall_tasks_move hf.tasks trivial⟩
    · intro r hr
      -- the row that is put holds what was extracted from the file; the others were there
      rcases Store.mem_rows_put hr with rfl | hr
      · exact ⟨_, _, hbacked, rfl, by rw [hf.policy_eq]⟩
      · exact hf.rows r hr
    · rw [Flight.targets_move hat]
      exact hf.proper
  | next _ _ => exact ⟨hf.rows, hf.policy_eq, hf.proper, hf.tasks⟩

/-- A run stays backed by its events. -/
theorem Flies.areBacked {run events : List Event}
    {x y : Store × Flight} (h : Flies read x run y) (hall : run ⊆ events)
    (hx : AreBacked policy events x.1 x.2) : AreBacked policy events y.1 y.2 := by
  induction h with
  | refl => exact hx
  | snoc _ last ih =>
    exact last.areBacked (hall (by simp)) (ih (List.append_subset.1 hall).1)

/-- A run that is launched is backed by what has been before. -/
theorem areBacked_launch {disk : Disk} (hdisk : disk.isWellFormed = true) {exclusions : Scan.Exclusions}
    {size : Int} {root : Text} {start : Flight}
    (h : launch? policy disk exclusions size (.ofText root) = some start) {events : List Event} {s : Store}
    (hrows : ∀ r ∈ s.rows, IsBacked policy events r) : AreBacked policy events s start := by
  obtain ⟨hpolicy, hwaiting, hproper, -, -⟩ := launch?_spec hdisk h
  refine ⟨hrows, hpolicy, hproper, fun task htask => ?_⟩
  rw [Task.IsBacked, hwaiting task htask]
  trivial

/-- All rows at a moment are backed, and so is the run under way if there is one. -/
def Moment.IsBacked (policy : Policy) (events : List Event) (m : Moment) : Prop :=
  (∀ r ∈ m.store.rows, Analysis.IsBacked policy events r)
    ∧ ∀ f, m.flight = some f → AreBacked policy events m.store f

/-- A step of a history keeps rows backed. -/
theorem Step.isBacked {events : List Event} {m y : Moment} {e : Event} (h : Step policy m e y) (he : e ∈ events)
    (hdisk : m.disk.isWellFormed = true) (hm : m.IsBacked policy events) : y.IsBacked policy events := by
  cases h with
  | edit _ => exact hm
  | clear => exact ⟨(fun r hr => nomatch hr), fun f hf => nomatch hf⟩
  | clearUnder _ => exact ⟨fun r hr => hm.1 r (Store.mem_rows_clearUnder hr), fun f hf => nomatch hf⟩
  | launch hlaunch =>
    refine ⟨hm.1, fun f hf => ?_⟩
    rw [← Option.some.inj hf]
    exact areBacked_launch hdisk hlaunch hm.1
  | advance hadvance =>
    have after := hadvance.areBacked he (hm.2 _ rfl)
    exact ⟨after.rows, fun f hf => Option.some.inj hf ▸ after⟩
  | land _ => exact ⟨hm.1, fun f hf => nomatch hf⟩
  | abort => exact ⟨hm.1, fun f hf => nomatch hf⟩

/-- In every history all rows are backed. -/
theorem Reaches.isBacked {events all : List Event} {disk : Disk} {m : Moment}
    (h : Reaches policy (.blank disk) events m) (hdisk : disk.isWellFormed = true) (hall : events ⊆ all) :
    m.IsBacked policy all := by
  induction h with
  | refl => exact ⟨(fun r hr => nomatch hr), fun f hf => nomatch hf⟩
  | snoc before last ih =>
    exact last.isBacked (hall (by simp)) (before.isWellFormed hdisk) (ih (List.append_subset.1 hall).1)

/-! ## Answers -/

/-- A row that stems from an extraction can be read. -/
theorem IsBacked.exists_read {events : List Event} {r : Row} (h : IsBacked policy events r) :
    ∃ chunks, Payload.read r.payload = .ok chunks := by
  obtain ⟨target, source, -, -, hpayload⟩ := h
  rw [hpayload]
  exact ⟨_, Payload.read_write fun c hc => wellTyped_of_mem_extract hc⟩

/-- A file is answered from the store under its fingerprint. -/
theorem fingerprint?_of_hit {s : Store} {path fingerprint : Text} {chunks : List Chunk} {answer : Answer}
    (h : answerTo fingerprint (s.get path) = (some chunks, answer)) :
    s.fingerprint? path = some fingerprint := by
  obtain ⟨payload, hrow, -⟩ := Store.get_eq_entry_iff.1 (answerTo_eq_some h).1
  rw [Store.fingerprint?, hrow]
  rfl

/-- A file is not answered from the store only if another fingerprint or none is stored, since every row can
be read. -/
theorem fingerprint?_of_miss {events : List Event} {s : Store} (hrows : ∀ r ∈ s.rows, IsBacked policy events r)
    {path fingerprint : Text} {answer : Answer} (h : answerTo fingerprint (s.get path) = (none, answer)) :
    s.fingerprint? path ≠ some fingerprint := by
  intro same
  obtain ⟨r, hrow, rfl⟩ := Option.map_eq_some_iff.1 same
  obtain ⟨hmem, hkey⟩ := Store.mem_of_row?_eq_some hrow
  obtain ⟨chunks, hread⟩ := (hrows r hmem).exists_read
  exact (answerTo_eq_none h).1 chunks (Store.get_eq_entry_iff.2 ⟨r.payload, by rw [hrow, ← hkey], hread⟩)

/-- What the row of a file is read back as. -/
theorem exists_author_of_get {events : List Event} {s : Store}
    (hrows : ∀ r ∈ s.rows, IsBacked policy events r) {path fingerprint : Text} {chunks : List Chunk}
    (h : s.get path = .entry fingerprint chunks) :
    ∃ author source, IsExtraction events author source fingerprint
      ∧ Store.storageKey author.key = Store.storageKey path
      ∧ chunks = (extract policy author.shown source).map Chunk.joined := by
  obtain ⟨payload, hrow, hread⟩ := Store.get_eq_entry_iff.1 h
  obtain ⟨author, source, hextraction, hkey, hpayload⟩ := hrows _ (Store.mem_of_row?_eq_some hrow).1
  dsimp only at hkey hpayload
  rw [hpayload, Payload.read_write fun c hc => wellTyped_of_mem_extract hc] at hread
  exact ⟨author, source, hextraction, hkey.symm, (Except.ok.inj hread).symm⟩

end SourceAtlas.Analysis
