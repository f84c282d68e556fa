import SourceAtlas.Proofs.Analysis.Log
import SourceAtlas.Proofs.Analysis.Transparency

/-!
Runs that are repeated. A run on an empty store is followed by another over the same files. This extracts
nothing and finds the same exactly if files that share a stored key have the same fingerprint, files that share
one and were both extracted came to the same chunks, and no string in a chunk holds a pair of surrogates, which
would be joined when it is read back.

Main statements: `find?_of_landing`, `rerun_eq_iff`.
-/

namespace SourceAtlas.Analysis

variable {read : Path → Except Disk.Failure Bytes}

/-! ## What is collected -/

/-- To collect one file changes nothing of the others. -/
theorem find?_collectOne_of_ne {v : Visit} {shown : Text} (h : v.shown ≠ shown) (findings : Findings) :
    Association.find? shown (collectOne findings v) = Association.find? shown findings := by
  unfold collectOne
  split
  · rfl
  · exact Association.find?_set_of_ne h.symm _ _

/-- What is found for a path changes only with files that are shown by it. -/
theorem find?_foldl_of_not_mem {visits : List Visit} {shown : Text} (h : shown ∉ visits.map Visit.shown)
    (findings : Findings) :
    Association.find? shown (visits.foldl collectOne findings) = Association.find? shown findings := by
  induction visits generalizing findings with
  | nil => rfl
  | cons v rest ih =>
    rw [List.map_cons, List.mem_cons, not_or] at h
    rw [List.foldl_cons, ih h.2, find?_collectOne_of_ne (Ne.symm h.1)]

/-- The chunks of a file are found in what is collected, if no other file is seen by its path. -/
theorem find?_foldl_of_mem {visits : List Visit} (hdistinct : (visits.map Visit.shown).Nodup) {v : Visit}
    (hv : v ∈ visits) {findings : Findings} (hnone : Association.find? v.shown findings = none) :
    (Association.find? v.shown (visits.foldl collectOne findings)).getD [] = v.chunks := by
  induction visits generalizing findings with
  | nil => cases hv
  | cons w rest ih =>
    rw [List.map_cons, List.nodup_cons] at hdistinct
    rw [List.foldl_cons]
    rcases List.mem_cons.1 hv with rfl | hv
    · rw [find?_foldl_of_not_mem hdistinct.1, collectOne]
      split
      · next hempty => rw [hnone, List.isEmpty_iff.1 hempty, Option.getD_none]
      · rw [Association.find?_set_self, Option.getD_some]
    · have hne : w.shown ≠ v.shown := fun heq => hdistinct.1 (heq ▸ List.mem_map_of_mem hv)
      exact ih hdistinct.2 hv ((find?_collectOne_of_ne hne findings).trans hnone)

/-- A run that has landed found for each of its files the chunks of its visit. -/
theorem find?_of_landing {policy : Policy} {run : List Event} {f : Flight} (hlogs : Logs policy run f)
    (hdistinct : (f.targets.map fun t => t.shown.toText).Nodup) {findings : Findings} {counts : Statistics}
    (hland : f.landing? = some (findings, counts)) {target : Target} {v : Visit}
    (htask : ⟨target, .finished v⟩ ∈ f.tasks) :
    (Association.find? target.shown.toText findings).getD [] = v.chunks := by
  obtain ⟨visits, hvisits, rfl, -⟩ := Flight.exists_visits_of_landing hland
  have shown : f.tasks.map (fun task => task.target.shown.toText) = visits.map Visit.shown := by
    rw [← List.forall₂_eq_eq_eq, List.forall₂_map_left_iff, List.forall₂_map_right_iff]
    refine ((List.forall₂_and_left _ _).2 ⟨hlogs.tasks, hvisits⟩).imp ?_
    rintro ⟨t, stage⟩ w ⟨hlogged, rfl⟩
    exact hlogged.1.symm
  have answered : f.tasks.map Task.visit? = visits.map some := by
    rw [← List.forall₂_eq_eq_eq, List.forall₂_map_left_iff, List.forall₂_map_right_iff]
    refine hvisits.imp fun task w hw => ?_
    rw [Task.visit?, hw]
  have hv : some v ∈ visits.map some := answered ▸ List.mem_map.2 ⟨_, htask, rfl⟩
  obtain ⟨w, hw, heq⟩ := List.mem_map.1 hv
  obtain rfl := Option.some.inj heq
  have hshown : w.shown = target.shown.toText := (hlogs.tasks _ htask).1
  rw [Flight.targets, List.map_map] at hdistinct
  rw [← hshown]
  exact find?_foldl_of_mem (shown ▸ hdistinct) hw rfl

/-! ## Runs without extractions -/

section

variable {s s' : Store} {f f' : Flight}

/-- What is known of a file in a run that extracts nothing: once handled, it was found in the store. -/
def Task.IsFound (read : Path → Except Disk.Failure Bytes) (s : Store) (task : Task) : Prop :=
  match task.stage with
  | .waiting => True
  | .loaded source fingerprint => content read task.target.path = .ok (source, fingerprint)
  | .missed _ _ _ => False
  | .finished v => ∃ source fingerprint, content read task.target.path = .ok (source, fingerprint)
    ∧ s.get task.target.key = .entry fingerprint v.chunks

/-- Without an extraction nothing is put, and all tasks are answered from the store as it is. -/
theorem Advance.isFound {e : Event} (h : Advance read (s, f) e (s', f')) (he : e.isExtraction = false)
    (hf : ∀ task ∈ f.tasks, task.IsFound read s) : s' = s ∧ ∀ task ∈ f'.tasks, task.IsFound read s := by
  cases h with
  | load hat hcontent => exact ⟨rfl, Flight.forall_tasks_move hf hcontent⟩
  | find hat hanswer =>
    have hcontent := hf _ (Flight.mem_tasks_of_at hat)
    exact ⟨rfl, Flight.forall_tasks_move hf ⟨_, _, hcontent, (answerTo_eq_some hanswer).1⟩⟩
  | miss hat _ => cases he
  | keep hat => exact (hf _ (Flight.mem_tasks_of_at hat)).elim
  | next _ _ => exact ⟨rfl, hf⟩

/-- A run that extracts nothing leaves the store as it is and finds all its files there. -/
theorem Flies.isFound {run : List Event} {x y : Store × Flight} (h : Flies read x run y)
    (hrun : ∀ e ∈ run, e.isExtraction = false) (hx : ∀ task ∈ x.2.tasks, task.stage = .waiting) :
    y.1 = x.1 ∧ ∀ task ∈ y.2.tasks, task.IsFound read x.1 := by
  induction h with
  | refl =>
    refine ⟨rfl, fun task htask => ?_⟩
    rw [Task.IsFound, hx task htask]
    trivial
  | snoc _ last ih =>
    rw [List.forall_mem_append] at hrun
    obtain ⟨hstore, hfound⟩ := ih hrun.1
    obtain ⟨hsame, hafter⟩ := last.isFound (hrun.2 _ (List.mem_singleton_self _)) (hstore.symm ▸ hfound)
    rw [hstore] at hsame hafter
    exact ⟨hsame, hafter⟩

/-- A run extracts nothing if the store answers for each of its files. -/
theorem Flies.isExtraction_eq_false {run : List Event} {x y : Store × Flight} (h : Flies read x run y)
    (hx : ∀ task ∈ x.2.tasks, task.stage = .waiting)
    (hanswers : ∀ t ∈ x.2.targets, ∀ source fingerprint, content read t.path = .ok (source, fingerprint) →
      ∃ chunks, x.1.get t.key = .entry fingerprint chunks) : ∀ e ∈ run, e.isExtraction = false := by
  induction h with
  | refl => exact fun e he => nomatch he
  | snoc before last ih =>
    obtain ⟨hstore, hfound⟩ := before.isFound ih hx
    have htargets := (before.isCurrent hx).1
    rw [List.forall_mem_append]
    refine ⟨ih, fun e he => ?_⟩
    rw [List.mem_singleton.1 he]
    cases last with
    | miss hat hanswer =>
      -- up to here the run has left the store as it was, so that the answer is still there
      obtain ⟨chunks, hget⟩ := hanswers _ (htargets ▸ Flight.mem_targets_of_at hat) _ _
        (hfound _ (Flight.mem_tasks_of_at hat))
      dsimp only at hstore
      exact absurd (hstore ▸ hget) ((answerTo_eq_none hanswer).1 chunks)
    | _ => rfl

end

/-! ## Where what is found comes from -/

/-- What a handled file was answered with, if it was found, stems from an extraction of the run. The key of the
file has a row. -/
def Task.IsAuthored (policy : Policy) (run : List Event) (s : Store) (task : Task) : Prop :=
  match task.stage with
  | .finished v => (s.row? (Store.storageKey task.target.key)).isSome = true
    ∧ (v.answer = .hit → ∃ author source fingerprint, .extracted author source fingerprint ∈ run
      ∧ Store.storageKey author.key = Store.storageKey task.target.key
      ∧ v.chunks = (extract policy author.shown source).map Chunk.joined)
  | .missed _ _ answer => answer ≠ .hit
  | _ => True

/-- A task stays authored when more rows are there. -/
theorem Task.IsAuthored.mono {policy : Policy} {run : List Event} {s s' : Store} {task : Task}
    (h : task.IsAuthored policy run s)
    (hrows : ∀ key, (s.row? key).isSome = true → (s'.row? key).isSome = true) :
    task.IsAuthored policy run s' := by
  obtain ⟨target, stage⟩ := task
  cases stage with
  | finished v => exact ⟨hrows _ h.1, h.2⟩
  | missed source fingerprint answer => exact h
  | _ => trivial

/-- A step of a run keeps its tasks authored. -/
theorem Advance.isAuthored {policy : Policy} {run : List Event}
    {s s' : Store} {f f' : Flight} {e : Event} (h : Advance read (s, f) e (s', f'))
    (hrows : ∀ r ∈ s.rows, IsBacked policy run r) (hf : ∀ task ∈ f.tasks, task.IsAuthored policy run s) :
    ∀ task ∈ f'.tasks, task.IsAuthored policy run s' := by
  cases h with
  | load hat _ => exact Flight.forall_tasks_move hf trivial
  | find hat hanswer =>
    have hget := (answerTo_eq_some hanswer).1
    obtain ⟨payload, hrow, -⟩ := Store.get_eq_entry_iff.1 hget
    obtain ⟨author, source, hextraction, hkey, hchunks⟩ := exists_author_of_get hrows hget
    exact Flight.forall_tasks_move hf ⟨by rw [hrow]; rfl,
      fun _ => ⟨author, source, _, hextraction.wasExtracted, hkey, hchunks⟩⟩
  | miss hat hanswer => exact Flight.forall_tasks_move hf (answerTo_eq_none hanswer).2
  | keep hat =>
    have hanswer := hf _ (Flight.mem_tasks_of_at hat)
    refine Flight.forall_tasks_move (fun task htask => (hf task htask).mono fun key hkey => ?_)
      ⟨?_, fun hhit => absurd hhit hanswer⟩
    · exact Store.isSome_row?_put hkey _ _ _
    · rw [Store.row?_put_self]
      rfl
  | next _ _ => exact hf

/-- In a run that starts from rows of its own, what was found stems from extractions of the run. -/
theorem Flies.isAuthored {policy : Policy} {run events : List Event}
    {x y : Store × Flight} (h : Flies read x run y) (hall : run ⊆ events)
    (hx : AreBacked policy events x.1 x.2) (hwaiting : ∀ task ∈ x.2.tasks, task.stage = .waiting) :
    ∀ task ∈ y.2.tasks, task.IsAuthored policy events y.1 := by
  induction h with
  | refl =>
    intro task htask
    rw [Task.IsAuthored, hwaiting task htask]
    trivial
  | snoc before last ih =>
    have hbefore := (List.append_subset.1 hall).1
    exact last.isAuthored (before.areBacked hbefore hx).rows (ih hbefore)

/-! ## Runs on an empty store -/

/-- Files that were read and share a stored key have the same fingerprint. -/
def PrintsAgree (events : List Event) : Prop :=
  ∀ a source fingerprint b other print, .loaded a source fingerprint ∈ events →
    .loaded b other print ∈ events → Store.storageKey a.key = Store.storageKey b.key → fingerprint = print

/-- From files that were extracted and share a stored key the same was extracted. -/
def ChunksAgree (events : List Event) : Prop :=
  ∀ a source fingerprint b other print, .extracted a source fingerprint ∈ events →
    .extracted b other print ∈ events → Store.storageKey a.key = Store.storageKey b.key →
    extract .excludeImports a.shown source = extract .excludeImports b.shown other

/-- A run on an empty store, over files that did not change, has landed. -/
structure IsComplete (read : Path → Except Disk.Failure Bytes) (run : List Event) (s : Store) (f : Flight) :
    Prop where
  logs : Logs .excludeImports run f
  rows : ∀ r ∈ s.rows, IsBacked .excludeImports run r
  authored : ∀ task ∈ f.tasks, task.IsAuthored .excludeImports run s
  current : ∀ e ∈ run, e.IsCurrent read f.targets
  handled : ∀ t ∈ f.targets, ∃ v, ⟨t, .finished v⟩ ∈ f.tasks

/-- The store answers for a file as it was shown. -/
def AnswersAsShown (read : Path → Except Disk.Failure Bytes) (s : Store) (f : Flight) : Prop :=
  ∀ target v, ⟨target, .finished v⟩ ∈ f.tasks → ∃ source fingerprint,
    content read target.path = .ok (source, fingerprint) ∧ s.get target.key = .entry fingerprint v.chunks

namespace IsComplete

variable {run : List Event} {s : Store} {f : Flight}

/-- The store answers for each file with what was extracted from one of its key. -/
theorem exists_author (h : IsComplete read run s f) {target : Target} (ht : target ∈ f.targets) :
    ∃ author source fingerprint, IsExtraction run author source fingerprint
      ∧ Store.storageKey author.key = Store.storageKey target.key ∧ s.get target.key
        = .entry fingerprint ((extract .excludeImports author.shown source).map Chunk.joined) := by
  obtain ⟨v, htask⟩ := h.handled target ht
  obtain ⟨r, hrow⟩ := Option.isSome_iff_exists.1 (h.authored _ htask).1
  obtain ⟨hmem, hkey⟩ := Store.mem_of_row?_eq_some hrow
  obtain ⟨author, source, hextraction, hauthor, hpayload⟩ := h.rows r hmem
  refine ⟨author, source, r.fingerprint, hextraction, hauthor.symm.trans hkey, ?_⟩
  refine Store.get_eq_entry_iff.2 ⟨r.payload, by rw [hrow, ← hkey], ?_⟩
  rw [hpayload, Payload.read_write fun c hc => wellTyped_of_mem_extract hc]

/-- The visit of a file shows what was extracted from it, or from another of its key if it was found. -/
theorem chunks_of_visit (h : IsComplete read run s f) {target : Target} {v : Visit}
    (htask : ⟨target, .finished v⟩ ∈ f.tasks) :
    (∃ source fingerprint, .extracted target source fingerprint ∈ run
        ∧ v.chunks = extract .excludeImports target.shown source)
      ∨ ¬ Extracts run target ∧ ∃ author source fingerprint, .extracted author source fingerprint ∈ run
        ∧ Store.storageKey author.key = Store.storageKey target.key
        ∧ v.chunks = (extract .excludeImports author.shown source).map Chunk.joined := by
  cases (h.logs.tasks _ htask).2 with
  | found source fingerprint hevents hanswer =>
    have hnot : ¬ Extracts run target :=
      not_extracts_of_eventsOf hevents (by simp [Event.isExtraction])
    exact .inr ⟨hnot, (h.authored _ htask).2 hanswer⟩
  | stored source fingerprint hevents _ hchunks =>
    exact .inl ⟨source, fingerprint, extracted_mem_of_eventsOf hevents, hchunks⟩

/-- The visit of a file that was extracted shows what was extracted. -/
theorem chunks_of_extracted (h : IsComplete read run s f) {target : Target} {source fingerprint : Text}
    (hextracted : .extracted target source fingerprint ∈ run) {v : Visit}
    (htask : ⟨target, .finished v⟩ ∈ f.tasks) : v.chunks = extract .excludeImports target.shown source := by
  rcases h.chunks_of_visit htask with ⟨text, print, hmem, hchunks⟩ | ⟨hnot, -⟩
  · have hcontent := (h.current _ hextracted).2
    rw [(h.current _ hmem).2] at hcontent
    obtain ⟨rfl, -⟩ := Prod.mk.inj (Except.ok.inj hcontent)
    exact hchunks
  · exact absurd ⟨source, fingerprint, hextracted⟩ hnot

/-- A file that was handled was read. -/
theorem exists_loaded (h : IsComplete read run s f) {target : Target} (ht : target ∈ f.targets) :
    ∃ source fingerprint, .loaded target source fingerprint ∈ run
      ∧ content read target.path = .ok (source, fingerprint) := by
  obtain ⟨v, htask⟩ := h.handled target ht
  have read : ∃ source fingerprint, .loaded target source fingerprint ∈ run := by
    cases (h.logs.tasks _ htask).2 with
    | found source fingerprint hevents =>
      exact ⟨source, fingerprint, loaded_mem_of_eventsOf hevents⟩
    | stored source fingerprint hevents =>
      exact ⟨source, fingerprint, loaded_mem_of_eventsOf hevents⟩
  obtain ⟨source, fingerprint, hloaded⟩ := read
  exact ⟨source, fingerprint, hloaded, (h.current _ hloaded).2⟩

/-- If the store answers as was shown, then it answers for each key with all that was extracted for it. -/
theorem get_of_extracted (h : IsComplete read run s f) (hanswers : AnswersAsShown read s f) {target : Target}
    {source fingerprint : Text} (hextracted : .extracted target source fingerprint ∈ run) :
    s.get target.key = .entry fingerprint (extract .excludeImports target.shown source) := by
  obtain ⟨ht, hcontent⟩ := h.current _ hextracted
  obtain ⟨v, htask⟩ := h.handled target ht
  obtain ⟨text, print, hother, hget⟩ := hanswers target v htask
  rw [hcontent] at hother
  obtain ⟨-, rfl⟩ := Prod.mk.inj (Except.ok.inj hother)
  rw [hget, h.chunks_of_extracted hextracted htask]

/-- If every file is answered as it was shown, files that share a key agree, and what was extracted holds no pair. -/
theorem agree_of_answers (h : IsComplete read run s f) (hanswers : AnswersAsShown read s f) :
    PrintsAgree run ∧ ChunksAgree run ∧ ExtractsPairFree run := by
  refine ⟨?_, ?_, ?_⟩
  · intro a source fingerprint b other print ha hb hkey
    obtain ⟨hat, hacontent⟩ := h.current _ ha
    obtain ⟨hbt, hbcontent⟩ := h.current _ hb
    obtain ⟨v, hv⟩ := h.handled a hat
    obtain ⟨w, hw⟩ := h.handled b hbt
    obtain ⟨_, _, hasame, haget⟩ := hanswers a v hv
    obtain ⟨_, _, hbsame, hbget⟩ := hanswers b w hw
    rw [hacontent] at hasame
    rw [hbcontent] at hbsame
    obtain ⟨-, rfl⟩ := Prod.mk.inj (Except.ok.inj hasame)
    obtain ⟨-, rfl⟩ := Prod.mk.inj (Except.ok.inj hbsame)
    rw [Store.get_congr hkey, hbget] at haget
    injection haget with hsame _
    exact hsame.symm
  · intro a source fingerprint b other print ha hb hkey
    have haget := h.get_of_extracted hanswers ha
    rw [Store.get_congr hkey, h.get_of_extracted hanswers hb] at haget
    injection haget with _ hsame
    exact hsame.symm
  · intro target source fingerprint hextracted
    have hget := h.get_of_extracted hanswers hextracted
    obtain ⟨author, text, print, hextraction, hkey, hstored⟩ :=
      h.exists_author (h.current _ hextracted).1
    have hauthor := h.get_of_extracted hanswers hextraction.wasExtracted
    -- the row was written by a file from which the same was extracted, and is read back as that
    rw [Store.get_congr hkey, hget] at hauthor
    rw [hget] at hstored
    injection hauthor with _ hsame
    injection hstored with _ hjoined
    rw [← hsame] at hjoined
    exact (Payload.map_joined_eq_self_iff fun c hc => wellTyped_of_mem_extract hc).1 hjoined.symm

/-- The other way round, every file is then answered as it was shown. -/
theorem answers_of_agree (h : IsComplete read run s f) (hprints : PrintsAgree run) (hchunks : ChunksAgree run)
    (hpairs : ExtractsPairFree run) : AnswersAsShown read s f := by
  intro target v htask
  have ht : target ∈ f.targets := List.mem_map.2 ⟨_, htask, rfl⟩
  obtain ⟨source, fingerprint, hloaded, hcontent⟩ := h.exists_loaded ht
  obtain ⟨author, text, print, hextraction, hkey, hget⟩ := h.exists_author ht
  have unchanged : ∀ {a : Target} {t p : Text}, .extracted a t p ∈ run →
      (extract .excludeImports a.shown t).map Chunk.joined = extract .excludeImports a.shown t :=
    fun ha => (Payload.map_joined_eq_self_iff fun c hc => wellTyped_of_mem_extract hc).2 (hpairs _ _ _ ha)
  refine ⟨source, fingerprint, hcontent, ?_⟩
  rw [hget, unchanged hextraction.wasExtracted, hprints _ _ _ _ _ _ hextraction.wasLoaded hloaded hkey]
  congr 1
  rcases h.chunks_of_visit htask with ⟨t, p, hextracted, hv⟩ | ⟨-, other, t, p, hextracted, hother, hv⟩
  · rw [hv]
    exact hchunks _ _ _ _ _ _ hextraction.wasExtracted hextracted hkey
  · rw [hv, unchanged hextracted]
    exact hchunks _ _ _ _ _ _ hextraction.wasExtracted hextracted (hkey.trans hother.symm)

end IsComplete

/-- A run that has landed is complete. -/
theorem isComplete_of_landing {disk : Disk} (hdisk : disk.isWellFormed = true) {exclusions : Scan.Exclusions}
    {size : Int} {root : Text} {start : Flight}
    (hlaunch : launch? .excludeImports disk exclusions size (.ofText root) = some start) {run : List Event}
    {s : Store} {f : Flight} (h : Flies (Disk.read disk) (.empty, start) run (s, f))
    {result : Findings × Statistics} (hland : f.landing? = some result) :
    IsComplete (Disk.read disk) run s f := by
  have hwaiting := (launch?_spec hdisk hlaunch).2.1
  have hstart : AreBacked .excludeImports run .empty start :=
    areBacked_launch hdisk hlaunch fun r hr => nomatch hr
  obtain ⟨htargets, -, hcurrent⟩ := h.isCurrent hwaiting
  refine ⟨h.logs (logs_launch hdisk hlaunch), (h.areBacked (List.Subset.refl run) hstart).rows,
    h.isAuthored (List.Subset.refl run) hstart hwaiting, htargets ▸ hcurrent, fun t ht => ?_⟩
  exact Flight.exists_visit_of_landing hland ht

/-! ## Runs that are repeated -/

section

variable {first second : List Event} {s s' : Store} {start f f' : Flight} {findings findings' : Findings}
  {counts counts' : Statistics}

/-- A run that makes no call and finds what the run before it found was answered for each file as it was
shown. -/
theorem answers_of_rerun (hcomplete : IsComplete read first s f) (htargets : f.targets = start.targets)
    (hwaiting : ∀ task ∈ start.tasks, task.stage = .waiting)
    (hshown : (start.targets.map fun t => t.shown.toText).Nodup)
    (hsecond : Flies read (s, start) second (s', f')) (hlogs : Logs .excludeImports second f')
    (hland : f.landing? = some (findings, counts)) (hland' : f'.landing? = some (findings, counts'))
    (hnone : ∀ e ∈ second, e.isExtraction = false) : AnswersAsShown read s f := by
  have htargets' : f'.targets = start.targets := (hsecond.isCurrent hwaiting).1
  intro target v htask
  have ht : target ∈ f'.targets := htargets' ▸ htargets ▸ List.mem_map.2 ⟨_, htask, rfl⟩
  obtain ⟨w, htask'⟩ := Flight.exists_visit_of_landing hland' ht
  obtain ⟨source, fingerprint, hcontent, hget⟩ := (hsecond.isFound hnone hwaiting).2 _ htask'
  have same : v.chunks = w.chunks := by
    rw [← find?_of_landing hcomplete.logs (htargets ▸ hshown) hland htask,
      ← find?_of_landing hlogs (htargets' ▸ hshown) hland' htask']
  exact ⟨source, fingerprint, hcontent, same ▸ hget⟩

/-- A run makes no call if the store answers for each file as it was shown. -/
theorem isExtraction_eq_false_of_answers (hcomplete : IsComplete read first s f)
    (htargets : f.targets = start.targets) (hwaiting : ∀ task ∈ start.tasks, task.stage = .waiting)
    (hsecond : Flies read (s, start) second (s', f')) (hanswers : AnswersAsShown read s f) :
    ∀ e ∈ second, e.isExtraction = false := by
  refine hsecond.isExtraction_eq_false hwaiting fun target ht source fingerprint hcontent => ?_
  obtain ⟨v, htask⟩ := hcomplete.handled target (htargets ▸ ht)
  obtain ⟨text, print, hsame, hget⟩ := hanswers target v htask
  rw [hcontent] at hsame
  obtain ⟨-, rfl⟩ := Prod.mk.inj (Except.ok.inj hsame)
  exact ⟨v.chunks, hget⟩

/-- A run that makes no call finds what the run before it found if the store answers for each file as it was
shown. -/
theorem findings_eq_of_answers (hcomplete : IsComplete read first s f) (htargets : f.targets = start.targets)
    (hwaiting : ∀ task ∈ start.tasks, task.stage = .waiting)
    (hsecond : Flies read (s, start) second (s', f')) (hlogs : Logs .excludeImports second f')
    (hland : f.landing? = some (findings, counts)) (hland' : f'.landing? = some (findings', counts'))
    (hnone : ∀ e ∈ second, e.isExtraction = false) (hanswers : AnswersAsShown read s f) :
    findings' = findings := by
  have hfound := (hsecond.isFound hnone hwaiting).2
  obtain ⟨visits, hvisits, rfl, -⟩ := Flight.exists_visits_of_landing hland
  obtain ⟨visits', hvisits', rfl, -⟩ := Flight.exists_visits_of_landing hland'
  have those := Flight.forall₂_targets hvisits
  have these := Flight.forall₂_targets hvisits'
  rw [htargets] at those
  rw [(hsecond.isCurrent hwaiting).1] at these
  refine foldl_collectOne_congr (fun target w v hw hv => ⟨?_, ?_⟩) these those []
  · rw [(hlogs.tasks _ hw).1, (hcomplete.logs.tasks _ hv).1]
  · obtain ⟨source, fingerprint, hcontent, hget⟩ := hanswers target v hv
    obtain ⟨text, print, hsame, hget'⟩ := hfound _ hw
    rw [hget] at hget'
    injection hget' with _ hchunks'
    exact hchunks'.symm

end

/-- A run on an empty store is repeated over the same files. The second run finds what the first found and
extracts nothing exactly if files that share a stored key have the same fingerprint, the same was extracted
from those of them that were extracted, and no string in a chunk that was extracted has a high surrogate
directly before a low one. -/
theorem rerun_eq_iff {disk : Disk} (hdisk : disk.isWellFormed = true) {exclusions : Scan.Exclusions}
    {size : Int} {root : Text} {start : Flight}
    (hlaunch : launch? .excludeImports disk exclusions size (.ofText root) = some start) {first : List Event}
    {s : Store} {f : Flight} (hfirst : Flies (Disk.read disk) (.empty, start) first (s, f))
    {findings : Findings} {counts : Statistics} (hland : f.landing? = some (findings, counts))
    {second : List Event} {s' : Store} {f' : Flight}
    (hsecond : Flies (Disk.read disk) (s, start) second (s', f')) {findings' : Findings}
    {counts' : Statistics} (hland' : f'.landing? = some (findings', counts')) :
    (findings' = findings ∧ ∀ e ∈ second, e.isExtraction = false)
      ↔ PrintsAgree first ∧ ChunksAgree first ∧ ExtractsPairFree first := by
  obtain ⟨-, hwaiting, -, -, hshown⟩ := launch?_spec hdisk hlaunch
  have hcomplete := isComplete_of_landing hdisk hlaunch hfirst hland
  have hlogs : Logs .excludeImports second f' := hsecond.logs (logs_launch hdisk hlaunch)
  have htargets : f.targets = start.targets := (hfirst.isCurrent hwaiting).1
  -- both say that the store of the first run answers for each file as that run has shown it
  constructor
  · rintro ⟨rfl, hnone⟩
    apply hcomplete.agree_of_answers
    exact answers_of_rerun hcomplete htargets hwaiting hshown hsecond hlogs hland hland' hnone
  · rintro ⟨hprints, hchunks, hpairs⟩
    have hanswers := hcomplete.answers_of_agree hprints hchunks hpairs
    have hnone := isExtraction_eq_false_of_answers hcomplete htargets hwaiting hsecond hanswers
    refine ⟨?_, hnone⟩
    exact findings_eq_of_answers hcomplete htargets hwaiting hsecond hlogs hland hland' hnone hanswers

/-! ### An example -/

/-- A tree with one file, whose documentation spells out a pair of surrogates. -/
@[irreducible] def pairTree : Disk :=
  .directory [("p", .directory [("x.py",
    .file (("def f():\n    \"\\ud83d\\ude00\"\n" : Text).map fun c => UInt8.ofNat c.val))])]

/-- The pair is joined when it is read back, so that the second run finds another documentation. -/
theorem rerun_eq_iff_on_pairTree : ∃ start first s f findings, ∃ counts : Statistics,
    ∃ second s' f' findings', ∃ counts' : Statistics, pairTree.isWellFormed = true
      ∧ launch? .excludeImports pairTree ⟨[], false⟩ 50 (.ofText "/p") = some start
      ∧ Flies (Disk.read pairTree) (.empty, start) first (s, f) ∧ f.landing? = some (findings, counts)
      ∧ Flies (Disk.read pairTree) (s, start) second (s', f') ∧ f'.landing? = some (findings', counts')
      ∧ findings' ≠ findings ∧ ¬ (PrintsAgree first ∧ ChunksAgree first ∧ ExtractsPairFree first) := by
  have well : pairTree.isWellFormed = true := by decide +kernel
  have one : (directory pairTree ⟨[], false⟩ 50 (.ofText "/p") .empty).result.toOption.any
      (fun r => r.1.flatMap (fun e => e.2.flatMap fun c => Chunk.textsOf c.docs) == [[0xD83D, 0xDE00]])
        = true := by decide +kernel
  have two : (directory pairTree ⟨[], false⟩ 50 (.ofText "/p")
      (directory pairTree ⟨[], false⟩ 50 (.ofText "/p") .empty).store).result.toOption.any
      (fun r => r.1.flatMap (fun e => e.2.flatMap fun c => Chunk.textsOf c.docs) == [[0x1F600]])
        = true := by decide +kernel
  obtain ⟨⟨findings, counts⟩, hone, hdocs⟩ := exists_eq_ok_of_any one
  obtain ⟨⟨findings', counts'⟩, htwo, hdocs'⟩ := exists_eq_ok_of_any two
  obtain ⟨start, first, f, hlaunch, hfirst, hland⟩ := exists_flies_of_directory hone
  obtain ⟨start', second, f', hlaunch', hsecond, hland'⟩ := exists_flies_of_directory htwo
  obtain rfl := Option.some.inj (hlaunch.symm.trans hlaunch')
  have differ : findings' ≠ findings := by
    rintro rfl
    rw [beq_iff_eq.1 hdocs] at hdocs'
    exact absurd hdocs' (by decide)
  exact ⟨start, first, _, f, findings, counts, second, _, f', findings', counts', well, hlaunch, hfirst,
    hland, hsecond, hland', differ, fun agree =>
      differ ((rerun_eq_iff well hlaunch hfirst hland hsecond hland').2 agree).1⟩

end SourceAtlas.Analysis
