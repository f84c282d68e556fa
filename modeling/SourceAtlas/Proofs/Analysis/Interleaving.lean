import SourceAtlas.Proofs.Analysis.Log
import SourceAtlas.Proofs.Store.Table
import SourceAtlas.Proofs.Text.Utf8

/-!
Interleavings. The files of a batch are handled in any order, and their steps are interleaved. If no two files
share a stored key, none of them sees what another one stores, so that each comes to what it comes to alone.
Whatever the batches and the order, the run then ends, and it leaves and finds what handling one file after
another does.

Main statement: `landing_eq_one_by_one`.
-/

namespace SourceAtlas.Analysis

variable {policy : Policy} {read : Path → Except Disk.Failure Bytes}

/-! ## Readable files -/

/-- A file can be read: a path leads to its bytes. -/
def Target.IsReadable (read : Path → Except Disk.Failure Bytes) (t : Target) : Prop :=
  t.path.isSound = true ∧ ∃ bytes, read t.path = .ok bytes

/-- What can be read has a text and a fingerprint. -/
theorem Target.IsReadable.exists_content {t : Target} (h : t.IsReadable read) :
    ∃ pair, content read t.path = .ok pair := by
  obtain ⟨hsound, bytes, hbytes⟩ := h
  obtain ⟨again, hencode⟩ := Utf8.exists_encode_decode bytes
  refine ⟨(Utf8.decode bytes, Fingerprint.ofBytes again), content_eq_ok_iff.2 ⟨hsound, ⟨bytes, hbytes, rfl⟩, ?_⟩⟩
  rw [Fingerprint.ofText, hencode]
  rfl

/-- A run keeps its files. -/
theorem Flies.targets_eq {x y : Store × Flight} {events : List Event} (h : Flies read x events y) :
    y.2.targets = x.2.targets := by
  induction h with
  | refl => rfl
  | snoc _ last ih => exact last.targets_eq.trans ih

/-! ## Batches -/

/-- Files are handled up to the first failure, and the others follow if there is none. -/
theorem visitAll_append (s : Store) (front back : List Target) :
    visitAll read policy s (front ++ back)
      = (let done := visitAll read policy s front
        match done.fault with
        | some _ => done
        | none =>
          let more := visitAll read policy done.store back
          { more with visits := done.visits ++ more.visits }) := by
  induction front generalizing s with
  | nil => rfl
  | cons target rest ih =>
    rw [List.cons_append, visitAll, visitAll]
    cases visit read policy s target with
    | error fault => rfl
    | ok pair =>
      obtain ⟨v, after⟩ := pair
      dsimp only
      rw [ih after]
      cases h : (visitAll read policy after rest).fault with
      | some fault => simp only [h]
      | none => simp only [h, List.cons_append]

/-- Where the batches are cut does not matter. -/
theorem visitBatches_eq_visitAll (s : Store) (list : List (List Target)) :
    visitBatches read policy s list = visitAll read policy s list.flatten := by
  induction list generalizing s with
  | nil => rfl
  | cons batch rest ih =>
    rw [visitBatches, List.flatten_cons, visitAll_append]
    dsimp only
    cases (visitAll read policy s batch).fault with
    | some fault => rfl
    | none => simp only [ih]

/-- Batches put together again are the list. -/
theorem flatten_batchesFrom {α : Type} {size fuel : Nat} (hsize : 0 < size) {items : List α}
    (hfuel : items.length ≤ fuel) : (batchesFrom size fuel items).flatten = items := by
  induction fuel generalizing items with
  | zero => rw [List.length_eq_zero_iff.1 (Nat.le_zero.1 hfuel)]; rfl
  | succ fuel ih =>
    cases items with
    | nil => rfl
    | cons a rest =>
      have shorter : ((a :: rest).drop size).length ≤ fuel := by
        rw [List.length_drop]
        omega
      rw [batchesFrom, List.isEmpty_cons, if_neg Bool.false_ne_true, List.flatten_cons, ih shorter,
        List.take_append_drop]

/-- The batches of a list hold its items, each once and in order. -/
theorem flatten_batches {α : Type} {size : Nat} (hsize : 0 < size) (items : List α) :
    (batches size items).flatten = items := flatten_batchesFrom hsize (Nat.le_refl _)

/-- A run over readable files comes to what handling one file after another does. -/
theorem runFrom_eq_one_by_one {size : Nat} (hsize : 0 < size) {root : Path} {paths : List Path}
    (hreadable : ∀ t ∈ targets root paths, t.IsReadable read) (s : Store) :
    runFrom read policy size root paths s
      = (let one := visitAll read policy s (targets root paths)
        ⟨one.store, one.visits, .ok (collect one.visits, statistics paths.length one.visits)⟩) := by
  have none : (visitAll read policy s (targets root paths)).fault = none :=
    Option.isNone_iff_eq_none.1 (visitAll_isNone (fun t ht => (hreadable t ht).exists_content) policy s)
  unfold runFrom
  rw [visitBatches_eq_visitAll, flatten_batches hsize]
  dsimp only
  rw [none]

/-! ## What a file comes to alone -/

/-- Two stores have the same row for a file. -/
def Target.HasSameRow (t : Target) (s other : Store) : Prop :=
  s.row? (Store.storageKey t.key) = other.row? (Store.storageKey t.key)

/-- A file stands where it would if it were handled alone in the store of the launch, and so does its row. -/
def Task.IsUndisturbed (policy : Policy) (read : Path → Except Disk.Failure Bytes) (stored s : Store)
    (task : Task) : Prop :=
  match task.stage with
  | .waiting => task.target.HasSameRow s stored
  | .loaded source fingerprint =>
    content read task.target.path = .ok (source, fingerprint) ∧ task.target.HasSameRow s stored
  | .missed source fingerprint answer =>
    content read task.target.path = .ok (source, fingerprint)
      ∧ answerTo fingerprint (stored.get task.target.key) = (none, answer) ∧ task.target.HasSameRow s stored
  | .finished v => ∃ after, visit read policy stored task.target = .ok (v, after) ∧ task.target.HasSameRow s after

/-- No file of a run disturbs another. -/
structure Undisturbed (policy : Policy) (read : Path → Except Disk.Failure Bytes) (stored s : Store)
    (f : Flight) : Prop where
  policy_eq : f.policy = policy
  distinct : (f.targets.map fun t => Store.storageKey t.key).Nodup
  tasks : ∀ task ∈ f.tasks, task.IsUndisturbed policy read stored s
  others : ∀ key, (∀ t ∈ f.targets, Store.storageKey t.key ≠ key) → s.row? key = stored.row? key

/-- A task stays undisturbed if the row of its file does. -/
theorem Task.IsUndisturbed.congr {stored s s' : Store} {task : Task}
    (h : task.IsUndisturbed policy read stored s)
    (hrow : task.target.HasSameRow s' s) : task.IsUndisturbed policy read stored s' := by
  obtain ⟨target, stage⟩ := task
  cases stage with
  | waiting => exact hrow.trans h
  | loaded source fingerprint => exact ⟨h.1, hrow.trans h.2⟩
  | missed source fingerprint answer => exact ⟨h.1, h.2.1, hrow.trans h.2.2⟩
  | finished v =>
    obtain ⟨after, hvisit, hafter⟩ := h
    exact ⟨after, hvisit, hrow.trans hafter⟩

namespace Undisturbed

variable {stored s s' : Store} {f f' : Flight}

/-- No path is handled twice. -/
theorem paths_nodup (h : Undisturbed policy read stored s f) : (f.targets.map Target.path).Nodup := by
  have keys : f.targets.map (fun t => Store.storageKey t.key)
      = (f.targets.map Target.path).map fun p => Store.storageKey p.toText := by
    rw [List.map_map]
    rfl
  exact List.Nodup.of_map _ (keys ▸ h.distinct)

/-- A step of one file leaves the others undisturbed if it changes no row but its own. -/
theorem move (h : Undisturbed policy read stored s f) {i : Nat} {target : Target} {stage other : Stage}
    (hat : f.At i target stage) (hnew : Task.IsUndisturbed policy read stored s' ⟨target, other⟩)
    (hrows : ∀ key, key ≠ Store.storageKey target.key → s'.row? key = s.row? key) :
    Undisturbed policy read stored s' (f.move i target other) := by
  have htarget := Flight.mem_targets_of_at hat
  have htargets : (f.move i target other).targets = f.targets := Flight.targets_move hat
  refine ⟨h.policy_eq, htargets ▸ h.distinct, ?_, ?_⟩
  · refine Flight.forall_tasks_move_of_ne h.paths_nodup hat (fun task htask hne => ?_) hnew
    refine (h.tasks task htask).congr (hrows _ fun hkey => hne ?_)
    rw [List.inj_on_of_nodup_map h.distinct (List.mem_map_of_mem htask) htarget hkey]
  · rw [htargets]
    intro key hkey
    rw [hrows key (hkey target htarget).symm]
    exact h.others key hkey

/-- Two runs over the same files that have landed without disturbances found and left the same. -/
theorem eq_of_landing (h : Undisturbed policy read stored s f) (h' : Undisturbed policy read stored s' f')
    (htargets : f'.targets = f.targets) {result result' : Findings × Statistics}
    (hland : f.landing? = some result) (hland' : f'.landing? = some result') : s' = s ∧ result' = result := by
  obtain ⟨findings, counts⟩ := result
  obtain ⟨findings', counts'⟩ := result'
  constructor
  · refine Store.eq_of_row?_eq fun key => ?_
    by_cases hkey : ∀ t ∈ f.targets, Store.storageKey t.key ≠ key
    · rw [h.others key hkey, h'.others key (htargets ▸ hkey)]
    -- the row of a file is the one that its visit alone leaves
    · push Not at hkey
      obtain ⟨t, ht, rfl⟩ := hkey
      obtain ⟨v, hv⟩ := Flight.exists_visit_of_landing hland ht
      obtain ⟨w, hw⟩ := Flight.exists_visit_of_landing hland' (htargets ▸ ht)
      obtain ⟨after, hvisit, hrow⟩ := h.tasks _ hv
      obtain ⟨after', hvisit', hrow'⟩ := h'.tasks _ hw
      rw [hvisit] at hvisit'
      obtain ⟨-, rfl⟩ := Prod.mk.inj (Except.ok.inj hvisit')
      exact hrow'.trans hrow.symm
  · obtain ⟨visits, hvisits, rfl, rfl⟩ := Flight.exists_visits_of_landing hland
    obtain ⟨visits', hvisits', rfl, rfl⟩ := Flight.exists_visits_of_landing hland'
    have alone : ∀ {s : Store} {f : Flight} {visits : List Visit}, Undisturbed policy read stored s f →
        List.Forall₂ (fun task v => task.stage = .finished v) f.tasks visits →
          List.Forall₂ (fun t v => ∃ after, visit read policy stored t = .ok (v, after)) f.targets visits :=
      fun hf hvisits => (Flight.forall₂_targets hvisits).imp fun t v hmem => by
        obtain ⟨after, hvisit, -⟩ := hf.tasks _ hmem
        exact ⟨after, hvisit⟩
    have unique : Relator.RightUnique fun t v => ∃ after, visit read policy stored t = .ok (v, after) := by
      rintro t v w ⟨after, hv⟩ ⟨after', hw⟩
      rw [hv] at hw
      exact (Prod.mk.inj (Except.ok.inj hw)).1
    have same : visits' = visits :=
      List.right_unique_forall₂' unique (htargets ▸ alone h' hvisits') (alone h hvisits)
    have length : f'.tasks.length = f.tasks.length := by
      have := congrArg List.length htargets
      rwa [Flight.targets, Flight.targets, List.length_map, List.length_map] at this
    rw [same, length]

end Undisturbed

/-- A step of a run disturbs no other file. -/
theorem Advance.undisturbed {stored s s' : Store} {f f' : Flight} {e : Event}
    (hadvance : Advance read (s, f) e (s', f')) (h : Undisturbed policy read stored s f) :
    Undisturbed policy read stored s' f' := by
  cases hadvance with
  | load hat hcontent =>
    have hrow := h.tasks _ (Flight.mem_tasks_of_at hat)
    exact h.move hat ⟨hcontent, hrow⟩ fun _ _ => rfl
  | @find _ _ _ target _ _ _ _ hat hanswer =>
    obtain ⟨hcontent, hrow⟩ := h.tasks _ (Flight.mem_tasks_of_at hat)
    rw [Store.get_eq_of_row?_eq hrow] at hanswer
    exact h.move hat ⟨stored, visit_of_hit hcontent hanswer, hrow⟩ fun _ _ => rfl
  | @miss _ _ _ target _ _ _ hat hanswer =>
    obtain ⟨hcontent, hrow⟩ := h.tasks _ (Flight.mem_tasks_of_at hat)
    rw [Store.get_eq_of_row?_eq hrow] at hanswer
    exact h.move hat ⟨hcontent, hanswer, hrow⟩ fun _ _ => rfl
  | keep hat =>
    obtain ⟨hcontent, hanswer, -⟩ := h.tasks _ (Flight.mem_tasks_of_at hat)
    rw [h.policy_eq]
    refine h.move hat ⟨_, visit_of_miss hcontent hanswer, ?_⟩ fun key hkey => Store.row?_put_of_ne hkey _ _ _
    exact (Store.row?_put_self _ _ _ _).trans (Store.row?_put_self _ _ _ _).symm
  | next _ _ => exact ⟨h.policy_eq, h.distinct, h.tasks, h.others⟩

/-- A run stays undisturbed from step to step. -/
theorem Flies.undisturbed {stored : Store} {x y : Store × Flight} {events : List Event}
    (h : Flies read x events y) (hx : Undisturbed policy read stored x.1 x.2) :
    Undisturbed policy read stored y.1 y.2 := by
  induction h with
  | refl => exact hx
  | snoc _ last ih => exact last.undisturbed ih

/-- A run that begins is undisturbed if no two of its files share a stored key. -/
theorem undisturbed_start (size : Nat) {list : List Target}
    (hkeys : (list.map fun t => Store.storageKey t.key).Nodup) (s : Store) :
    Undisturbed policy read s s (.start policy size list) := by
  exact ⟨rfl, (Flight.targets_start policy size list).symm ▸ hkeys,
    Flight.forall_tasks_start (fun _ => rfl) policy size list, fun _ _ => rfl⟩

/-! ## Runs end -/

/-- How many steps a file is away from being handled. -/
def Stage.rank : Stage → Nat
  | .waiting => 3
  | .loaded _ _ => 2
  | .missed _ _ _ => 1
  | .finished _ => 0

/-- The files that are at least so many steps away from being handled. -/
def Flight.ahead (f : Flight) (steps : Nat) : Nat := f.tasks.countP fun task => steps ≤ task.stage.rank

/-- The steps that a run may still take: those of its files, and the batches that may still be opened. -/
def Flight.work (f : Flight) : Nat := f.ahead 1 + f.ahead 2 + f.ahead 3 + (f.tasks.length - f.opened)

/-- To move a file on is to have less work left. -/
theorem Flight.work_move_lt {f : Flight} {i : Nat} {target : Target} {stage other : Stage}
    (hat : f.At i target stage) (hrank : other.rank < stage.rank) : (f.move i target other).work < f.work := by
  have ahead : ∀ steps, (f.move i target other).ahead steps + (if steps ≤ stage.rank then 1 else 0)
      = f.ahead steps + (if steps ≤ other.rank then 1 else 0) := by
    intro steps
    have count : (f.move i target other).tasks.countP (fun task => decide (steps ≤ task.stage.rank)) + _ = _ :=
      Flight.countP_move _ hat
    simpa [Flight.ahead] using count
  have length : (f.move i target other).tasks.length = f.tasks.length := List.length_set
  have bound : stage.rank ≤ 3 := by cases stage <;> simp [Stage.rank]
  have one := ahead 1
  have two := ahead 2
  have three := ahead 3
  rw [Flight.work, Flight.work, length]
  change _ + (f.tasks.length - f.opened) < _
  split_ifs at one two three <;> omega

/-- Every step of a run is one of those that it may still take. -/
theorem Advance.work_lt {s s' : Store} {f f' : Flight} {e : Event} (h : Advance read (s, f) e (s', f'))
    (hsize : 0 < f.size) : f'.work < f.work := by
  cases h with
  | load hat _ => exact Flight.work_move_lt hat (Nat.le_refl 3)
  | find hat _ => exact Flight.work_move_lt hat (Nat.zero_lt_two)
  | miss hat _ => exact Flight.work_move_lt hat (Nat.le_refl 2)
  | keep hat => exact Flight.work_move_lt hat (Nat.le_refl 1)
  | next _ hmore =>
    simp only [Flight.work, Flight.ahead]
    omega

/-- No step changes the size of the batches. -/
theorem Advance.size_eq {s s' : Store} {f f' : Flight} {e : Event} (h : Advance read (s, f) e (s', f')) :
    f'.size = f.size := by
  cases h with
  | _ => rfl

/-- With every step there is less work left. -/
theorem Flies.length_add_work_le {x y : Store × Flight} {events : List Event} (h : Flies read x events y)
    (hsize : 0 < x.2.size) : 0 < y.2.size ∧ events.length + y.2.work ≤ x.2.work := by
  induction h with
  | refl => exact ⟨hsize, by simp⟩
  | snoc _ last ih =>
    obtain ⟨hpos, hle⟩ := ih
    have less := last.work_lt hpos
    rw [List.length_append, List.length_singleton]
    exact ⟨last.size_eq ▸ hpos, by omega⟩

/-- There are four steps for each file at most. -/
theorem Flight.work_start (policy : Policy) (size : Nat) (list : List Target) :
    (start policy size list).work = 4 * list.length := by
  have all : ∀ steps, steps ≤ 3 → (start policy size list).ahead steps = list.length := by
    intro steps hsteps
    rw [Flight.ahead, start, List.countP_map, List.countP_eq_length]
    exact fun t _ => decide_eq_true hsteps
  have length : (start policy size list).tasks.length - (start policy size list).opened = list.length := by
    simp [start]
  rw [work, all 1 (by omega), all 2 (by omega), all 3 (by omega), length]
  omega

/-- If every task has a visit, so have all of them. -/
theorem exists_mapM_visit? {tasks : List Task} (h : ∀ task ∈ tasks, task.visit?.isSome = true) :
    ∃ visits, tasks.mapM Task.visit? = some visits := by
  induction tasks with
  | nil => exact ⟨[], rfl⟩
  | cons task rest ih =>
    rw [List.forall_mem_cons] at h
    obtain ⟨v, hv⟩ := Option.isSome_iff_exists.1 h.1
    obtain ⟨visits, hvisits⟩ := ih h.2
    exact ⟨v :: visits, by rw [List.mapM_cons, hv, hvisits]; rfl⟩

/-- A run goes on until it ends. -/
theorem exists_advance_or_ends (s : Store) (f : Flight) :
    (∃ e y, Advance read (s, f) e y) ∨ ∃ result, f.Ends read result := by
  by_cases hopen : ∀ task ∈ f.tasks.take f.opened, task.visit?.isSome = true
  · by_cases hmore : f.opened < f.tasks.length
    · exact .inl ⟨_, _, .next hopen hmore⟩
    -- all batches have been opened, and all their files handled
    · rw [List.take_of_length_le (Nat.le_of_not_lt hmore)] at hopen
      obtain ⟨visits, hvisits⟩ := exists_mapM_visit? hopen
      exact .inr ⟨_, .landed (by rw [Flight.landing?, Flight.visits?, hvisits]; rfl)⟩
  · push Not at hopen
    obtain ⟨⟨target, stage⟩, htask, hnot⟩ := hopen
    obtain ⟨i, hi⟩ := List.mem_iff_getElem?.1 htask
    have hat : f.At i target stage := by
      rw [List.getElem?_take] at hi
      split at hi
      · next hlt => exact ⟨hlt, hi⟩
      · cases hi
    cases stage with
    | waiting =>
      cases hcontent : content read target.path with
      | error fault => exact .inr ⟨_, .failed hat hcontent⟩
      | ok pair => exact .inl ⟨_, _, .load hat hcontent⟩
    | loaded source fingerprint =>
      rcases hanswer : answerTo fingerprint (s.get target.key) with ⟨_ | chunks, answer⟩
      · exact .inl ⟨_, _, .miss hat hanswer⟩
      · exact .inl ⟨_, _, .find hat hanswer⟩
    | missed source fingerprint answer => exact .inl ⟨_, _, .keep hat⟩
    | finished v => exact absurd rfl hnot

/-- A run goes on until all its files have been handled, if they can be read. -/
theorem exists_advance_or_landing {s : Store} {f : Flight}
    (hreadable : ∀ t ∈ f.targets, t.IsReadable read) :
    (∃ e y, Advance read (s, f) e y) ∨ ∃ result, f.landing? = some result := by
  refine (exists_advance_or_ends s f).imp id ?_
  rintro ⟨result, hends⟩
  cases hends with
  | landed hland => exact ⟨_, hland⟩
  | @failed _ target _ hat hcontent =>
    obtain ⟨pair, hpair⟩ := (hreadable target (Flight.mem_targets_of_at hat)).exists_content
    rw [hcontent] at hpair
    cases hpair

/-! ## Runs in any order -/

/-- A file has been handled once: it was read, and then found in the store, or extracted and stored. -/
def IsHandledOnce (events : List Event) (t : Target) : Prop :=
  ∃ source fingerprint, eventsOf events t = [.loaded t source fingerprint, .found t]
    ∨ eventsOf events t = [.loaded t source fingerprint, .extracted t source fingerprint, .kept t]

/-- In a run that is completed every file is handled once. -/
theorem Logs.isHandledOnce {events : List Event} {f : Flight} (h : Logs policy events f)
    {result : Findings × Statistics} (hland : f.landing? = some result) {t : Target} (ht : t ∈ f.targets) :
    IsHandledOnce events t := by
  obtain ⟨v, hv⟩ := Flight.exists_visit_of_landing hland ht
  cases (h.tasks _ hv).2 with
  | found source fingerprint hevents => exact ⟨source, fingerprint, .inl hevents⟩
  | stored source fingerprint hevents => exact ⟨source, fingerprint, .inr hevents⟩

/-- Readable files of which no two share a stored key are handled in batches, in any order and interleaved. The
run takes a bounded number of steps and goes on until all files have been handled. It then has left the store,
and lands with the findings and the statistics, that handling one file after another in the order of the list
comes to, and every file was handled once. -/
theorem landing_eq_one_by_one {disk : Disk} {policy : Policy} {size : Int} (hsize : 1 ≤ size)
    {root real : Path} (hreal : Disk.resolve disk root = .ok real) {paths : List Path}
    (hreadable : ∀ t ∈ targets real paths, t.IsReadable (Disk.read disk))
    (hkeys : ((targets real paths).map fun t => Store.storageKey t.key).Nodup) (s : Store) :
    let one := visitAll (Disk.read disk) policy s (targets real paths)
    let result := (collect one.visits, statistics paths.length one.visits)
    run disk policy size root paths s = ⟨one.store, one.visits, .ok result⟩
      ∧ ∀ events s' f,
        Flies (Disk.read disk) (s, .start policy size.toNat (targets real paths)) events (s', f) →
          events.length ≤ 4 * paths.length
            ∧ ((∃ e y, Advance (Disk.read disk) (s', f) e y) ∨ f.landing?.isSome = true)
            ∧ ∀ found, f.landing? = some found →
              found = result ∧ s' = one.store ∧ ∀ t ∈ targets real paths, IsHandledOnce events t := by
  intro one result
  have hpos : 0 < size.toNat := by omega
  have hrun : run disk policy size root paths s = ⟨one.store, one.visits, .ok result⟩ := by
    rw [run, if_neg (by omega), hreal]
    exact runFrom_eq_one_by_one hpos hreadable s
  refine ⟨hrun, fun events s' f hflies => ?_⟩
  have start := Flight.targets_start policy size.toNat (targets real paths)
  have undisturbed : Undisturbed policy (Disk.read disk) s s (.start policy size.toNat (targets real paths)) :=
    undisturbed_start size.toNat hkeys s
  have hlogs := hflies.logs (logs_start policy size.toNat (start ▸ undisturbed.paths_nodup))
  have htargets : f.targets = targets real paths := hflies.targets_eq.trans start
  refine ⟨?_, ?_, fun found hland => ?_⟩
  · have bound := (hflies.length_add_work_le hpos).2
    rw [Flight.work_start, targets, List.length_map] at bound
    omega
  · refine (exists_advance_or_landing (htargets ▸ hreadable)).imp id ?_
    rintro ⟨found, hland⟩
    rw [hland]
    rfl
  -- handling one file after another is a run that nothing disturbs either
  · have hresult : (runFrom (Disk.read disk) policy size.toNat real paths s).result = .ok result := by
      rw [runFrom_eq_one_by_one hpos hreadable]
    obtain ⟨_, f₁, hone, hland₁⟩ := exists_flies_of_runFrom hpos hresult
    rw [runFrom_eq_one_by_one hpos hreadable] at hone
    obtain ⟨hstore, hfound⟩ := (hone.undisturbed undisturbed).eq_of_landing (hflies.undisturbed undisturbed)
      (hflies.targets_eq.trans hone.targets_eq.symm) hland₁ hland
    exact ⟨hfound, hstore, fun t ht => hlogs.isHandledOnce hland (htargets ▸ ht)⟩

/-! ### An example -/

/-- Two files of which one has been stored are handled in one batch, in any order, or in batches of one. -/
theorem landing_eq_one_by_one_on_grownTree :
    let stored := (run grownTree .excludeImports 1 (.ofText "/p/a") [.ofText "x.py"] .empty).store
    let both := fun size =>
      run grownTree .excludeImports size (.ofText "/p/a") [.ofText "x.py", .ofText "y.py"] stored
    ∃ findings, ∃ counts : Statistics, (both 1).result = .ok (findings, counts) ∧ both 2 = both 1
      ∧ counts.hits = 1 ∧ counts.misses = 1
      ∧ ∀ events s f, Flies (Disk.read grownTree) (stored, .start .excludeImports 2 grownTargets) events (s, f) →
        ∀ found, f.landing? = some found → found = (findings, counts) ∧ s = (both 1).store
          ∧ ∀ t ∈ grownTargets, IsHandledOnce events t := by
  intro stored both
  have counts : (both 1).result.toOption.any (fun r => r.2.hits == 1 && r.2.misses == 1) = true := by
    decide +kernel
  obtain ⟨⟨findings, counts⟩, hresult, hcounts⟩ := exists_eq_ok_of_any counts
  obtain ⟨hhits, hmisses⟩ := Bool.and_eq_true_iff.1 hcounts
  have root : (Disk.resolve grownTree (.ofText "/p/a")).toOption.any (fun p => p = .ofText "/p/a") = true := by
    decide +kernel
  obtain ⟨real, hreal, hroot⟩ := exists_eq_ok_of_any root
  obtain rfl := of_decide_eq_true hroot
  have files : targets (.ofText "/p/a") [.ofText "x.py", .ofText "y.py"] = grownTargets := by decide +kernel
  have bytes : ∀ t ∈ grownTargets, t.path.isSound = true
      ∧ (Disk.read grownTree t.path).toOption.any (fun _ => true) = true := by decide +kernel
  have readable : ∀ t ∈ targets (.ofText "/p/a") [.ofText "x.py", .ofText "y.py"],
      t.IsReadable (Disk.read grownTree) := by
    rw [files]
    intro t ht
    obtain ⟨content, hcontent, -⟩ := exists_eq_ok_of_any (bytes t ht).2
    exact ⟨(bytes t ht).1, content, hcontent⟩
  have keys : ((targets (.ofText "/p/a") [.ofText "x.py", .ofText "y.py"]).map
      fun t => Store.storageKey t.key).Nodup := by decide +kernel
  obtain ⟨one, -⟩ := @landing_eq_one_by_one grownTree .excludeImports 1 (by decide) _ _ hreal _ readable keys stored
  obtain ⟨two, any⟩ := @landing_eq_one_by_one grownTree .excludeImports 2 (by decide) _ _ hreal _ readable keys stored
  have result := congrArg Outcome.result one
  rw [show (run grownTree .excludeImports 1 _ _ stored).result = _ from hresult] at result
  refine ⟨findings, counts, hresult, two.trans one.symm, beq_iff_eq.1 hhits, beq_iff_eq.1 hmisses, ?_⟩
  intro events s f hflies found hland
  rw [← files] at hflies ⊢
  obtain ⟨hfound, hstore, hhandled⟩ := (any events s f hflies).2.2 found hland
  exact ⟨hfound.trans (Except.ok.inj result).symm, hstore.trans (congrArg Outcome.store one).symm, hhandled⟩

end SourceAtlas.Analysis
