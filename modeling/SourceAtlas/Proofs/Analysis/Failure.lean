import SourceAtlas.Proofs.Analysis.Clearing
import SourceAtlas.Proofs.Analysis.Provenance

/-!
Runs that fail. The first batch with a file that cannot be read is opened, but never left: the files before it
have been handled by then, and none behind it is begun. However the steps are interleaved, the run ends with
the fault of a file of this batch. It leaves the rows of all files before the batch current, those of the batch
old or fresh, and all others as they were. The statistics of the pipeline stay those of the last run that was
completed.

Main statement: `failure_leaves_sound_store`.
-/

namespace SourceAtlas.Analysis

variable {policy : Policy} {read : Path → Except Disk.Failure Bytes}

/-! ## Files that cannot be read -/

/-- What is wrong with a file that cannot be read: its path can be that of no file, or reading fails. -/
def Target.FailsWith (read : Path → Except Disk.Failure Bytes) (t : Target) (fault : Fault) : Prop :=
  (∃ refusal, Disk.refusal? t.path = some refusal ∧ fault = .unnamable refusal)
    ∨ (t.path.isSound = true ∧ ∃ failure, read t.path = .error failure ∧ fault = .unreadable failure)

/-- A file cannot be read for the faults that it fails with. -/
theorem content_eq_error_iff {t : Target} {fault : Fault} :
    content read t.path = .error fault ↔ t.FailsWith read fault := by
  rw [Target.FailsWith]
  cases hrefusal : Disk.refusal? t.path with
  | some refusal =>
    have unsound : ¬ t.path.isSound = true := by
      rw [← Disk.refusal?_eq_none_iff, hrefusal]
      exact nofun
    simp [content, hrefusal, unsound, eq_comm]
  | none =>
    have sound := Disk.refusal?_eq_none_iff.1 hrefusal
    cases hread : read t.path with
    | error failure => simp [content, hrefusal, sound, hread, eq_comm]
    | ok bytes =>
      obtain ⟨pair, hpair⟩ := Target.IsReadable.exists_content (t := t) ⟨sound, bytes, hread⟩
      simp [hpair]

/-- A file either can be read or has a fault. -/
theorem not_isReadable_iff {t : Target} : ¬ t.IsReadable read ↔ ∃ fault, content read t.path = .error fault := by
  constructor
  · intro h
    cases hcontent : content read t.path with
    | error fault => exact ⟨fault, rfl⟩
    | ok pair =>
      refine absurd ?_ h
      obtain ⟨hsound, ⟨bytes, hbytes, -⟩, -⟩ := content_eq_ok_iff.1 hcontent
      exact ⟨hsound, bytes, hbytes⟩
  · rintro ⟨fault, hfault⟩ h
    obtain ⟨pair, hpair⟩ := h.exists_content
    rw [hfault] at hpair
    cases hpair

/-! ## The place of a batch -/

/-- A batch stands where the items of the batches before it end. Those batches are full. -/
theorem batchesFrom_eq_append_cons {α : Type} {size fuel : Nat} {items batch : List α}
    {before after : List (List α)} (h : batchesFrom size fuel items = before ++ batch :: after) :
    size ∣ before.flatten.length ∧ items.take before.flatten.length = before.flatten
      ∧ (items.drop before.flatten.length).take size = batch := by
  induction before generalizing fuel items with
  | nil =>
    cases fuel with
    | zero => cases h
    | succ fuel =>
      unfold batchesFrom at h
      split at h
      · cases h
      · exact ⟨Nat.dvd_zero size, rfl, (List.cons.inj h).1⟩
  | cons first before ih =>
    cases fuel with
    | zero => cases h
    | succ fuel =>
      unfold batchesFrom at h
      split at h
      · cases h
      · obtain ⟨hfirst, hrest⟩ := List.cons.inj h
        obtain ⟨hcut, hbefore, hbatch⟩ := ih hrest
        -- some items are left behind the first batch, so that it is full
        have full : first.length = size := by
          have left : items.drop size ≠ [] := by
            intro hnil
            rw [hnil] at hrest
            cases fuel <;> cases before <;> cases hrest
          have := List.length_pos_iff.2 left
          rw [List.length_drop] at this
          rw [← hfirst, List.length_take]
          omega
        rw [List.flatten_cons, List.length_append, full]
        refine ⟨Nat.dvd_add (Nat.dvd_refl size) hcut, ?_, ?_⟩
        · rw [List.take_add, hfirst, hbefore]
        · rw [← List.drop_drop, hbatch]

/-! ## Rows of the files begun so far -/

/-- Files that share a stored key are the same. -/
def AreApart (list : List Target) : Prop :=
  ∀ a ∈ list, ∀ b ∈ list, Store.storageKey a.key = Store.storageKey b.key → a = b

instance (list : List Target) : Decidable (AreApart list) := by unfold AreApart; infer_instance

/-- What has been read of a file is its content, and once the file has been handled its row is current. -/
def Task.IsSound (read : Path → Except Disk.Failure Bytes) (s : Store) (task : Task) : Prop :=
  match task.stage with
  | .waiting => True
  | .loaded source fingerprint => content read task.target.path = .ok (source, fingerprint)
  | .missed source fingerprint _ => content read task.target.path = .ok (source, fingerprint)
  | .finished _ => ∃ source fingerprint, content read task.target.path = .ok (source, fingerprint)
      ∧ s.fingerprint? task.target.key = some fingerprint

/-- Every row is the one of the launch, or the fresh one of a file of the batches begun so far. -/
structure IsSound (policy : Policy) (read : Path → Except Disk.Failure Bytes) (stored s : Store) (f : Flight) :
    Prop where
  policy_eq : f.policy = policy
  apart : AreApart f.targets
  tasks : ∀ task ∈ f.tasks, task.IsSound read s
  rows : ∀ key, s.row? key = stored.row? key
    ∨ ∃ t ∈ f.targets.take f.opened, ∃ r, IsFreshRow policy read t r ∧ r.key = key ∧ s.row? key = some r

/-- A file at a stage is one of the open ones. -/
theorem Flight.mem_take_targets_of_at {f : Flight} {i : Nat} {target : Target} {stage : Stage}
    (h : f.At i target stage) : target ∈ f.targets.take f.opened := by
  apply List.mem_of_getElem? (i := i)
  rw [List.getElem?_take, if_pos h.1, targets, List.getElem?_map, h.2]
  rfl

namespace IsSound

variable {stored s : Store} {f : Flight} {i : Nat} {target : Target} {stage other : Stage}

theorem task_of_at (h : IsSound policy read stored s f) (hat : f.At i target stage) :
    Task.IsSound read s ⟨target, stage⟩ := h.tasks _ (Flight.mem_tasks_of_at hat)

/-- A flight stays sound when a file goes on soundly. -/
theorem move (h : IsSound policy read stored s f) (hat : f.At i target stage)
    (hnew : Task.IsSound read s ⟨target, other⟩) : IsSound policy read stored s (f.move i target other) := by
  have same : (f.move i target other).targets = f.targets := Flight.targets_move hat
  refine ⟨h.policy_eq, same ▸ h.apart, Flight.forall_tasks_move h.tasks hnew, ?_⟩
  rw [same]
  exact h.rows

/-- A fresh row of one file does no harm to the rows of others. -/
theorem put (h : IsSound policy read stored s f) (hat : f.At i target stage) {source fingerprint : Text}
    (hcontent : content read target.path = .ok (source, fingerprint)) :
    IsSound policy read stored (s.put target.key fingerprint (extract policy target.shown source)) f := by
  have htarget := Flight.mem_targets_of_at hat
  refine ⟨h.policy_eq, h.apart, fun task htask => ?_, fun key => ?_⟩
  · have hold := h.tasks task htask
    obtain ⟨t, stage⟩ := task
    cases stage with
    | waiting => trivial
    | loaded _ _ => exact hold
    | missed _ _ _ => exact hold
    | finished v =>
      obtain ⟨source', fingerprint', hcontent', hrow⟩ := hold
      refine ⟨source', fingerprint', hcontent', ?_⟩
      by_cases hkey : Store.storageKey t.key = Store.storageKey target.key
      · -- a file with this key is the same file, and has the same content
        obtain rfl : t = target := h.apart t (List.mem_map.2 ⟨_, htask, rfl⟩) target htarget hkey
        rw [hcontent] at hcontent'
        obtain ⟨-, rfl⟩ := Prod.mk.inj (Except.ok.inj hcontent')
        exact Store.fingerprint?_put_self _ _ _ _
      · exact (Store.fingerprint?_congr (Store.row?_put_of_ne hkey _ _ _)).trans hrow
  · by_cases hkey : key = Store.storageKey target.key
    · subst hkey
      exact .inr ⟨target, Flight.mem_take_targets_of_at hat, _, ⟨source, fingerprint, hcontent, rfl⟩, rfl,
        Store.row?_put_self _ _ _ _⟩
    · rw [Store.row?_put_of_ne hkey]
      exact h.rows key

end IsSound

/-- A step of a run keeps the rows sound. -/
theorem Advance.isSound {stored s s' : Store} {f f' : Flight} {e : Event}
    (hadvance : Advance read (s, f) e (s', f')) (h : IsSound policy read stored s f) :
    IsSound policy read stored s' f' := by
  cases hadvance with
  | load hat hcontent => exact h.move hat hcontent
  | @find _ _ _ _ source fingerprint _ _ hat hanswer =>
    -- what has been found stands in a row with this fingerprint
    exact h.move hat ⟨source, fingerprint, h.task_of_at hat, fingerprint?_of_hit hanswer⟩
  | miss hat _ =>
    have hcontent := h.task_of_at hat
    exact h.move hat hcontent
  | @keep _ _ _ _ source fingerprint _ hat =>
    have hcontent := h.task_of_at hat
    rw [h.policy_eq]
    exact (h.put hat hcontent).move hat ⟨source, fingerprint, hcontent, Store.fingerprint?_put_self _ _ _ _⟩
  | next _ _ =>
    refine ⟨h.policy_eq, h.apart, h.tasks, fun key => (h.rows key).imp id ?_⟩
    rintro ⟨t, ht, hfresh⟩
    exact ⟨t, (List.take_subset_take_left _ (Nat.le_add_right _ _)) ht, hfresh⟩

/-- A run stays sound from step to step. -/
theorem Flies.isSound {stored : Store} {x y : Store × Flight} {events : List Event} (h : Flies read x events y)
    (hx : IsSound policy read stored x.1 x.2) : IsSound policy read stored y.1 y.2 := by
  induction h with
  | refl => exact hx
  | snoc _ last ih => exact last.isSound ih

/-- It is sound when it starts. -/
theorem isSound_start (size : Nat) {list : List Target} (hapart : AreApart list) (s : Store) :
    IsSound policy read s s (.start policy size list) := by
  exact ⟨rfl, (Flight.targets_start policy size list).symm ▸ hapart,
    Flight.forall_tasks_start (fun _ => trivial) policy size list, fun _ => .inl rfl⟩

/-- A file that has been handled could be read. -/
theorem IsSound.isReadable {stored s : Store} {f : Flight} {task : Task} (h : IsSound policy read stored s f)
    (htask : task ∈ f.tasks) (hdone : task.visit?.isSome = true) : task.target.IsReadable read := by
  obtain ⟨target, stage⟩ := task
  cases stage with
  | finished v =>
    obtain ⟨_, _, hcontent, -⟩ := h.tasks _ htask
    by_contra hunreadable
    obtain ⟨fault, hfault⟩ := not_isReadable_iff.1 hunreadable
    rw [hcontent] at hfault
    cases hfault
  | _ => cases hdone

/-! ## The batch that is not left -/

/-- A run has not got beyond a batch of this size, and has handled the `count` files before it if it has begun
with it. -/
structure IsHeldUp (count size : Nat) (f : Flight) : Prop where
  size_eq : f.size = size
  cut : size ∣ f.opened
  opened_le : f.opened ≤ count + size
  before : count < f.opened → ∀ task ∈ f.tasks.take count, task.visit?.isSome = true

/-- A file that moves does not belong to those before the batch, if the batch has been begun. -/
theorem IsHeldUp.move {count size : Nat} {f : Flight} (h : IsHeldUp count size f) {i : Nat} {target : Target}
    {stage other : Stage} (hat : f.At i target stage) (hstage : Task.visit? ⟨target, stage⟩ = none) :
    IsHeldUp count size (f.move i target other) := by
  refine ⟨h.size_eq, h.cut, h.opened_le, fun hbegun => ?_⟩
  have beyond : count ≤ i := by
    by_contra hlt
    have mem : ⟨target, stage⟩ ∈ f.tasks.take count := by
      apply List.mem_of_getElem? (i := i)
      rw [List.getElem?_take, if_pos (by omega), hat.2]
    have done := h.before hbegun _ mem
    rw [hstage] at done
    cases done
  have same : (f.move i target other).tasks.take count = f.tasks.take count := List.take_set_of_le beyond
  rw [same]
  exact h.before hbegun

/-- The next batch is not opened while a file of the last one cannot be read. -/
theorem IsHeldUp.open_next {stored s : Store} {count size : Nat} {f : Flight} (h : IsHeldUp count size f)
    (hsound : IsSound policy read stored s f) (hcount : size ∣ count)
    (hfail : ∃ t ∈ (f.targets.drop count).take size, ¬ t.IsReadable read)
    (hdone : ∀ task ∈ f.tasks.take f.opened, task.visit?.isSome = true) :
    IsHeldUp count size { f with opened := f.opened + f.size } := by
  -- beyond the files before the batch the unreadable file would have been handled
  have le : f.opened ≤ count := by
    by_contra hgt
    have whole : count + size ≤ f.opened := by
      have := Nat.le_of_dvd (by omega) (Nat.dvd_sub h.cut hcount)
      omega
    obtain ⟨t, ht, hunreadable⟩ := hfail
    have mem : t ∈ f.targets.take f.opened := by
      rw [List.take_drop] at ht
      exact List.take_subset_take_left _ whole (List.mem_of_mem_drop ht)
    rw [Flight.targets, ← List.map_take] at mem
    obtain ⟨task, htask, rfl⟩ := List.mem_map.1 mem
    exact hunreadable (hsound.isReadable (List.mem_of_mem_take htask) (hdone task htask))
  have hsize := h.size_eq
  refine ⟨hsize, ?_, ?_, fun hbegun => ?_⟩
  · show size ∣ f.opened + f.size
    rw [hsize]
    exact Nat.dvd_add h.cut (Nat.dvd_refl size)
  · show f.opened + f.size ≤ count + size
    omega
  · change count < f.opened + f.size at hbegun
    have all : count - f.opened = 0 :=
      Nat.eq_zero_of_dvd_of_lt (Nat.dvd_sub hcount h.cut) (by omega)
    obtain rfl : f.opened = count := by omega
    exact hdone

/-- A step of a run does not get it beyond a batch with an unreadable file. -/
theorem Advance.isHeldUp {stored s s' : Store} {f f' : Flight} {e : Event} {count size : Nat}
    (hadvance : Advance read (s, f) e (s', f')) (h : IsHeldUp count size f)
    (hsound : IsSound policy read stored s f) (hcount : size ∣ count)
    (hfail : ∃ t ∈ (f.targets.drop count).take size, ¬ t.IsReadable read) : IsHeldUp count size f' := by
  cases hadvance with
  | load hat _ => exact h.move hat rfl
  | find hat _ => exact h.move hat rfl
  | miss hat _ => exact h.move hat rfl
  | keep hat => exact h.move hat rfl
  | next hdone _ => exact h.open_next hsound hcount hfail hdone

/-- A run that is held up by a failing file stays so. -/
theorem Flies.isHeldUp {stored : Store} {x y : Store × Flight} {events : List Event} {count size : Nat}
    (h : Flies read x events y) (hx : IsHeldUp count size x.2) (hsound : IsSound policy read stored x.1 x.2)
    (hcount : size ∣ count) (hfail : ∃ t ∈ (x.2.targets.drop count).take size, ¬ t.IsReadable read) :
    IsHeldUp count size y.2 := by
  induction h with
  | refl => exact hx
  | snoc before last ih =>
    exact last.isHeldUp ih (before.isSound hsound) hcount (before.targets_eq.symm ▸ hfail)

/-! ## What a failure leaves -/

/-- A store in which the files before a batch are current, those of the batch have their old rows or fresh ones,
and the rows of all others are as they were. -/
structure IsSoundPrefix (policy : Policy) (read : Path → Except Disk.Failure Bytes)
    (before batch after : List Target) (stored s : Store) : Prop where
  current : ∀ t ∈ before, ∃ source fingerprint, content read t.path = .ok (source, fingerprint)
    ∧ s.fingerprint? t.key = some fingerprint
  oldOrFresh : ∀ t ∈ batch, t.HasSameRow s stored
    ∨ ∃ r, IsFreshRow policy read t r ∧ s.row? (Store.storageKey t.key) = some r
  unchanged : ∀ t ∈ after, t ∉ before → t ∉ batch → t.HasSameRow s stored
  others : ∀ key, (∀ t ∈ before ++ batch, Store.storageKey t.key ≠ key) → s.row? key = stored.row? key

section

variable {stored s : Store} {f : Flight} {size : Nat} {before batch after : List Target}

/-- No file behind the batch has been begun, so that its row is that of the launch unless it stands further in
front as well. -/
theorem IsSound.isSoundPrefix (h : IsSound policy read stored s f) (hheld : IsHeldUp before.length size f)
    (hlist : f.targets = before ++ batch ++ after) (hbatch : (f.targets.drop before.length).take size = batch)
    (hbegun : before.length < f.opened) : IsSoundPrefix policy read before batch after stored s := by
  have front : f.targets.take before.length = before := by
    rw [hlist, List.append_assoc, List.take_left]
  have begun : f.targets.take f.opened ⊆ before ++ batch := by
    have upTo : f.targets.take (before.length + size) = before ++ batch := by
      rw [List.take_add, front, hbatch]
    exact upTo ▸ List.take_subset_take_left _ hheld.opened_le
  have others : ∀ key, (∀ t ∈ before ++ batch, Store.storageKey t.key ≠ key) → s.row? key = stored.row? key := by
    intro key hkey
    refine (h.rows key).resolve_right ?_
    rintro ⟨t, ht, r, hr, hrkey, -⟩
    exact hkey t (begun ht) (hr.key_eq.symm.trans hrkey)
  refine ⟨fun t ht => ?_, fun t ht => ?_, fun t ht hbefore hbatch => ?_, others⟩
  · rw [← front, Flight.targets, ← List.map_take] at ht
    obtain ⟨⟨target, stage⟩, htask, rfl⟩ := List.mem_map.1 ht
    have done := hheld.before hbegun _ htask
    have sound := h.tasks _ (List.mem_of_mem_take htask)
    cases stage with
    | finished v => exact sound
    | _ => cases done
  · refine (h.rows (Store.storageKey t.key)).imp id ?_
    rintro ⟨u, hu, r, hr, hrkey, hrow⟩
    have same : u = t := by
      refine h.apart u (List.mem_of_mem_take hu) t ?_ (hr.key_eq.symm.trans hrkey)
      rw [hlist]
      exact List.mem_append_left _ (List.mem_append_right _ ht)
    exact ⟨r, same ▸ hr, hrow⟩
  · refine others _ fun u hu hkey => ?_
    have same : u = t := by
      apply h.apart u _ t _ hkey
      · rw [hlist]
        exact List.mem_append_left _ hu
      · rw [hlist]
        exact List.mem_append_right _ ht
    rcases List.mem_append.1 hu with hu | hu
    · exact hbefore (same ▸ hu)
    · exact hbatch (same ▸ hu)

/-- A run that is held up in a batch ends with the fault of one of its files. -/
theorem IsHeldUp.exists_fault (hheld : IsHeldUp before.length size f) (h : IsSound policy read stored s f)
    (hlist : f.targets = before ++ batch ++ after) (hbatch : (f.targets.drop before.length).take size = batch)
    (hreadable : ∀ t ∈ before, t.IsReadable read) (hfail : ∃ t ∈ batch, ¬ t.IsReadable read)
    {result : Except Fault (Findings × Statistics)} (hends : f.Ends read result) :
    before.length < f.opened ∧ ∃ t ∈ batch, ∃ fault, t.FailsWith read fault ∧ result = .error fault := by
  cases hends with
  | landed hland =>
    -- a run that has landed has read the file that cannot be read
    obtain ⟨t, ht, hunreadable⟩ := hfail
    have htarget : t ∈ f.targets := by
      rw [hlist]
      exact List.mem_append_left _ (List.mem_append_right _ ht)
    obtain ⟨v, hv⟩ := Flight.exists_visit_of_landing hland htarget
    exact absurd (h.isReadable hv rfl) hunreadable
  | @failed i target fault hat hcontent =>
    have place : f.targets[i]? = some target := by
      rw [Flight.targets, List.getElem?_map, hat.2]
      rfl
    -- the file stands behind those that can be read, and in front of those that have not been begun
    have beyond : before.length ≤ i := by
      by_contra hlt
      have inside : target ∈ before := by
        rw [hlist, List.append_assoc, List.getElem?_append_left (by omega)] at place
        exact List.mem_of_getElem? place
      exact not_isReadable_iff.2 ⟨fault, hcontent⟩ (hreadable target inside)
    have upTo := hheld.opened_le
    have begun := hat.1
    have inBatch : target ∈ batch := by
      apply List.mem_of_getElem? (i := i - before.length)
      rw [← hbatch, List.getElem?_take, if_pos (by omega), List.getElem?_drop, Nat.add_sub_cancel' beyond]
      exact place
    exact ⟨by omega, target, inBatch, fault, content_eq_error_iff.1 hcontent, rfl⟩

end

/-! ## Pipelines -/

/-- The statistics of a run, if it was completed. -/
def completed? : Except Fault (Findings × Statistics) → Option Statistics
  | .ok (_, counts) => some counts
  | .error _ => none

/-- The statistics of a pipeline are those of the last run that was completed. -/
theorem last_foldl_record (p : Pipeline) (results : List (Except Fault (Findings × Statistics))) :
    (results.foldl Pipeline.record p).last = (results.filterMap completed?).getLast?.or p.last := by
  induction results using List.reverseRecOn with
  | nil => rfl
  | append_singleton results result ih =>
    rw [List.foldl_concat, List.filterMap_append]
    cases result with
    | error fault => simpa [Pipeline.record, completed?] using ih
    | ok pair =>
      obtain ⟨findings, counts⟩ := pair
      simp [Pipeline.record, completed?]

/-- What is recorded of runs changes neither the policy nor the size of the batches. -/
theorem policy_foldl_record (p : Pipeline) (results : List (Except Fault (Findings × Statistics))) :
    (results.foldl Pipeline.record p).policy = p.policy ∧ (results.foldl Pipeline.record p).size = p.size := by
  induction results using List.reverseRecOn with
  | nil => exact ⟨rfl, rfl⟩
  | append_singleton results result ih =>
    rw [List.foldl_concat]
    cases result with
    | _ => exact ih

/-- How a run over a list of files fails: with the fault of a file of one batch, leaving a sound prefix and the
statistics of the last of the earlier runs that was completed. -/
structure FailsIn (policy : Policy) (read : Path → Except Disk.Failure Bytes) (before batch after : List Target)
    (stored : Store) (earlier : List (Except Fault (Findings × Statistics)))
    (result : Except Fault (Findings × Statistics)) (s : Store) (p : Pipeline) : Prop where
  fault : ∃ t ∈ batch, ∃ fault, t.FailsWith read fault ∧ result = .error fault
  rows : IsSoundPrefix policy read before batch after stored s
  last : p.last = (earlier.filterMap completed?).getLast?

/-- A pipeline that has made some runs is to run over files, and `batch` is the first batch with one that cannot
be read. In any interleaving the run takes a bounded number of steps, goes on until it ends, and fails in this
batch. Run one file after another, it fails there as well. -/
theorem failure_leaves_sound_store {disk : Disk} {policy : Policy} {standard : Int} {size? : Option Int}
    (hsize : 1 ≤ size?.getD standard) {root real : Path} (hreal : Disk.resolve disk root = .ok real)
    {paths : List Path} {before after : List (List Target)} {batch : List Target}
    (hbatches : batches (size?.getD standard).toNat (targets real paths) = before ++ batch :: after)
    (hbefore : ∀ t ∈ before.flatten, t.IsReadable (Disk.read disk))
    (hbatch : ∃ t ∈ batch, ¬ t.IsReadable (Disk.read disk)) (hapart : AreApart (targets real paths))
    (earlier : List (Except Fault (Findings × Statistics))) (stored : Store) :
    let p : Pipeline := earlier.foldl Pipeline.record ⟨policy, standard, none⟩
    let Fails := FailsIn policy (Disk.read disk) before.flatten batch after.flatten stored earlier
    let ran := p.run disk size? root paths stored
    Fails ran.1.result ran.1.store ran.2
      ∧ ∀ events s f,
        Flies (Disk.read disk)
          (stored, .start policy (size?.getD standard).toNat (targets real paths)) events (s, f) →
          events.length ≤ 4 * paths.length
            ∧ ((∃ e y, Advance (Disk.read disk) (s, f) e y) ∨ ∃ result, f.Ends (Disk.read disk) result)
            ∧ ∀ result, f.Ends (Disk.read disk) result → Fails result s (p.record result) := by
  intro p Fails ran
  have hpos : 0 < (size?.getD standard).toNat := by omega
  have hlist : targets real paths = before.flatten ++ batch ++ after.flatten := by
    rw [← flatten_batches hpos (targets real paths), hbatches, List.flatten_append, List.flatten_cons,
      List.append_assoc]
  obtain ⟨hcut, -, hplace⟩ := batchesFrom_eq_append_cons hbatches
  have hlast : p.last = (earlier.filterMap completed?).getLast? := by
    rw [last_foldl_record, Option.or_none]
  -- whatever the interleaving, the run is held up in the batch and ends there
  have fails : ∀ {events s f}, Flies (Disk.read disk)
      (stored, .start policy (size?.getD standard).toNat (targets real paths)) events (s, f) →
        ∀ result, f.Ends (Disk.read disk) result → Fails result s (p.record result) := by
    intro events s f hflies result hends
    have start := Flight.targets_start policy (size?.getD standard).toNat (targets real paths)
    have hfiles : f.targets = targets real paths := hflies.targets_eq.trans start
    have sound : IsSound policy (Disk.read disk) stored s f :=
      hflies.isSound (isSound_start (size?.getD standard).toNat hapart stored)
    have held : IsHeldUp before.flatten.length (size?.getD standard).toNat f := by
      refine hflies.isHeldUp ⟨rfl, Nat.dvd_zero _, Nat.zero_le _, fun h => absurd h (Nat.not_lt_zero _)⟩
        (isSound_start _ hapart stored) hcut ?_
      show ∃ t ∈ ((Flight.start policy _ (targets real paths)).targets.drop _).take _, _
      rw [start, hplace]
      exact hbatch
    rw [← hfiles] at hlist hplace
    obtain ⟨hbegun, hfault⟩ := held.exists_fault sound hlist hplace hbefore hbatch hends
    refine ⟨hfault, sound.isSoundPrefix held hlist hplace hbegun, ?_⟩
    obtain ⟨_, -, fault, -, rfl⟩ := hfault
    exact hlast
  constructor
  · obtain ⟨hpolicy, hstandard⟩ := policy_foldl_record ⟨policy, standard, none⟩ earlier
    have hrun : ran = (runFrom (Disk.read disk) policy (size?.getD standard).toNat real paths stored,
        p.record (runFrom (Disk.read disk) policy (size?.getD standard).toNat real paths stored).result) := by
      simp only [ran, p, Pipeline.run, run, hpolicy, hstandard, if_neg (by omega : ¬ size?.getD standard < 1),
        hreal]
    obtain ⟨events, f, hflies, hends⟩ := exists_flies_ends hpos real paths stored
    rw [hrun]
    exact fails hflies _ hends
  · intro events s f hflies
    have bound := (hflies.length_add_work_le hpos).2
    rw [Flight.work_start, targets, List.length_map] at bound
    exact ⟨by omega, exists_advance_or_ends s f, fails hflies⟩

/-! ### An example -/

/-- A missing file between two others, in batches of one: the file before it is stored and the one behind it is
not, in any interleaving, and the pipeline still has the statistics of the run before. -/
theorem failure_leaves_sound_store_on_grownTree :
    let x : Target := ⟨.ofText "/p/a/x.py", .ofText "x.py"⟩
    let z : Target := ⟨.ofText "/p/a/z.py", .ofText "z.py"⟩
    let y : Target := ⟨.ofText "/p/a/y.py", .ofText "y.py"⟩
    let earlier : List (Except Fault (Findings × Statistics)) := [.ok ([], { files := 2 }), .error (.unnamable .null)]
    let ran := (earlier.foldl Pipeline.record {}).run grownTree (some 1) (.ofText "/p/a")
      [.ofText "x.py", .ofText "z.py", .ofText "y.py"] .empty
    (∃ failure, ran.1.result = .error (.unreadable failure)) ∧ ran.2.last = some { files := 2 }
      ∧ ∀ events s f, Flies (Disk.read grownTree) (.empty, .start .excludeImports 1 [x, z, y]) events (s, f) →
        ∀ result, f.Ends (Disk.read grownTree) result → (∃ failure, result = .error (.unreadable failure))
          ∧ (s.fingerprint? x.key).isSome = true ∧ y.HasSameRow s .empty := by
  intro x z y earlier ran
  have root : (Disk.resolve grownTree (.ofText "/p/a")).toOption.any (fun p => p = .ofText "/p/a") = true := by
    decide +kernel
  obtain ⟨real, hreal, hroot⟩ := exists_eq_ok_of_any root
  obtain rfl := of_decide_eq_true hroot
  have list : targets (.ofText "/p/a") [.ofText "x.py", .ofText "z.py", .ofText "y.py"] = [x, z, y] := by
    decide +kernel
  have first : x.IsReadable (Disk.read grownTree) := by
    have bytes : (Disk.read grownTree x.path).toOption.any (fun _ => true) = true := by decide +kernel
    obtain ⟨content, hcontent, -⟩ := exists_eq_ok_of_any bytes
    exact ⟨by decide +kernel, content, hcontent⟩
  have plain : Disk.refusal? z.path = none := by decide +kernel
  have missing : ¬ z.IsReadable (Disk.read grownTree) := by
    have bytes : (Disk.read grownTree z.path).toOption.any (fun _ => true) = false := by decide +kernel
    rintro ⟨-, content, hcontent⟩
    rw [hcontent] at bytes
    cases bytes
  have apart : AreApart [x, z, y] := by decide +kernel
  obtain ⟨alone, any⟩ := @failure_leaves_sound_store grownTree .excludeImports standardSize (some 1) (by decide)
    _ _ hreal [.ofText "x.py", .ofText "z.py", .ofText "y.py"] [[x]] [[y]] [z] (by rw [list]; rfl)
    (by simpa using first) ⟨z, List.mem_singleton_self z, missing⟩ (list ▸ apart) earlier .empty
  have fault : ∀ {result : Except Fault (Findings × Statistics)}, (∃ t ∈ [z], ∃ fault,
      t.FailsWith (Disk.read grownTree) fault ∧ result = .error fault) →
        ∃ failure, result = .error (.unreadable failure) := by
    rintro result ⟨t, ht, fault, hfails, rfl⟩
    obtain rfl := List.mem_singleton.1 ht
    rcases hfails with ⟨refusal, hrefusal, -⟩ | ⟨-, failure, -, rfl⟩
    · rw [plain] at hrefusal
      cases hrefusal
    · exact ⟨failure, rfl⟩
  refine ⟨fault alone.fault, alone.last, fun events s f hflies result hends => ?_⟩
  rw [← list] at hflies
  obtain ⟨hfault, hrows, -⟩ := (any events s f hflies).2.2 result hends
  refine ⟨fault hfault, ?_, hrows.unchanged y (by simp) (by decide +kernel) (by decide +kernel)⟩
  obtain ⟨_, fingerprint, -, hrow⟩ := hrows.current x (by simp)
  exact Option.isSome_iff_exists.2 ⟨fingerprint, hrow⟩

end SourceAtlas.Analysis
