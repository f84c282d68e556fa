import SourceAtlas.Proofs.Analysis.Clearing
import SourceAtlas.Proofs.Analysis.History
import SourceAtlas.Proofs.Store.Guard
import SourceAtlas.Proofs.Store.Hits

/-!
Rows that cannot be read heal. Whoever asks for such a row in a run finds it unreadable, until a file with its
stored key has been extracted and overwrites it. From then on it is the row of a file that has been extracted from
what the run has read. Hence a run over a file whose row cannot be read leaves a row under which its chunks are found
again.

Main statement: `unreadable_row_heals`.
-/

namespace SourceAtlas.Analysis

variable {policy : Policy} {read : Path → Except Disk.Failure Bytes}

/-! ## Before the row is overwritten -/

/-- Of the files with this stored key none has been handled, and those that were asked for got this answer and
have been extracted. -/
def Task.AwaitsRow (key : Text) (answer : Answer) (events : List Event) (task : Task) : Prop :=
  Store.storageKey task.target.key = key →
    match task.stage with
    | .missed source fingerprint own => own = answer ∧ .extracted task.target source fingerprint ∈ events
    | .finished _ => False
    | _ => True

/-- A run has not stored anything under a key yet. -/
structure IsUntouched (key : Text) (answer : Answer) (stored : Store) (events : List Event) (s : Store)
    (f : Flight) : Prop where
  row_eq : s.row? key = stored.row? key
  tasks : ∀ task ∈ f.tasks, task.AwaitsRow key answer events

theorem Task.AwaitsRow.snoc {key : Text} {answer : Answer} {events : List Event} {task : Task}
    (h : task.AwaitsRow key answer events) (e : Event) : task.AwaitsRow key answer (events ++ [e]) := by
  intro hkey
  have before := h hkey
  obtain ⟨target, stage⟩ := task
  cases stage with
  | missed source fingerprint own => exact ⟨before.1, List.mem_append_left [e] before.2⟩
  | _ => exact before

/-- A row that cannot be read answers nothing, and that is told. -/
theorem answerTo_of_unreadable {s : Store} {path payload : Text} {fault : Payload.Fault}
    (h : s.get path = .unreadable payload fault) (fingerprint : Text) :
    answerTo fingerprint (s.get path) = (none, .unreadable payload fault) := by
  rw [h]
  rfl

/-- A step leaves the row that cannot be read as it is, and whoever asks for it is answered so, or a file that
has been answered so overwrites it. -/
theorem Advance.isUntouched {stored s s' : Store} {f f' : Flight} {events : List Event} {e : Event} {t : Target}
    {payload : Text} {fault : Payload.Fault} (hget : stored.get t.key = .unreadable payload fault)
    (hadvance : Advance read (s, f) e (s', f'))
    (h : IsUntouched (Store.storageKey t.key) (.unreadable payload fault) stored events s f) :
    IsUntouched (Store.storageKey t.key) (.unreadable payload fault) stored (events ++ [e]) s' f'
      ∨ ∃ u source fingerprint, Store.storageKey u.key = Store.storageKey t.key ∧ e = .kept u
        ∧ .extracted u source fingerprint ∈ events
        ∧ ⟨u, .missed source fingerprint (.unreadable payload fault)⟩ ∈ f.tasks
        ∧ ⟨u, .finished ⟨u.key, u.shown.toText, .unreadable payload fault, extract f.policy u.shown source⟩⟩
          ∈ f'.tasks
        ∧ s' = s.put u.key fingerprint (extract f.policy u.shown source) := by
  have grown := fun task htask => (h.tasks task htask).snoc e
  -- what a file with this key finds is the row of the launch
  have found {u : Target} (hu : Store.storageKey u.key = Store.storageKey t.key) (fingerprint : Text) :
      answerTo fingerprint (s.get u.key) = (none, .unreadable payload fault) := by
    refine answerTo_of_unreadable ?_ fingerprint
    rw [Store.get_congr hu, Store.get_eq_of_row?_eq h.row_eq, hget]
  cases hadvance with
  | load hat hcontent => exact .inl ⟨h.row_eq, Flight.forall_tasks_move grown fun _ => trivial⟩
  | find hat hanswer =>
    refine .inl ⟨h.row_eq, Flight.forall_tasks_move grown fun hu => ?_⟩
    rw [found hu] at hanswer
    cases hanswer
  | miss hat hanswer =>
    refine .inl ⟨h.row_eq, Flight.forall_tasks_move grown fun hu => ?_⟩
    rw [found hu] at hanswer
    exact ⟨(Prod.mk.inj hanswer).2.symm, List.mem_append_right _ (List.mem_singleton.2 rfl)⟩
  | @keep _ _ _ u source fingerprint answer hat =>
    by_cases hu : Store.storageKey u.key = Store.storageKey t.key
    · obtain ⟨rfl, hextracted⟩ := h.tasks _ (Flight.mem_tasks_of_at hat) hu
      exact .inr ⟨u, source, fingerprint, hu, rfl, hextracted, Flight.mem_tasks_of_at hat,
        Flight.mem_tasks_of_at (Flight.at_move_self hat), rfl⟩
    · exact .inl ⟨(Store.row?_put_of_ne (Ne.symm hu) _ _ _).trans h.row_eq,
        Flight.forall_tasks_move grown fun hkey => absurd hkey hu⟩
  | next _ _ => exact .inl ⟨h.row_eq, grown⟩

/-! ## After the row has been overwritten -/

/-- The row under a key is a fresh row of one of these files. -/
def HasFreshRow (policy : Policy) (read : Path → Except Disk.Failure Bytes) (list : List Target) (key : Text)
    (s : Store) : Prop :=
  ∃ w ∈ list, Store.storageKey w.key = key ∧ ∃ r, s.row? key = some r ∧ IsFreshRow policy read w r

/-- A put of what has been extracted makes a fresh row. -/
theorem hasFreshRow_put {list : List Target} {w : Target} (hw : w ∈ list) {source fingerprint : Text}
    (hcontent : content read w.path = .ok (source, fingerprint)) (s : Store) :
    HasFreshRow policy read list (Store.storageKey w.key)
      (s.put w.key fingerprint (extract policy w.shown source)) :=
  ⟨w, hw, rfl, _, Store.row?_put_self _ _ _ _, source, fingerprint, hcontent, rfl⟩

/-- No step of a run takes a fresh row away. -/
theorem Advance.hasFreshRow {s s' : Store} {f f' : Flight} {e : Event} {key : Text}
    (hadvance : Advance read (s, f) e (s', f')) (hcurrent : ∀ task ∈ f.tasks, task.IsCurrent read)
    (h : HasFreshRow f.policy read f.targets key s) : HasFreshRow f.policy read f.targets key s' := by
  cases hadvance with
  | @keep _ _ _ u source fingerprint answer hat =>
    by_cases hu : Store.storageKey u.key = key
    · subst hu
      exact hasFreshRow_put (Flight.mem_targets_of_at hat) (hcurrent _ (Flight.mem_tasks_of_at hat)) s
    · obtain ⟨w, hw, hkey, r, hrow, hfresh⟩ := h
      exact ⟨w, hw, hkey, r, (Store.row?_put_of_ne (Ne.symm hu) _ _ _).trans hrow, hfresh⟩
  | _ => exact h

/-! ## Runs -/

/-- A run has healed the row of a file: while the row was still the one of the launch, the file was extracted since
it got this answer, and it overwrote the row. Then its chunks were found under its fingerprint. -/
inductive Heals (policy : Policy) (read : Path → Except Disk.Failure Bytes) (x : Store × Flight) (answer : Answer)
    (u : Target) (source fingerprint : Text) : List Event → Store × Flight → Prop
  | intro {before after : List Event} {s₁ s₂ : Store} {f₁ f₂ : Flight} {y : Store × Flight}
      (hbefore : Flies read x before (s₁, f₁)) (hsame : u.HasSameRow s₁ x.1)
      (hextracted : .extracted u source fingerprint ∈ before)
      (hkept : Advance read (s₁, f₁) (.kept u) (s₂, f₂))
      (hlookup : s₂.lookup u.key fingerprint = some ((extract policy u.shown source).map Chunk.joined))
      (hafter : Flies read (s₂, f₂) after y)
      (hvisit : ⟨u, .finished ⟨u.key, u.shown.toText, answer, extract policy u.shown source⟩⟩ ∈ y.2.tasks) :
      Heals policy read x answer u source fingerprint (before ++ [.kept u] ++ after) y

/-- What has been extracted into the row of a path is found under its fingerprint, with the pairs in the strings of
its chunks joined. -/
theorem lookup_of_row? {s : Store} {path source fingerprint : Text} {shown : Path}
    (hrow : s.row? (Store.storageKey path)
      = some ⟨Store.storageKey path, fingerprint, Payload.write (extract policy shown source)⟩) :
    s.lookup path fingerprint = some ((extract policy shown source).map Chunk.joined) :=
  Store.lookup_eq_some_iff.2 ⟨_, hrow, Payload.read_write fun _ => wellTyped_of_mem_extract⟩

/-- A step of a run keeps what a file has come to that has been handled. -/
theorem Advance.mem_finished {s s' : Store} {f f' : Flight} {e : Event} (h : Advance read (s, f) e (s', f'))
    {u : Target} {v : Visit} (hv : ⟨u, .finished v⟩ ∈ f.tasks) : ⟨u, .finished v⟩ ∈ f'.tasks := by
  have kept {i : Nat} {target : Target} {stage other : Stage} (hat : f.At i target stage)
      (hopen : (Task.mk target stage).visit? = none) : ⟨u, .finished v⟩ ∈ (f.move i target other).tasks := by
    obtain ⟨j, hj⟩ := List.mem_iff_getElem?.1 hv
    have apart : i ≠ j := by
      rintro rfl
      rw [Option.some.inj (hat.2.symm.trans hj)] at hopen
      cases hopen
    refine List.mem_of_getElem? (i := j) ?_
    rw [Flight.move, List.getElem?_set_ne apart, hj]
  cases h with
  | load hat _ => exact kept hat rfl
  | find hat _ => exact kept hat rfl
  | miss hat _ => exact kept hat rfl
  | keep hat => exact kept hat rfl
  | next _ _ => exact hv

/-- A run keeps its policy. -/
theorem Flies.policy_eq {x y : Store × Flight} {events : List Event} (h : Flies read x events y) :
    y.2.policy = x.2.policy := by
  induction h with
  | refl => rfl
  | snoc _ last ih =>
    rw [← ih]
    cases last with
    | _ => rfl

/-- A run that begins over files of which one has a row that cannot be read leaves this row as it is until a file
heals it, and then has a fresh row in its place. -/
theorem Flies.isUntouched_or_heals {stored : Store} {start : Flight} {events : List Event} {y : Store × Flight}
    (h : Flies read (stored, start) events y) (hwaiting : ∀ task ∈ start.tasks, task.stage = .waiting) {t : Target}
    {payload : Text} {fault : Payload.Fault} (hget : stored.get t.key = .unreadable payload fault) :
    IsUntouched (Store.storageKey t.key) (.unreadable payload fault) stored events y.1 y.2
      ∨ (∃ u ∈ start.targets, Store.storageKey u.key = Store.storageKey t.key ∧ ∃ source fingerprint,
          content read u.path = .ok (source, fingerprint)
          ∧ Heals start.policy read (stored, start) (.unreadable payload fault) u source fingerprint events y)
        ∧ HasFreshRow start.policy read start.targets (Store.storageKey t.key) y.1 := by
  induction h with
  | refl =>
    refine .inl ⟨rfl, fun task htask _ => ?_⟩
    rw [hwaiting task htask]
    trivial
  | @snoc y z events e before last ih =>
    have current := before.isCurrent hwaiting
    have targets := before.targets_eq
    have policy := before.policy_eq
    obtain ⟨s, f⟩ := y
    obtain ⟨s', f'⟩ := z
    dsimp only at ih current targets policy
    rcases ih with huntouched | ⟨⟨u, hu, hkey, source, fingerprint, hcontent, hheals⟩, hfresh⟩
    · rcases last.isUntouched hget huntouched with hagain
        | ⟨u, source, fingerprint, hkey, rfl, hextracted, hmissed, hfinished, rfl⟩
      · exact .inl hagain
      -- this file is the first to overwrite the row
      · have hcontent : content read u.path = .ok (source, fingerprint) := current.2.1 _ hmissed
        have hu : u ∈ start.targets := targets ▸ List.mem_map.2 ⟨_, hmissed, rfl⟩
        rw [policy] at hfinished last ⊢
        refine .inr ⟨⟨u, hu, hkey, source, fingerprint, hcontent, ?_⟩, hkey ▸ hasFreshRow_put hu hcontent s⟩
        have same : u.HasSameRow s stored := by
          rw [Target.HasSameRow, hkey]
          exact huntouched.row_eq
        have heals := Heals.intro before same hextracted last (lookup_of_row? (Store.row?_put_self _ _ _ _))
          (.refl _) hfinished
        rwa [List.append_nil] at heals
    -- the row has been overwritten, and what overwrites it again is fresh as well
    · have fresh := last.hasFreshRow current.2.1 (by rwa [policy, targets])
      rw [policy, targets] at fresh
      refine .inr ⟨⟨u, hu, hkey, source, fingerprint, hcontent, ?_⟩, fresh⟩
      obtain ⟨hbefore, hsame, hextracted, hkept, hlookup, hafter, hvisit⟩ := hheals
      rw [List.append_assoc]
      exact .intro hbefore hsame hextracted hkept hlookup (hafter.snoc last) (last.mem_finished hvisit)

/-- Whatever text a row holds, it does not get in the way: no lookup passes an error on, and a run over readable files
is completed. If the row of a file cannot be read, then a run over the file, in any interleaving, takes the row for
a miss, extracts and overwrites it, after which the chunks extracted are found, with the pairs of surrogates in
their strings joined. The file that does so and the file whose row is there in the end are this file, unless
other files of the run have its stored key. -/
theorem unreadable_row_heals {disk : Disk} {exclusions : Scan.Exclusions} {size : Int} {root : Path}
    {start : Flight} (hlaunch : launch? .excludeImports disk exclusions size root = some start) {s : Store}
    {t : Target} (ht : t ∈ start.targets) {payload : Text} {fault : Payload.Fault}
    (hget : s.get t.key = .unreadable payload fault) :
    (∀ (any : Store) (path fingerprint : Text), any.getUnder Store.guarded path = .ok (any.get path)
      ∧ any.lookupUnder Store.guarded path fingerprint = .ok (any.lookup path fingerprint))
    ∧ ((∀ u ∈ start.targets, u.IsReadable (Disk.read disk)) → ∃ result events f,
        (directory disk exclusions size root s).result = .ok result
        ∧ Flies (Disk.read disk) (s, start) events ((directory disk exclusions size root s).store, f)
        ∧ f.landing? = some result)
    ∧ ∀ events s' f, Flies (Disk.read disk) (s, start) events (s', f) → f.landing?.isSome = true →
      (∃ u ∈ start.targets, Store.storageKey u.key = Store.storageKey t.key ∧ ∃ source fingerprint,
        content (Disk.read disk) u.path = .ok (source, fingerprint)
        ∧ Heals .excludeImports (Disk.read disk) (s, start) (.unreadable payload fault) u source fingerprint
          events (s', f))
      ∧ ∃ w ∈ start.targets, Store.storageKey w.key = Store.storageKey t.key ∧ ∃ source fingerprint,
        content (Disk.read disk) w.path = .ok (source, fingerprint)
        ∧ s'.lookup t.key fingerprint = some ((extract .excludeImports w.shown source).map Chunk.joined)
        ∧ ((extract .excludeImports w.shown source).map Chunk.joined = extract .excludeImports w.shown source
          ↔ ∀ c ∈ extract .excludeImports w.shown source, c.PairFree) := by
  obtain ⟨listing, real, -, -, -, hstart⟩ := launch?_eq_some_iff.1 hlaunch
  have waiting : ∀ task ∈ start.tasks, task.stage = .waiting := by
    rw [hstart]
    exact Flight.forall_tasks_start (fun _ => rfl) _ _ _
  have hpolicy : start.policy = .excludeImports := by rw [hstart]; rfl
  refine ⟨fun any path fingerprint => ⟨any.getUnder_guarded path, any.lookupUnder_guarded path fingerprint⟩,
    fun hreadable => ?_, fun events s' f hflies hland => ?_⟩
  · obtain ⟨result, hresult⟩ := exists_result_of_contents hlaunch (fun u hu => (hreadable u hu).exists_content) s
    obtain ⟨start', events, f, hagain, hflies, hland⟩ := exists_flies_of_directory hresult
    obtain rfl := Option.some.inj (hlaunch.symm.trans hagain)
    exact ⟨result, events, f, hresult, hflies, hland⟩
  · have htargets : f.targets = start.targets := hflies.targets_eq
    have outcome := hflies.isUntouched_or_heals waiting hget
    rw [hpolicy] at outcome
    rcases outcome with huntouched | ⟨hheals, w, hw, hkey, r, hrow, source, fingerprint, hcontent, rfl⟩
    -- the file has been handled, so that its row is not untouched
    · obtain ⟨found, hfound⟩ := Option.isSome_iff_exists.1 hland
      obtain ⟨v, hv⟩ := Flight.exists_visit_of_landing hfound (htargets ▸ ht)
      exact absurd (huntouched.tasks _ hv rfl) id
    · refine ⟨hheals, w, hw, hkey, source, fingerprint, hcontent, ?_,
        Payload.map_joined_eq_self_iff fun c => wellTyped_of_mem_extract⟩
      exact lookup_of_row? (hkey ▸ hrow)

/-! ### An example -/

/-- A store whose one row has the fingerprint of a file, and no text where its chunks should be. -/
def ailingStore : Store := Store.empty.insert ⟨"/p/a/x.py", "3576a3eb86b42f17", []⟩

/-- The row of the file cannot be read, and a run over a directory around it heals it. -/
theorem unreadable_row_heals_on_innerTree :
    (∃ fault, ailingStore.get "/p/a/x.py" = .unreadable [] fault)
    ∧ ∃ result, (directory innerTree ⟨[], false⟩ 50 (.ofText "/p") ailingStore).result = .ok result
      ∧ ∃ chunks, chunks.length = 1
        ∧ (directory innerTree ⟨[], false⟩ 50 (.ofText "/p") ailingStore).store.lookup "/p/a/x.py" "3576a3eb86b42f17"
          = some chunks := by
  let t : Target := ⟨.ofText "/p/a/x.py", .ofText "a/x.py"⟩
  have list : (launch? .excludeImports innerTree ⟨[], false⟩ 50 (.ofText "/p")).map Flight.targets = some [t] := by
    decide +kernel
  obtain ⟨start, hlaunch, htargets⟩ := Option.map_eq_some_iff.1 list
  have key : t.key = "/p/a/x.py" := by decide +kernel
  have hcontent : content (Disk.read innerTree) t.path = .ok ("def f(): pass\n", "3576a3eb86b42f17") :=
    eq_ok_of_any (by decide +kernel)
  have readable : ∀ u ∈ start.targets, u.IsReadable (Disk.read innerTree) := by
    have bytes : (Disk.read innerTree t.path).toOption.any (fun _ => true) = true := by decide +kernel
    obtain ⟨content, hcontent, -⟩ := exists_eq_ok_of_any bytes
    rw [htargets, List.forall_mem_singleton]
    exact ⟨by decide +kernel, content, hcontent⟩
  have hget : ∃ fault, ailingStore.get t.key = .unreadable [] fault := by
    rw [key]
    exact ⟨_, rfl⟩
  obtain ⟨fault, hget⟩ := hget
  have ht : t ∈ start.targets := htargets ▸ List.mem_singleton_self t
  obtain ⟨-, completes, heals⟩ := unreadable_row_heals hlaunch ht hget
  obtain ⟨result, events, f, hresult, hflies, hland⟩ := completes readable
  obtain ⟨-, w, hw, -, source, fingerprint, hw', hlookup, -⟩ := heals events _ f hflies (by rw [hland]; rfl)
  rw [htargets, List.mem_singleton] at hw
  subst hw
  rw [hcontent] at hw'
  obtain ⟨rfl, rfl⟩ := Prod.mk.inj (Except.ok.inj hw')
  rw [key] at hlookup hget
  have one : (extract .excludeImports t.shown "def f(): pass\n").length = 1 := by decide +kernel
  exact ⟨⟨fault, hget⟩, result, hresult, _, by rw [List.length_map, one], hlookup⟩

end SourceAtlas.Analysis
