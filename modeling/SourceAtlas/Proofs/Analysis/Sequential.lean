import SourceAtlas.Proofs.Analysis.Flight
import SourceAtlas.Proofs.Except

/-!
Runs that handle one file after another are flights: what they return and store is what one particular
interleaving of their steps comes to, whether they are completed or fail. Whether they are completed depends on
the files alone, not on the store.

Main statements: `exists_flies_ends`, `exists_flies_of_directory`, `exists_result_of_contents`.
-/

namespace SourceAtlas.Analysis

variable {read : Path → Except Disk.Failure Bytes}

/-! ## Runs of one file after another -/

/-- Tasks that have all been handled. -/
def handled (targets : List Target) (visits : List Visit) : List Task :=
  List.zipWith (fun target v => ⟨target, .finished v⟩) targets visits

/-- A file whose entry has its fingerprint is answered from the store, which stays as it is. -/
theorem visit_of_hit {policy : Policy} {s : Store} {target : Target} {source fingerprint : Text}
    {chunks : List Chunk} {answer : Answer} (hcontent : content read target.path = .ok (source, fingerprint))
    (hanswer : answerTo fingerprint (s.get target.key) = (some chunks, answer)) :
    visit read policy s target = .ok (⟨target.key, target.shown.toText, answer, chunks⟩, s) := by
  rw [visit, hcontent]
  dsimp only [bind, Except.bind]
  rw [hanswer]
  rfl

/-- Any other file is extracted and put. -/
theorem visit_of_miss {policy : Policy} {s : Store} {target : Target} {source fingerprint : Text}
    {answer : Answer} (hcontent : content read target.path = .ok (source, fingerprint))
    (hanswer : answerTo fingerprint (s.get target.key) = (none, answer)) :
    visit read policy s target
      = .ok (⟨target.key, target.shown.toText, answer, extract policy target.shown source⟩,
        s.put target.key fingerprint (extract policy target.shown source)) := by
  rw [visit, hcontent]
  dsimp only [bind, Except.bind]
  rw [hanswer]
  rfl

/-- Handling one file is a flight of two or three steps. -/
theorem exists_flies_of_visit {s after : Store} {f : Flight}
    {i : Nat} {target : Target} {v : Visit} (hat : f.At i target .waiting)
    (h : visit read f.policy s target = .ok (v, after)) :
    ∃ events, Flies read (s, f) events (after, f.move i target (.finished v)) := by
  cases hcontent : content read target.path with
  | error fault =>
    rw [visit, hcontent] at h
    cases h
  | ok pair =>
    obtain ⟨source, fingerprint⟩ := pair
    have load := Flies.single (Advance.load (s := s) hat hcontent)
    have hloaded : (f.move i target (.loaded source fingerprint)).At i target _ := Flight.at_move_self hat
    rcases hanswer : answerTo fingerprint (s.get target.key) with ⟨_ | chunks, answer⟩
    · rw [visit_of_miss hcontent hanswer] at h
      obtain ⟨rfl, rfl⟩ := Prod.mk.inj (Except.ok.inj h)
      have miss := load.snoc (.miss hloaded hanswer)
      have keep := miss.snoc (.keep (Flight.at_move_self hloaded))
      rw [Flight.move_move, Flight.move_move] at keep
      exact ⟨_, keep⟩
    · rw [visit_of_hit hcontent hanswer] at h
      obtain ⟨rfl, rfl⟩ := Prod.mk.inj (Except.ok.inj h)
      have find := load.snoc (.find hloaded hanswer)
      rw [Flight.move_move] at find
      exact ⟨_, find⟩

/-- If all files are handled, the first one is, and then the others. -/
theorem visitAll_cons_ok {policy : Policy} {s : Store}
    {target : Target} {rest : List Target} (h : (visitAll read policy s (target :: rest)).fault.isNone = true) :
    ∃ v after, visit read policy s target = .ok (v, after)
      ∧ (visitAll read policy after rest).fault.isNone = true
      ∧ (visitAll read policy s (target :: rest)).store = (visitAll read policy after rest).store
      ∧ (visitAll read policy s (target :: rest)).visits = v :: (visitAll read policy after rest).visits := by
  rw [visitAll] at h ⊢
  cases hv : visit read policy s target with
  | error fault =>
    rw [hv] at h
    cases h
  | ok pair =>
    obtain ⟨v, after⟩ := pair
    rw [hv] at h
    exact ⟨v, after, rfl, h, rfl, rfl⟩

/-- Every file has a visit if nothing failed. -/
theorem length_visitAll {policy : Policy} {s : Store}
    {targets : List Target} (h : (visitAll read policy s targets).fault.isNone = true) :
    (visitAll read policy s targets).visits.length = targets.length := by
  induction targets generalizing s with
  | nil => rfl
  | cons target rest ih =>
    obtain ⟨v, after, -, hrest, -, hvisits⟩ := visitAll_cons_ok h
    rw [hvisits, List.length_cons, List.length_cons, ih hrest]

/-- Handling the files of a batch is a flight. -/
theorem exists_flies_of_visitAll {policy : Policy} {size opened : Nat}
    {s : Store} {batch : List Target} (front back : List Task)
    (hopened : front.length + batch.length ≤ opened)
    (h : (visitAll read policy s batch).fault.isNone = true) :
    ∃ events, Flies read
      (s, ⟨policy, size, front ++ batch.map (fun target => ⟨target, .waiting⟩) ++ back, opened⟩) events
      ((visitAll read policy s batch).store,
        ⟨policy, size, front ++ handled batch (visitAll read policy s batch).visits ++ back, opened⟩) := by
  induction batch generalizing s front with
  | nil => exact ⟨[], .refl _⟩
  | cons target rest ih =>
    obtain ⟨v, after, hv, hrest, hstore, hvisits⟩ := visitAll_cons_ok h
    rw [List.length_cons] at hopened
    have hat : Flight.At ⟨policy, size,
        front ++ (target :: rest).map (fun target => ⟨target, .waiting⟩) ++ back, opened⟩ front.length target
        .waiting := by
      refine ⟨by change front.length < opened; omega, ?_⟩
      simp
    obtain ⟨first, hfirst⟩ := exists_flies_of_visit hat hv
    have moved : Flight.move ⟨policy, size,
        front ++ (target :: rest).map (fun target => ⟨target, .waiting⟩) ++ back, opened⟩ front.length target
        (.finished v) = ⟨policy, size,
          (front ++ [⟨target, .finished v⟩]) ++ rest.map (fun target => ⟨target, .waiting⟩) ++ back,
          opened⟩ := by
      simp [Flight.move, List.set_append_right]
    rw [moved] at hfirst
    obtain ⟨more, hmore⟩ := ih (front ++ [⟨target, .finished v⟩])
      (by rw [List.length_append, List.length_singleton]; omega) hrest
    refine ⟨first ++ more, ?_⟩
    have joined : front ++ handled (target :: rest) (v :: (visitAll read policy after rest).visits) ++ back
        = (front ++ [⟨target, .finished v⟩]) ++ handled rest (visitAll read policy after rest).visits
          ++ back := by
      simp [handled]
    rw [hstore, hvisits, joined]
    exact hfirst.trans hmore

/-- If all batches are handled, the first one is, and then the others. -/
theorem visitBatches_cons_ok {policy : Policy} {s : Store}
    {batch : List Target} {rest : List (List Target)}
    (h : (visitBatches read policy s (batch :: rest)).fault.isNone = true) :
    (visitAll read policy s batch).fault.isNone = true
      ∧ (visitBatches read policy (visitAll read policy s batch).store rest).fault.isNone = true
      ∧ (visitBatches read policy s (batch :: rest)).store
        = (visitBatches read policy (visitAll read policy s batch).store rest).store
      ∧ (visitBatches read policy s (batch :: rest)).visits = (visitAll read policy s batch).visits
        ++ (visitBatches read policy (visitAll read policy s batch).store rest).visits := by
  rw [visitBatches] at h ⊢
  cases hfault : (visitAll read policy s batch).fault with
  | some fault =>
    simp only [hfault] at h
    cases h
  | none =>
    simp only [hfault] at h ⊢
    exact ⟨rfl, h, trivial, trivial⟩

theorem visit?_of_mem_handled {targets : List Target} {visits : List Visit} {task : Task}
    (h : task ∈ handled targets visits) : task.visit?.isSome = true := by
  obtain ⟨i, hi, rfl⟩ := List.mem_iff_getElem.1 h
  simp [handled, Task.visit?]

/-- As many files are handled as there are visits. -/
theorem length_handled {targets : List Target} {visits : List Visit} (h : visits.length = targets.length) :
    (handled targets visits).length = targets.length := by
  rw [handled, List.length_zipWith, h, Nat.min_self]

/-- The next batch can be opened once all files before it have been handled. -/
theorem advance_opened {policy : Policy} {size : Nat} {s : Store} {front : List Task} {rest : List Target}
    (hrest : rest ≠ []) (hfront : ∀ task ∈ front, task.visit?.isSome = true) :
    Advance read
      (s, ⟨policy, size, front ++ rest.map (fun target => ⟨target, .waiting⟩), front.length⟩) .opened
      (s, ⟨policy, size, front ++ rest.map (fun target => ⟨target, .waiting⟩), front.length + size⟩) := by
  refine Advance.next (f := ⟨policy, size, _, front.length⟩) ?_ ?_
  · rw [List.take_left]
    exact hfront
  · change front.length < _
    have nonempty := List.length_pos_iff.2 hrest
    rw [List.length_append, List.length_map]
    omega

/-- Opening the next batch and handling its files is a flight, once all files before it have been handled. -/
theorem exists_flies_of_batch {policy : Policy} {size : Nat} {s : Store} {rest : List Target}
    (front : List Task) (hrest : rest ≠ []) (hfront : ∀ task ∈ front, task.visit?.isSome = true)
    (h : (visitAll read policy s (rest.take size)).fault.isNone = true) :
    ∃ events, Flies read
      (s, ⟨policy, size, front ++ rest.map (fun target => ⟨target, .waiting⟩), front.length⟩) events
      ((visitAll read policy s (rest.take size)).store, ⟨policy, size,
        front ++ handled (rest.take size) (visitAll read policy s (rest.take size)).visits
          ++ (rest.drop size).map (fun target => ⟨target, .waiting⟩), front.length + size⟩) := by
  have split : front ++ rest.map (fun target => (⟨target, .waiting⟩ : Task))
      = front ++ (rest.take size).map (fun target => ⟨target, .waiting⟩)
        ++ (rest.drop size).map fun target => ⟨target, .waiting⟩ := by
    rw [List.append_assoc, ← List.map_append, List.take_append_drop]
  have within : front.length + (rest.take size).length ≤ front.length + size := by
    rw [List.length_take]
    omega
  obtain ⟨events, hevents⟩ := exists_flies_of_visitAll front
    ((rest.drop size).map fun target => ⟨target, .waiting⟩) within h
  rw [← split] at hevents
  exact ⟨[.opened] ++ events, (Flies.single (advance_opened hrest hfront)).trans hevents⟩

/-- Handling batches one after another is a flight, and every file has a visit. -/
theorem exists_flies_of_visitBatches {policy : Policy}
    {size fuel : Nat} {s : Store} {rest : List Target} (front : List Task) (opened : Nat) (hsize : 0 < size)
    (hfuel : rest.length ≤ fuel) (hfront : ∀ task ∈ front, task.visit?.isSome = true)
    (hopened : rest ≠ [] → opened = front.length)
    (h : (visitBatches read policy s (batchesFrom size fuel rest)).fault.isNone = true) :
    (visitBatches read policy s (batchesFrom size fuel rest)).visits.length = rest.length
      ∧ ∃ events last, Flies read
        (s, ⟨policy, size, front ++ rest.map (fun target => ⟨target, .waiting⟩), opened⟩) events
        ((visitBatches read policy s (batchesFrom size fuel rest)).store, ⟨policy, size,
          front ++ handled rest (visitBatches read policy s (batchesFrom size fuel rest)).visits, last⟩) := by
  induction fuel generalizing s rest front opened with
  | zero =>
    obtain rfl := List.length_eq_zero_iff.1 (Nat.le_zero.1 hfuel)
    exact ⟨rfl, [], opened, .refl _⟩
  | succ fuel ih =>
    by_cases hrest : rest = []
    · subst hrest
      exact ⟨rfl, [], opened, .refl _⟩
    · have cut : batchesFrom size (fuel + 1) rest
          = rest.take size :: batchesFrom size fuel (rest.drop size) :=
        if_neg (by simpa using hrest)
      rw [cut] at h ⊢
      obtain ⟨hbatch, hmore, hstore, hvisits⟩ := visitBatches_cons_ok h
      have length := length_visitAll hbatch
      have nonempty := List.length_pos_iff.2 hrest
      obtain rfl := hopened hrest
      obtain ⟨first, hfirst⟩ := exists_flies_of_batch front hrest hfront hbatch
      -- the other batches follow, in front of them the files handled so far
      have hfront' : ∀ task ∈ front
          ++ handled (rest.take size) (visitAll read policy s (rest.take size)).visits,
          task.visit?.isSome = true := by
        rw [List.forall_mem_append]
        exact ⟨hfront, fun task htask => visit?_of_mem_handled htask⟩
      have hopened' : rest.drop size ≠ [] → front.length + size
          = (front ++ handled (rest.take size) (visitAll read policy s (rest.take size)).visits).length := by
        intro hne
        have := List.length_pos_iff.2 hne
        rw [List.length_drop] at this
        rw [List.length_append, length_handled length, List.length_take]
        omega
      obtain ⟨hlength, more, last, hlast⟩ := ih _ _ (by rw [List.length_drop]; omega) hfront' hopened' hmore
      refine ⟨?_, first ++ more, last, ?_⟩
      · rw [hvisits, List.length_append, length, hlength, List.length_take, List.length_drop]
        omega
      · have joined : handled rest ((visitAll read policy s (rest.take size)).visits
            ++ (visitBatches read policy (visitAll read policy s (rest.take size)).store
              (batchesFrom size fuel (rest.drop size))).visits)
            = handled (rest.take size) (visitAll read policy s (rest.take size)).visits
              ++ handled (rest.drop size) (visitBatches read policy
                (visitAll read policy s (rest.take size)).store
                (batchesFrom size fuel (rest.drop size))).visits := by
          rw [handled, handled, handled, ← List.zipWith_append length.symm, List.take_append_drop]
        rw [hstore, hvisits, joined, ← List.append_assoc front]
        exact hfirst.trans hlast

/-- The visits of the handled files are those that they were handled with. -/
theorem mapM_visit?_handled {targets : List Target} {visits : List Visit}
    (h : visits.length = targets.length) : (handled targets visits).mapM Task.visit? = some visits := by
  induction targets generalizing visits with
  | nil =>
    obtain rfl := List.length_eq_zero_iff.1 h
    rfl
  | cons target rest ih =>
    obtain ⟨v, more, rfl⟩ := List.exists_cons_of_length_eq_add_one h
    have tail := ih (by simpa using h)
    have first : handled (target :: rest) (v :: more) = ⟨target, .finished v⟩ :: handled rest more := rfl
    rw [first, List.mapM_cons, tail]
    rfl

/-- A run whose files have all been handled lands with what their visits come to. -/
theorem Flight.landing?_handled (policy : Policy) (size opened : Nat) {targets : List Target}
    {visits : List Visit} (h : visits.length = targets.length) :
    landing? ⟨policy, size, handled targets visits, opened⟩
      = some (collect visits, statistics targets.length visits) := by
  rw [landing?, visits?, mapM_visit?_handled h, length_handled h]
  rfl

/-- A run over files of a tree that is completed is a flight that lands with the same result. -/
theorem exists_flies_of_runFrom {policy : Policy} {size : Nat}
    {root : Path} {paths : List Path} {s : Store} {result : Findings × Statistics} (hsize : 0 < size)
    (h : (runFrom read policy size root paths s).result = .ok result) :
    ∃ events f, Flies read (s, .start policy size (targets root paths)) events
        ((runFrom read policy size root paths s).store, f) ∧ f.landing? = some result := by
  unfold runFrom at h ⊢
  dsimp only at h ⊢
  split at h
  · cases h
  · next hfault =>
    obtain ⟨hlength, events, last, hflies⟩ := exists_flies_of_visitBatches [] 0 hsize (Nat.le_refl _) (by simp)
      (fun _ => rfl) (Option.isNone_iff_eq_none.2 hfault)
    have landing := Flight.landing?_handled policy size last hlength
    have files : statistics (targets root paths).length = statistics paths.length := by
      rw [targets, List.length_map]
    rw [files] at landing
    exact ⟨events, _, hflies, landing.trans (congrArg some (Except.ok.inj h))⟩

/-! ## Runs that fail -/

/-- A file cannot be handled just because it cannot be read. -/
theorem content_of_visit_error {policy : Policy} {s : Store} {t : Target} {fault : Fault}
    (h : visit read policy s t = .error fault) : content read t.path = .error fault := by
  cases hcontent : content read t.path with
  | error other =>
    rw [visit, hcontent] at h
    exact congrArg Except.error (Except.error.inj h)
  | ok pair =>
    obtain ⟨source, fingerprint⟩ := pair
    rcases hanswer : answerTo fingerprint (s.get t.key) with ⟨_ | chunks, answer⟩
    · rw [visit_of_miss hcontent hanswer] at h
      cases h
    · rw [visit_of_hit hcontent hanswer] at h
      cases h

/-- The files before the first one that cannot be read are handled, and those behind it are not. -/
theorem exists_split_of_visitAll {policy : Policy} {s : Store} {list : List Target} {fault : Fault}
    (h : (visitAll read policy s list).fault = some fault) :
    ∃ front t back, list = front ++ t :: back ∧ content read t.path = .error fault
      ∧ (visitAll read policy s front).fault.isNone = true
      ∧ (visitAll read policy s front).store = (visitAll read policy s list).store := by
  induction list generalizing s with
  | nil => cases h
  | cons t rest ih =>
    cases hvisit : visit read policy s t with
    | error other =>
      rw [visitAll, hvisit] at h ⊢
      obtain rfl := Option.some.inj h
      exact ⟨[], t, rest, rfl, content_of_visit_error hvisit, rfl, rfl⟩
    | ok pair =>
      obtain ⟨v, after⟩ := pair
      rw [visitAll, hvisit] at h ⊢
      obtain ⟨front, u, back, rfl, hcontent, hnone, hstore⟩ := ih h
      refine ⟨t :: front, u, back, rfl, hcontent, ?_, ?_⟩
      · rw [visitAll, hvisit]
        exact hnone
      · rw [visitAll, hvisit]
        exact hstore

/-- A batch in which a file cannot be read is opened, and the files before this one are handled. -/
theorem exists_flies_of_failing_batch {policy : Policy} {size : Nat} {s : Store} {rest : List Target}
    {fault : Fault} (front : List Task) (hfront : ∀ task ∈ front, task.visit?.isSome = true)
    (h : (visitAll read policy s (rest.take size)).fault = some fault) :
    ∃ events f, Flies read
        (s, ⟨policy, size, front ++ rest.map (fun target => ⟨target, .waiting⟩), front.length⟩) events
        ((visitAll read policy s (rest.take size)).store, f)
      ∧ f.Ends read (.error fault) := by
  obtain ⟨handledFirst, t, back, hbatch, hcontent, hnone, hstore⟩ := exists_split_of_visitAll h
  have hrest : rest = handledFirst ++ t :: (back ++ rest.drop size) := by
    rw [← List.cons_append, ← List.append_assoc, ← hbatch, List.take_append_drop]
  have within : handledFirst.length < size := by
    have length := congrArg List.length hbatch
    rw [List.length_take, List.length_append, List.length_cons] at length
    omega
  have nonempty : rest ≠ [] := by
    intro hnil
    rw [hnil, List.take_nil] at hbatch
    cases handledFirst <;> cases hbatch
  have opened := Flies.single (@advance_opened read policy size s front rest nonempty hfront)
  obtain ⟨events, hevents⟩ := @exists_flies_of_visitAll read policy size (front.length + size) s handledFirst
    front ((t :: (back ++ rest.drop size)).map fun target => ⟨target, .waiting⟩) (by omega) hnone
  rw [List.append_assoc front, ← List.map_append, ← hrest] at hevents
  rw [← hstore]
  refine ⟨_, _, opened.trans hevents, .failed (i := front.length + handledFirst.length) ⟨?_, ?_⟩ hcontent⟩
  · show front.length + handledFirst.length < front.length + size
    omega
  · have place : front.length + handledFirst.length
        = (front ++ handled handledFirst (visitAll read policy s handledFirst).visits).length := by
      rw [List.length_append, length_handled (length_visitAll hnone)]
    rw [place, List.map_cons, List.getElem?_append_right (Nat.le_refl _), Nat.sub_self]
    rfl

/-- Batches are handled one after another up to the one in which a file cannot be read. -/
theorem exists_flies_of_failing_batches {policy : Policy} {size fuel : Nat} {s : Store} {rest : List Target}
    {fault : Fault} (front : List Task) (hfront : ∀ task ∈ front, task.visit?.isSome = true)
    (h : (visitBatches read policy s (batchesFrom size fuel rest)).fault = some fault) :
    ∃ events f, Flies read
        (s, ⟨policy, size, front ++ rest.map (fun target => ⟨target, .waiting⟩), front.length⟩) events
        ((visitBatches read policy s (batchesFrom size fuel rest)).store, f)
      ∧ f.Ends read (.error fault) := by
  induction fuel generalizing s rest front with
  | zero => cases h
  | succ fuel ih =>
    by_cases hrest : rest = []
    · subst hrest
      cases h
    have cut : batchesFrom size (fuel + 1) rest = rest.take size :: batchesFrom size fuel (rest.drop size) :=
      if_neg (by simpa using hrest)
    rw [cut, visitBatches] at h ⊢
    cases hfault : (visitAll read policy s (rest.take size)).fault with
    | some other =>
      simp only [hfault, Option.some.injEq] at h ⊢
      subst h
      exact exists_flies_of_failing_batch front hfront hfault
    | none =>
      simp only [hfault] at h ⊢
      have hbatch := Option.isNone_iff_eq_none.2 hfault
      have length := length_handled (length_visitAll hbatch)
      obtain ⟨first, hfirst⟩ := exists_flies_of_batch front hrest hfront hbatch
      -- a file behind the batch fails, so that the batch is full
      have full : front.length + size
          = (front ++ handled (rest.take size) (visitAll read policy s (rest.take size)).visits).length := by
        have left : rest.drop size ≠ [] := by
          intro hnil
          rw [hnil] at h
          cases fuel <;> cases h
        have := List.length_pos_iff.2 left
        rw [List.length_drop] at this
        rw [List.length_append, length, List.length_take]
        omega
      have hfront' : ∀ task ∈ front
          ++ handled (rest.take size) (visitAll read policy s (rest.take size)).visits,
          task.visit?.isSome = true := by
        rw [List.forall_mem_append]
        exact ⟨hfront, fun task htask => visit?_of_mem_handled htask⟩
      obtain ⟨more, f, hmore, hends⟩ := ih _ hfront' h
      rw [full] at hfirst
      exact ⟨first ++ more, f, hfirst.trans hmore, hends⟩

/-- A run over files of a tree is a flight that ends with the same result, completed or not. -/
theorem exists_flies_ends {policy : Policy} {size : Nat} (hsize : 0 < size) (root : Path) (paths : List Path)
    (s : Store) :
    ∃ events f, Flies read (s, .start policy size (targets root paths)) events
        ((runFrom read policy size root paths s).store, f)
      ∧ f.Ends read (runFrom read policy size root paths s).result := by
  cases hresult : (runFrom read policy size root paths s).result with
  | ok result =>
    obtain ⟨events, f, hflies, hland⟩ := exists_flies_of_runFrom hsize hresult
    exact ⟨events, f, hflies, .landed hland⟩
  | error fault =>
    unfold runFrom at hresult ⊢
    dsimp only at hresult ⊢
    split at hresult
    · next other hfault =>
      obtain rfl := Except.error.inj hresult
      exact exists_flies_of_failing_batches [] (by simp) hfault
    · cases hresult

/-! ## Directories -/

/-- The analysis of a directory that can be begun is the run over the files found. -/
theorem directory_of_scan {disk : Disk} {exclusions : Scan.Exclusions} {size : Int} {root real : Path}
    {listing : Listing} (hscan : Scan.scan disk exclusions root = .ok listing) (hsize : ¬ size < 1)
    (hreal : Disk.resolve disk root = .ok real) (s : Store) :
    directory disk exclusions size root s
      = (let outcome := runFrom (Disk.read disk) .excludeImports size.toNat real
          (listing.files.map FoundFile.path) s
        ⟨some listing, outcome.store, outcome.visits, outcome.result.mapError .run⟩) := by
  unfold directory run
  rw [hscan]
  dsimp only
  rw [if_neg hsize, hreal]

/-- An analysis that is completed could be begun. -/
theorem exists_scan_of_directory {disk : Disk} {exclusions : Scan.Exclusions} {size : Int} {root : Path}
    {s : Store} {result : Findings × Statistics}
    (h : (directory disk exclusions size root s).result = .ok result) :
    ∃ listing real, Scan.scan disk exclusions root = .ok listing ∧ ¬ size < 1
      ∧ Disk.resolve disk root = .ok real := by
  unfold directory run at h
  split at h
  · cases h
  · next listing hscan =>
    dsimp only at h
    split at h
    · cases h
    · next hsize =>
      split at h
      · cases h
      · next real hreal => exact ⟨listing, real, hscan, hsize, hreal⟩

/-- The analysis of a directory that is completed is a flight that lands with the same result and leaves the
same store. -/
theorem exists_flies_of_directory {disk : Disk} {exclusions : Scan.Exclusions} {size : Int} {root : Path}
    {s : Store} {result : Findings × Statistics}
    (h : (directory disk exclusions size root s).result = .ok result) :
    ∃ start events f, launch? .excludeImports disk exclusions size root = some start
      ∧ Flies (Disk.read disk) (s, start) events ((directory disk exclusions size root s).store, f)
      ∧ f.landing? = some result := by
  obtain ⟨listing, real, hscan, hsize, hreal⟩ := exists_scan_of_directory h
  rw [directory_of_scan hscan hsize hreal] at h ⊢
  obtain ⟨events, f, hflies, hlanding⟩ := exists_flies_of_runFrom (by omega : 0 < size.toNat)
    (mapError_eq_ok h)
  exact ⟨_, events, f, launch?_eq_some_iff.2 ⟨listing, real, hscan, hsize, hreal, rfl⟩, hflies, hlanding⟩

/-! ## Completion -/

/-- Files that can be read are all handled. -/
theorem visitAll_isNone {targets : List Target}
    (h : ∀ t ∈ targets, ∃ pair, content read t.path = .ok pair) (policy : Policy) (s : Store) :
    (visitAll read policy s targets).fault.isNone = true := by
  induction targets generalizing s with
  | nil => rfl
  | cons target rest ih =>
    rw [List.forall_mem_cons] at h
    obtain ⟨⟨source, fingerprint⟩, hcontent⟩ := h.1
    have handled : ∃ v after, visit read policy s target = .ok (v, after) := by
      rcases hanswer : answerTo fingerprint (s.get target.key) with ⟨_ | chunks, answer⟩
      · exact ⟨_, _, visit_of_miss hcontent hanswer⟩
      · exact ⟨_, _, visit_of_hit hcontent hanswer⟩
    obtain ⟨v, after, hvisit⟩ := handled
    rw [visitAll, hvisit]
    exact ih h.2 after

/-- What is in a batch was in the list. -/
theorem mem_of_mem_batchesFrom {α : Type} {size fuel : Nat} {items batch : List α} {a : α}
    (hbatch : batch ∈ batchesFrom size fuel items) (ha : a ∈ batch) : a ∈ items := by
  induction fuel generalizing items with
  | zero => cases hbatch
  | succ fuel ih =>
    unfold batchesFrom at hbatch
    split at hbatch
    · cases hbatch
    · rcases List.mem_cons.1 hbatch with rfl | hbatch
      · exact List.mem_of_mem_take ha
      · exact List.mem_of_mem_drop (ih hbatch)

/-- Batches of files that can be read are all handled. -/
theorem visitBatches_eq_none {policy : Policy} {s : Store}
    {list : List (List Target)}
    (h : ∀ batch ∈ list, ∀ t ∈ batch, ∃ pair, content read t.path = .ok pair) :
    (visitBatches read policy s list).fault = none := by
  induction list generalizing s with
  | nil => rfl
  | cons batch rest ih =>
    rw [List.forall_mem_cons] at h
    have first := Option.isNone_iff_eq_none.1 (visitAll_isNone h.1 policy s)
    rw [visitBatches]
    simp only [first]
    exact ih h.2

/-- Whatever the store holds, the analysis of a directory is completed if every file can be read and has a
fingerprint. -/
theorem exists_result_of_contents {disk : Disk} {exclusions : Scan.Exclusions} {size : Int} {root : Path}
    {start : Flight} (hlaunch : launch? .excludeImports disk exclusions size root = some start)
    (h : ∀ t ∈ start.targets, ∃ pair, content (Disk.read disk) t.path = .ok pair) (s : Store) :
    ∃ result, (directory disk exclusions size root s).result = .ok result := by
  obtain ⟨listing, real, hscan, hsize, hreal, rfl⟩ := launch?_eq_some_iff.1 hlaunch
  rw [Flight.targets_start] at h
  have fault : (visitBatches (Disk.read disk) .excludeImports s (batches size.toNat
      (Analysis.targets real (listing.files.map FoundFile.path)))).fault = none :=
    visitBatches_eq_none fun batch hbatch t ht => h t (mem_of_mem_batchesFrom hbatch ht)
  rw [directory_of_scan hscan hsize hreal]
  unfold runFrom
  dsimp only
  rw [fault]
  exact ⟨_, rfl⟩

end SourceAtlas.Analysis
