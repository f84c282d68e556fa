import SourceAtlas.Proofs.Analysis.Log
import SourceAtlas.Proofs.Analysis.Provenance

/-!
What a run extracts. While all runs are completed and no two of the files share a stored key, the store
remembers for each file the fingerprint that it was last read with, up to the last clear that covers it. So a
run calls the extractor for just those files that it reads with another fingerprint, and it changes just their
rows.

Main statement: `extracts_iff_lastSeen_ne`.
-/

namespace SourceAtlas.Analysis

variable {policy : Policy} {read : Path → Except Disk.Failure Bytes}

/-! ## What has been read -/

/-- The fingerprint that a file was last read with, after one more event. A clear that covers the file makes
it forgotten. -/
def seen (path : Path) (before : Option Text) : Event → Option Text
  | .loaded target _ fingerprint => if target.path = path then some fingerprint else before
  | .cleared => none
  | .clearedUnder directory =>
    if Store.InDirectory (Store.storageKey (Store.directoryStem directory)) (Store.storageKey path.toText)
    then none else before
  | _ => before

/-- The fingerprint that a file was last read with since the last clear that covers it. -/
def lastSeen (path : Path) (events : List Event) : Option Text := events.foldl (seen path) none

/-- What was seen last changes with the last event. -/
theorem lastSeen_snoc (path : Path) (events : List Event) (e : Event) :
    lastSeen path (events ++ [e]) = seen path (lastSeen path events) e := by
  rw [lastSeen, List.foldl_append]
  rfl

/-- Files that were read and have one stored key are the same file. -/
def KeysApart (events : List Event) : Prop :=
  ∀ a source fingerprint b other print, .loaded a source fingerprint ∈ events →
    .loaded b other print ∈ events → Store.storageKey a.key = Store.storageKey b.key → a.path = b.path

/-! ## What is known on the way -/

/-- A file that was read with a fingerprint has been handled: it was found if this is what it was last read
with, and the store has its fingerprint, and its row if it was extracted. -/
structure IsSettled (past : List Event) (s : Store) (target : Target) (fingerprint : Text) (v : Visit) :
    Prop where
  hit_iff : v.answer = .hit ↔ lastSeen target.path past = some fingerprint
  remembered : s.fingerprint? target.key = some fingerprint
  row : v.answer ≠ .hit → s.row? (Store.storageKey target.key)
    = some ⟨Store.storageKey target.key, fingerprint, Payload.write v.chunks⟩

/-- What a run knows of a file of which it had to ask the store. -/
def Task.IsTracked (past run : List Event) (s : Store) (task : Task) : Prop :=
  match task.stage with
  | .missed _ fingerprint _ => lastSeen task.target.path past ≠ some fingerprint
  | .finished v => ∀ source fingerprint, .loaded task.target source fingerprint ∈ run →
    IsSettled past s task.target fingerprint v
  | _ => True

/-- A run is accounted for: what it has made of the store with which it was launched. -/
structure Tracks (policy : Policy) (past run : List Event) (stored s : Store) (f : Flight) : Prop where
  logs : Logs policy run f
  tasks : ∀ task ∈ f.tasks, task.IsTracked past run s
  rows : ∀ key, (∀ target, Extracts run target → Store.storageKey target.key ≠ key) →
    s.row? key = stored.row? key

/-- The store holds for each file the fingerprint that it was last read with. -/
def Remembers (all events : List Event) (s : Store) : Prop :=
  ∀ target source fingerprint, .loaded target source fingerprint ∈ all →
    s.fingerprint? target.key = lastSeen target.path events

/-- What is known of a file still is after an event in which another is handled, unless its row is lost. -/
theorem Task.IsTracked.snoc {past run : List Event} {s s' : Store} {task : Task} {e : Event}
    (h : task.IsTracked past run s) (he : e.target? ≠ some task.target)
    (hrow : ∀ source fingerprint, .loaded task.target source fingerprint ∈ run →
      s'.row? (Store.storageKey task.target.key) = s.row? (Store.storageKey task.target.key)) :
    task.IsTracked past (run ++ [e]) s' := by
  obtain ⟨target, stage⟩ := task
  cases stage with
  | waiting => trivial
  | loaded source fingerprint => trivial
  | missed source fingerprint answer => exact h
  | finished v =>
    intro source fingerprint hloaded
    rcases List.mem_append.1 hloaded with hloaded | hlast
    · have same := hrow source fingerprint hloaded
      have settled := h source fingerprint hloaded
      exact ⟨settled.hit_iff, (Store.fingerprint?_congr same).trans settled.remembered,
        fun hv => same.trans (settled.row hv)⟩
    · rw [← List.mem_singleton.1 hlast] at he
      exact absurd rfl he

/-! ## Steps of a run -/

namespace Tracks

variable {past run all : List Event} {stored s s' : Store} {f : Flight}

/-- The row of a file that was not extracted is the one with which the run was launched. -/
theorem row?_eq (h : Tracks policy past run stored s f) (hapart : KeysApart all) (hall : run ⊆ all)
    {target : Target} {source fingerprint : Text} (hloaded : .loaded target source fingerprint ∈ all)
    (hnot : ∀ t, Extracts run t → t.path ≠ target.path) :
    s.row? (Store.storageKey target.key) = stored.row? (Store.storageKey target.key) := by
  refine h.rows _ fun t ht hkey => hnot t ht ?_
  obtain ⟨-, text, print, hread⟩ := h.logs.mem_of_extracts ht
  exact hapart _ _ _ _ _ _ (hall hread) hloaded hkey

/-- A file that has just been read has in the store the fingerprint that it was last read with before. -/
theorem fingerprint?_eq (h : Tracks policy past run stored s f) (hapart : KeysApart all) (hall : run ⊆ all)
    (hstored : Remembers all past stored) {target : Target} {source fingerprint : Text}
    (htask : ⟨target, .loaded source fingerprint⟩ ∈ f.tasks) :
    s.fingerprint? target.key = lastSeen target.path past := by
  have hevents : eventsOf run target = [.loaded target source fingerprint] := h.logs.tasks _ htask
  have hloaded : .loaded target source fingerprint ∈ all := hall (loaded_mem_of_eventsOf hevents)
  have ht : target ∈ f.targets := List.mem_map.2 ⟨_, htask, rfl⟩
  rw [← hstored _ _ _ hloaded]
  -- the row was not written in this run: only the file itself could have done so, and it was but read
  refine Store.fingerprint?_congr (h.row?_eq hapart hall hloaded fun t hextracts heq => ?_)
  obtain rfl := h.logs.eq_of_path_eq (h.logs.mem_of_extracts hextracts).1 ht heq
  exact not_extracts_of_eventsOf hevents (by simp [Event.isExtraction]) hextracts

/-- A run is still accounted for after an event in which no file is handled. -/
theorem idle (h : Tracks policy past run stored s f) {e : Event} (he : e = .edited ∨ e = .opened) :
    Tracks policy past (run ++ [e]) stored s f := by
  have none : e.target? = none := by
    rcases he with rfl | rfl
    · rfl
    · rfl
  refine ⟨h.logs.idle he, fun task htask => ?_, fun key hkey => ?_⟩
  · exact (h.tasks task htask).snoc (by rw [none]; exact nofun) fun _ _ _ => rfl
  · exact h.rows key fun t ht => hkey t (extracts_snoc ht e)

/-- A run is still accounted for after an event in which one of its files is handled, provided that this file
is accounted for and that no rows are changed but of files that were extracted. -/
theorem move (h : Tracks policy past run stored s f) (hapart : KeysApart all) (hall : run ⊆ all) {i : Nat}
    {target : Target} {stage other : Stage} (hat : f.At i target stage) {e : Event}
    (he : e.target? = some target) (hlogs : Logs policy (run ++ [e]) (f.move i target other))
    (hnew : Task.IsTracked past (run ++ [e]) s' ⟨target, other⟩)
    (hrows : ∀ key, (key = Store.storageKey target.key → ¬ Extracts run target) → s'.row? key = s.row? key) :
    Tracks policy past (run ++ [e]) stored s' (f.move i target other) := by
  refine ⟨hlogs, Flight.forall_tasks_move_of_ne h.logs.distinct hat (fun task htask hne => ?_) hnew, ?_⟩
  · refine (h.tasks task htask).snoc ?_ fun source fingerprint hloaded => ?_
    · rw [he]
      exact fun heq => hne (congrArg Target.path (Option.some.inj heq)).symm
    · refine hrows _ fun hkey hextracts => hne ?_
      obtain ⟨-, text, print, hread⟩ := h.logs.mem_of_extracts hextracts
      exact hapart _ _ _ _ _ _ (hall hloaded) (hall hread) hkey
  · intro key hkey
    rw [hrows key fun heq hextracts => hkey target (extracts_snoc hextracts e) heq.symm]
    exact h.rows key fun t hextracts => hkey t (extracts_snoc hextracts e)

end Tracks

/-- A step of a run is accounted for. -/
theorem Advance.tracks {past run all backing : List Event}
    {stored s s' : Store} {f f' : Flight} {e : Event} (hadvance : Advance read (s, f) e (s', f'))
    (hbacked : ∀ r ∈ s.rows, IsBacked policy backing r) (hapart : KeysApart all) (hall : run ⊆ all)
    (hstored : Remembers all past stored) (h : Tracks policy past run stored s f) :
    Tracks policy past (run ++ [e]) stored s' f' := by
  have hlogs := hadvance.logs h.logs
  cases hadvance with
  | load hat _ => exact h.move hapart hall hat rfl hlogs trivial fun _ _ => rfl
  | @find _ _ _ target source fingerprint _ _ hat hanswer =>
    have hmem := Flight.mem_tasks_of_at hat
    have hevents : eventsOf run target = [.loaded target source fingerprint] := h.logs.tasks _ hmem
    have hread : .loaded target source fingerprint ∈ run := loaded_mem_of_eventsOf hevents
    -- found: the store still holds the fingerprint of the last reading, and it is this one
    obtain ⟨-, rfl⟩ := answerTo_eq_some hanswer
    have found : s.fingerprint? target.key = some fingerprint := fingerprint?_of_hit hanswer
    refine h.move hapart hall hat rfl hlogs (fun text print hloaded => ?_) fun _ _ => rfl
    obtain ⟨-, rfl⟩ := hlogs.eq_of_loaded (List.mem_append_left _ hread) hloaded
    refine ⟨⟨fun _ => ?_, fun _ => rfl⟩, found, fun hv => absurd rfl hv⟩
    rw [← h.fingerprint?_eq hapart hall hstored hmem]
    exact found
  | @miss _ _ _ target source fingerprint _ hat hanswer =>
    have hmem := Flight.mem_tasks_of_at hat
    refine h.move hapart hall hat rfl hlogs ?_ fun _ _ => rfl
    -- not found: every row can be read, so that the fingerprint of the last reading is another one
    change lastSeen target.path past ≠ some fingerprint
    rw [← h.fingerprint?_eq hapart hall hstored hmem]
    exact fingerprint?_of_miss hbacked hanswer
  | @keep _ _ _ target source fingerprint answer hat =>
    have hmem := Flight.mem_tasks_of_at hat
    obtain ⟨hevents, hanswer⟩ := h.logs.tasks _ hmem
    dsimp only at hevents
    have hread : .loaded target source fingerprint ∈ run := loaded_mem_of_eventsOf hevents
    have hextracts : Extracts run target := ⟨source, fingerprint, extracted_mem_of_eventsOf hevents⟩
    -- stored: the row is put whole, and those of other keys are left
    have hrow := Store.row?_put_self s target.key fingerprint (extract f.policy target.shown source)
    refine h.move hapart hall hat rfl hlogs (fun text print hloaded => ?_)
      fun key hkey => Store.row?_put_of_ne (fun heq => hkey heq hextracts) _ _ _
    obtain ⟨-, rfl⟩ := hlogs.eq_of_loaded (List.mem_append_left _ hread) hloaded
    exact ⟨⟨fun hv => absurd hv hanswer, fun hseen => absurd hseen (h.tasks _ hmem)⟩,
      congrArg (Option.map Row.fingerprint) hrow, fun _ => hrow⟩
  | next _ _ =>
    have same := h.idle (.inr rfl)
    exact ⟨hlogs, same.tasks, same.rows⟩

/-- A step of a history that does not end the run under way is accounted for. -/
theorem Step.tracks {disk : Disk} {past run all backing : List Event} {stored s : Store} {f : Flight}
    {e : Event} {z : Moment} (hstep : Step policy ⟨disk, s, some f⟩ e z) (he : e.isEnd = false)
    (hbacked : ∀ r ∈ s.rows, IsBacked policy backing r) (hapart : KeysApart all) (hall : run ⊆ all)
    (hstored : Remembers all past stored) (h : Tracks policy past run stored s f) :
    ∃ f', z.flight = some f' ∧ f'.targets = f.targets ∧ Tracks policy past (run ++ [e]) stored z.store f' := by
  cases hstep with
  | edit _ => exact ⟨f, rfl, rfl, h.idle (.inl rfl)⟩
  | advance hadvance =>
    exact ⟨_, rfl, hadvance.targets_eq, hadvance.tracks hbacked hapart hall hstored h⟩
  | land _ => cases he
  | abort => cases he

/-- A run that is launched tracks what was seen before it. -/
theorem tracks_launch {disk : Disk} (hdisk : disk.isWellFormed = true) {exclusions : Scan.Exclusions}
    {size : Int} {root : Text} {start : Flight}
    (h : launch? policy disk exclusions size (.ofText root) = some start) (past : List Event) (s : Store) :
    Tracks policy past [] s s start := by
  have hwaiting := (launch?_spec hdisk h).2.1
  refine ⟨logs_launch hdisk h, fun task htask => ?_, fun _ _ => rfl⟩
  rw [Task.IsTracked, hwaiting task htask]
  trivial

/-! ## Landings -/

/-- Events that show nothing of a path may be left out. -/
theorem foldl_seen_filter {path : Path} {events : List Event} {p : Event → Bool}
    (h : ∀ e ∈ events, p e = false → ∀ before, seen path before e = before) (before : Option Text) :
    events.foldl (seen path) before = (events.filter p).foldl (seen path) before := by
  rw [List.foldl_filter]
  refine List.foldl_ext _ _ before fun b e he => ?_
  split
  · rfl
  · next hp => exact h e he (Bool.eq_false_iff.2 hp) b

/-- On the way of a run, only that a file is read changes what it was last read with. -/
theorem seen_of_isOf {path : Path} {targets : List Target} {e : Event} (he : e.IsOf targets)
    (hne : ∀ t ∈ targets, e.target? = some t → t.path ≠ path) (before : Option Text) :
    seen path before e = before := by
  rcases he with ⟨target, ht, heq⟩ | rfl | rfl
  · have apart := hne target ht heq
    cases e with
    | loaded t source fingerprint =>
      rw [← Option.some.inj heq] at apart
      exact if_neg apart
    | found t => rfl
    | extracted t source fingerprint => rfl
    | kept t => rfl
    | _ => cases heq
  · rfl
  · rfl

/-- A file that does not belong to a run was last read in the past of the run. -/
theorem Logs.lastSeen_eq {run : List Event} {f : Flight} (h : Logs policy run f) {path : Path}
    (hne : ∀ t ∈ f.targets, t.path ≠ path) (past : List Event) (root : Text) :
    lastSeen path (past ++ .launched root :: run) = lastSeen path past := by
  rw [lastSeen, List.foldl_append, List.foldl_cons,
    foldl_seen_filter (p := fun _ => false) fun e he _ => seen_of_isOf (h.events e he) fun t ht _ => hne t ht,
    List.filter_false]
  rfl

/-- A file that was handled in a run was last read in the run. -/
theorem Logs.lastSeen_of_isLogged {run : List Event} {f : Flight} (h : Logs policy run f) {target : Target}
    {v : Visit} (ht : target ∈ f.targets) (hlogged : IsLogged policy run target v) (past : List Event)
    (root : Text) : ∃ source fingerprint, .loaded target source fingerprint ∈ run
      ∧ lastSeen target.path (past ++ .launched root :: run) = some fingerprint := by
  have replayed : lastSeen target.path (past ++ .launched root :: run)
      = (eventsOf run target).foldl (seen target.path) (lastSeen target.path past) := by
    rw [lastSeen, List.foldl_append, List.foldl_cons,
      foldl_seen_filter (p := fun e => decide (e.target? = some target)) fun e he hp =>
        seen_of_isOf (h.events e he) fun t hmem heq hpath => ?_]
    · rfl
    · obtain rfl := h.eq_of_path_eq hmem ht hpath
      exact of_decide_eq_false hp heq
  cases hlogged with
  | found source fingerprint hevents =>
    refine ⟨source, fingerprint, loaded_mem_of_eventsOf hevents, ?_⟩
    rw [replayed, hevents]
    simp [seen]
  | stored source fingerprint hevents =>
    refine ⟨source, fingerprint, loaded_mem_of_eventsOf hevents, ?_⟩
    rw [replayed, hevents]
    simp [seen]

/-- After a run that has landed, the store still remembers all files. -/
theorem Tracks.remembers_of_landing {past run all : List Event} {stored s : Store} {f : Flight}
    (h : Tracks policy past run stored s f) (hapart : KeysApart all) (hall : run ⊆ all)
    (hstored : Remembers all past stored) {result : Findings × Statistics} (hland : f.landing? = some result)
    (root : Text) : Remembers all (past ++ .launched root :: run) s := by
  intro target source fingerprint hloaded
  -- a file of the run was last read in the run, any other in its past
  by_cases hmem : ∃ t ∈ f.targets, t.path = target.path
  · obtain ⟨t, ht, hpath⟩ := hmem
    obtain ⟨v, htask⟩ := Flight.exists_visit_of_landing hland ht
    obtain ⟨text, print, hread, hseen⟩ := h.logs.lastSeen_of_isLogged ht (h.logs.tasks _ htask).2 past root
    rw [Target.key, ← hpath, hseen]
    exact (h.tasks _ htask text print hread).remembered
  · have hne : ∀ t ∈ f.targets, t.path ≠ target.path := fun t ht heq => hmem ⟨t, ht, heq⟩
    rw [h.logs.lastSeen_eq hne, ← hstored _ _ _ hloaded]
    exact Store.fingerprint?_congr (h.row?_eq hapart hall hloaded fun t hextracts =>
      hne t (h.logs.mem_of_extracts hextracts).1)

/-! ## Histories -/

/-- Between runs the store remembers all files; a run under way is accounted for. -/
def Moment.IsTracked (policy : Policy) (all events : List Event) (m : Moment) : Prop :=
  match m.flight with
  | none => Remembers all events m.store
  | some f => ∃ past root run stored, events = past ++ .launched root :: run ∧ Remembers all past stored
      ∧ Tracks policy past run stored m.store f

/-- Every step keeps track of what was seen last. -/
theorem Step.isTracked {all events : List Event} {m z : Moment} {e : Event} (hstep : Step policy m e z)
    (hdisk : m.disk.isWellFormed = true) (hbacked : ∀ r ∈ m.store.rows, IsBacked policy events r)
    (hapart : KeysApart all) (hall : events ⊆ all) (he : e ≠ .aborted) (h : m.IsTracked policy all events) :
    z.IsTracked policy all (events ++ [e]) := by
  have before : ∀ {past run : List Event} {root : Text},
      events = past ++ .launched root :: run → run ⊆ all := by
    rintro past run root rfl
    exact fun x hx => hall (List.mem_append_right _ (List.mem_cons_of_mem _ hx))
  -- an event on the way of a run becomes the last of its events
  have step : ∀ {f : Flight}, m.flight = some f → e.isEnd = false →
      z.IsTracked policy all (events ++ [e]) := by
    intro f hf hend
    obtain ⟨disk, s, flight⟩ := m
    obtain rfl : flight = some f := hf
    obtain ⟨past, root, run, stored, hevents, hstored, htracks⟩ := h
    obtain ⟨f', hf', -, hafter⟩ := hstep.tracks hend hbacked hapart (before hevents) hstored htracks
    rw [Moment.IsTracked, hf']
    exact ⟨past, root, run ++ [e], stored, by rw [hevents, List.append_assoc]; rfl, hstored, hafter⟩
  cases hstep with
  | @edit m _ _ =>
    obtain ⟨disk, s, flight⟩ := m
    cases flight with
    | some f => exact step rfl rfl
    | none =>
      intro target source fingerprint hloaded
      rw [lastSeen_snoc]
      exact h target source fingerprint hloaded
  | clear =>
    intro target source fingerprint _
    rw [lastSeen_snoc]
    rfl
  | clearUnder directory =>
    intro target source fingerprint hloaded
    rw [lastSeen_snoc, Store.fingerprint?_clearUnder, h target source fingerprint hloaded]
    rfl
  | launch hlaunch =>
    exact ⟨events, _, [], _, rfl, h, tracks_launch hdisk hlaunch events _⟩
  | advance hadvance =>
    refine step rfl ?_
    cases hadvance with
    | _ => rfl
  | land hland =>
    obtain ⟨past, root, run, stored, rfl, hstored, htracks⟩ := h
    intro target source fingerprint hloaded
    rw [lastSeen_snoc]
    exact htracks.remembers_of_landing hapart (before rfl) hstored hland root target source fingerprint hloaded
  | abort => exact absurd rfl he

/-- In a history without aborts the store remembers all files. -/
theorem Reaches.isTracked {all events : List Event} {disk : Disk} {m : Moment}
    (h : Reaches policy (.blank disk) events m) (hdisk : disk.isWellFormed = true) (hapart : KeysApart all)
    (hall : events ⊆ all) (hcompleted : .aborted ∉ events) : m.IsTracked policy all events := by
  induction h with
  | refl => exact fun target source fingerprint _ => rfl
  | snoc before last ih =>
    have hbefore := (List.append_subset.1 hall).1
    exact last.isTracked (before.isWellFormed hdisk) (before.isBacked hdisk (List.Subset.refl _)).1 hapart hbefore
      (fun heq => hcompleted (by simp [heq])) (ih hbefore fun hmem => hcompleted (List.mem_append_left _ hmem))

/-- What has happened since a launch is accounted for, as long as the run has not ended. -/
theorem Reaches.tracks {past run all : List Event} {disk now : Disk} {stored : Store} {start : Flight}
    {m : Moment} (h : Reaches policy ⟨now, stored, some start⟩ run m) (hdisk : disk.isWellFormed = true)
    {root : Text} (hpast : Reaches policy (.blank disk) (past ++ [.launched root]) ⟨now, stored, some start⟩)
    (hflying : ∀ e ∈ run, e.isEnd = false) (hapart : KeysApart all) (hall : run ⊆ all)
    (hstored : Remembers all past stored) (hstart : Tracks policy past [] stored stored start) :
    ∃ f, m.flight = some f ∧ f.targets = start.targets ∧ Tracks policy past run stored m.store f := by
  induction h with
  | refl => exact ⟨start, rfl, rfl, hstart⟩
  | @snoc events e y z before last ih =>
    have hbefore := (List.append_subset.1 hall).1
    obtain ⟨f, hf, htargets, htracks⟩ := ih (fun x hx => hflying x (List.mem_append_left _ hx)) hbefore
    obtain ⟨disk', s, flight⟩ := y
    obtain rfl : flight = some f := hf
    have backed := ((hpast.trans before).isBacked hdisk (List.Subset.refl _)).1
    obtain ⟨f', hf', hsame, hafter⟩ := last.tracks (hflying e (by simp)) backed hapart hbefore hstored htracks
    exact ⟨f', hf', hsame.trans htargets, hafter⟩

/-- After every history of completed runs, a run that is completed reads each of its files once. It calls the
extractor for a file exactly if this has not been read since the last clear that covers it, or was last read
with another fingerprint, and its row is then the new one. All other rows stay as they were, and as many files
are said to be missed as the extractor was called for. -/
theorem extracts_iff_lastSeen_ne {disk : Disk} (hdisk : disk.isWellFormed = true) {past : List Event}
    {now : Disk} {stored : Store} (hpast : Reaches policy (.blank disk) past ⟨now, stored, none⟩)
    (hcompleted : .aborted ∉ past) {exclusions : Scan.Exclusions} {size : Int} {root : Text} {start : Flight}
    (hlaunch : launch? policy now exclusions size (.ofText root) = some start) {run : List Event} {after : Disk}
    {s : Store} {last : Flight} (hrun : Reaches policy ⟨now, stored, some start⟩ run ⟨after, s, some last⟩)
    (hflying : ∀ e ∈ run, e.isEnd = false) {findings : Findings} {statistics : Statistics}
    (hland : last.landing? = some (findings, statistics)) (hapart : KeysApart (past ++ run)) :
    (∀ target ∈ start.targets, ∃ source fingerprint,
        (∀ text print, .loaded target text print ∈ run ↔ text = source ∧ print = fingerprint)
          ∧ (Extracts run target ↔ lastSeen target.path past ≠ some fingerprint)
          ∧ (Extracts run target → s.row? (Store.storageKey target.key) = some ⟨Store.storageKey target.key,
            fingerprint, Payload.write (extract policy target.shown source)⟩))
      ∧ (∀ key, (∀ target, Extracts run target → Store.storageKey target.key ≠ key) →
        s.row? key = stored.row? key)
      ∧ statistics.misses = run.countP Event.isExtraction := by
  have hstored : Remembers (past ++ run) past stored :=
    hpast.isTracked hdisk hapart (List.subset_append_left past run) hcompleted
  obtain ⟨f, hf, htargets, htracks⟩ := hrun.tracks hdisk (hpast.snoc (.launch hlaunch)) hflying hapart
    (List.subset_append_right past run) hstored (tracks_launch (hpast.isWellFormed hdisk) hlaunch past stored)
  obtain rfl := Option.some.inj hf
  refine ⟨fun target ht => ?_, htracks.rows, htracks.logs.misses_of_landing hland⟩
  obtain ⟨v, htask⟩ := Flight.exists_visit_of_landing hland (htargets ▸ ht)
  have once : ∀ {source fingerprint : Text}, .loaded target source fingerprint ∈ run →
      ∀ text print, .loaded target text print ∈ run ↔ text = source ∧ print = fingerprint := by
    intro source fingerprint hread text print
    refine ⟨fun hother => htracks.logs.eq_of_loaded hother hread, ?_⟩
    rintro ⟨rfl, rfl⟩
    exact hread
  cases (htracks.logs.tasks _ htask).2 with
  | found source fingerprint hevents hanswer =>
    have hread : .loaded target source fingerprint ∈ run := loaded_mem_of_eventsOf hevents
    have settled := htracks.tasks _ htask source fingerprint hread
    have hnot : ¬ Extracts run target :=
      not_extracts_of_eventsOf hevents (by simp [Event.isExtraction])
    exact ⟨source, fingerprint, once hread,
      ⟨fun h => absurd h hnot, fun hne => absurd (settled.hit_iff.1 hanswer) hne⟩, fun h => absurd h hnot⟩
  | stored source fingerprint hevents hanswer hchunks =>
    have hread : .loaded target source fingerprint ∈ run := loaded_mem_of_eventsOf hevents
    have settled := htracks.tasks _ htask source fingerprint hread
    have hextracts : Extracts run target := ⟨source, fingerprint, extracted_mem_of_eventsOf hevents⟩
    exact ⟨source, fingerprint, once hread,
      ⟨fun _ hseen => hanswer (settled.hit_iff.2 hseen), fun _ => hextracts⟩,
      fun _ => hchunks ▸ settled.row hanswer⟩

/-! ### An example -/

/-- A file that was stored from an outer root is found from an inner one, and one that was added since is
extracted. -/
theorem extracts_iff_lastSeen_ne_on_grownTree : ∃ past stored start run s last findings,
    ∃ statistics : Statistics, innerTree.isWellFormed = true
      ∧ Reaches .excludeImports (.blank innerTree) past ⟨grownTree, stored, none⟩ ∧ .aborted ∉ past
      ∧ launch? .excludeImports grownTree ⟨[], false⟩ 50 (.ofText "/p/a") = some start
      ∧ Reaches .excludeImports ⟨grownTree, stored, some start⟩ run ⟨grownTree, s, some last⟩
      ∧ (∀ e ∈ run, e.isEnd = false) ∧ last.landing? = some (findings, statistics)
      ∧ KeysApart (past ++ run) ∧ statistics.hits = 1 ∧ run.countP Event.isExtraction = 1 := by
  have well : innerTree.isWellFormed = true := by decide +kernel
  have wellGrown : grownTree.isWellFormed = true := by decide +kernel
  have first : (directory innerTree ⟨[], false⟩ 50 (.ofText "/p") .empty).result.toOption.any
      (fun _ => true) = true := by decide +kernel
  have second : (directory grownTree ⟨[], false⟩ 50 (.ofText "/p/a")
      (directory innerTree ⟨[], false⟩ 50 (.ofText "/p") .empty).store).result.toOption.any
      (fun r => r.2.hits == 1 && r.2.misses == 1) = true := by decide +kernel
  obtain ⟨⟨outer, outerStatistics⟩, houter, -⟩ := exists_eq_ok_of_any first
  obtain ⟨⟨inner, innerStatistics⟩, hinner, hcounts⟩ := exists_eq_ok_of_any second
  obtain ⟨hhits, hmisses⟩ := Bool.and_eq_true_iff.1 hcounts
  obtain ⟨start₁, run₁, last₁, hlaunch₁, hflies₁, hland₁⟩ := exists_flies_of_directory houter
  obtain ⟨start₂, run₂, last₂, hlaunch₂, hflies₂, hland₂⟩ := exists_flies_of_directory hinner
  have past : Reaches .excludeImports (.blank innerTree) _ _ :=
    (((Reaches.single (.launch hlaunch₁)).trans (reaches_of_flies hflies₁)).snoc (.land hland₁)).snoc
      (.edit wellGrown)
  have completed : .aborted ∉ [.launched "/p"] ++ run₁ ++ [.landed outer outerStatistics] ++ [.edited] := by
    simp only [List.mem_append, List.mem_singleton]
    rintro (((h | h) | h) | h)
    · cases h
    · cases hflies₁.isEnd_eq_false _ h
    · cases h
    · cases h
  have waiting₁ := (launch?_spec well hlaunch₁).2.1
  have waiting₂ := (launch?_spec wellGrown hlaunch₂).2.1
  have upper : start₁.targets = innerTargets.take 1 := targets_eq_of_launch? hlaunch₁ (by decide +kernel)
  have lower : start₂.targets = grownTargets := targets_eq_of_launch? hlaunch₂ (by decide +kernel)
  have files : ∀ target source fingerprint, .loaded target source fingerprint
      ∈ [.launched "/p"] ++ run₁ ++ [.landed outer outerStatistics] ++ [.edited] ++ run₂ →
        target ∈ innerTargets.take 1 ++ grownTargets := by
    intro target source fingerprint h
    simp only [List.mem_append, List.mem_singleton] at h
    rcases h with ((((h | h) | h) | h) | h)
    · cases h
    · exact List.mem_append_left _ (upper ▸ ((hflies₁.isCurrent waiting₁).2.2 _ h).1)
    · cases h
    · cases h
    · exact List.mem_append_right _ (lower ▸ ((hflies₂.isCurrent waiting₂).2.2 _ h).1)
  have apart : ∀ a ∈ innerTargets.take 1 ++ grownTargets, ∀ b ∈ innerTargets.take 1 ++ grownTargets,
      Store.storageKey a.key = Store.storageKey b.key → a.path = b.path := by decide +kernel
  have hapart : KeysApart _ := fun a source fingerprint b other print ha hb =>
    apart a (files a source fingerprint ha) b (files b other print hb)
  have extractions := (extracts_iff_lastSeen_ne well past completed hlaunch₂ (reaches_of_flies hflies₂)
    hflies₂.isEnd_eq_false hland₂ hapart).2.2
  rw [beq_iff_eq.1 hmisses] at extractions
  exact ⟨_, _, start₂, run₂, _, last₂, inner, innerStatistics, well, past, completed, hlaunch₂,
    reaches_of_flies hflies₂, hflies₂.isEnd_eq_false, hland₂, hapart, beq_iff_eq.1 hhits, by omega⟩

end SourceAtlas.Analysis
