import SourceAtlas.Proofs.Analysis.History

/-!
The log of a run: what has happened to each of its files since the launch. However the steps of a run are
interleaved, those of one file come in order: it is read, and then found in the store, or extracted and stored.

Main statements: `Advance.logs`, `Logs.misses_of_landing`.
-/

namespace SourceAtlas.Analysis

variable {policy : Policy} {read : Path → Except Disk.Failure Bytes}

/-! ## Events of a file -/

/-- The file that is handled in an event. -/
def Event.target? : Event → Option Target
  | .loaded target _ _ => some target
  | .found target => some target
  | .extracted target _ _ => some target
  | .kept target => some target
  | _ => none

/-- Is the event a call of the extractor? -/
def Event.isExtraction : Event → Bool
  | .extracted _ _ _ => true
  | _ => false

/-- Does a run end with the event? -/
def Event.isEnd : Event → Bool
  | .landed _ _ => true
  | .aborted => true
  | _ => false

/-- The event may occur on the way of a run over these files. -/
def Event.IsOf (targets : List Target) (e : Event) : Prop :=
  (∃ target ∈ targets, e.target? = some target) ∨ e = .edited ∨ e = .opened

/-- The extractor is called for a file. -/
def Extracts (run : List Event) (target : Target) : Prop :=
  ∃ source fingerprint, .extracted target source fingerprint ∈ run

/-- The events of a run in which a file is handled. -/
def eventsOf (run : List Event) (target : Target) : List Event := run.filter fun e => e.target? = some target

/-- An event of a file is the last of its events. -/
theorem eventsOf_snoc_self {target : Target} {e : Event} (h : e.target? = some target) (run : List Event) :
    eventsOf (run ++ [e]) target = eventsOf run target ++ [e] := by
  rw [eventsOf, List.filter_append, List.filter_singleton, decide_eq_true h]
  rfl

/-- It is no event of another file. -/
theorem eventsOf_snoc_of_ne {target : Target} {e : Event} (h : e.target? ≠ some target) (run : List Event) :
    eventsOf (run ++ [e]) target = eventsOf run target := by
  rw [eventsOf, List.filter_append, List.filter_singleton, decide_eq_false h, cond_false, List.append_nil]
  rfl

/-- The events of a file are those that are about it. -/
theorem mem_eventsOf_iff {run : List Event} {target : Target} {e : Event} (h : e.target? = some target) :
    e ∈ eventsOf run target ↔ e ∈ run := by
  rw [eventsOf, List.mem_filter]
  exact ⟨And.left, fun he => ⟨he, decide_eq_true h⟩⟩

/-- A file whose events begin with its reading was read. -/
theorem loaded_mem_of_eventsOf {run rest : List Event} {target : Target} {source fingerprint : Text}
    (h : eventsOf run target = .loaded target source fingerprint :: rest) :
    .loaded target source fingerprint ∈ run := by
  rw [← mem_eventsOf_iff rfl, h]
  exact List.mem_cons_self

/-- A file whose events go on with its extraction was extracted. -/
theorem extracted_mem_of_eventsOf {run rest : List Event} {target : Target} {source fingerprint : Text}
    (h : eventsOf run target
      = .loaded target source fingerprint :: .extracted target source fingerprint :: rest) :
    .extracted target source fingerprint ∈ run := by
  rw [← mem_eventsOf_iff rfl, h]
  exact List.mem_cons_of_mem _ List.mem_cons_self

/-- A file among whose events there is no extraction was not extracted. -/
theorem not_extracts_of_eventsOf {run events : List Event} {target : Target} (h : eventsOf run target = events)
    (hnone : ∀ e ∈ events, e.isExtraction = false) : ¬ Extracts run target := by
  rintro ⟨source, fingerprint, hmem⟩
  rw [← mem_eventsOf_iff rfl, h] at hmem
  exact absurd (hnone _ hmem) Bool.noConfusion

/-- What has been extracted stays so. -/
theorem extracts_snoc {run : List Event} {target : Target} (h : Extracts run target) (e : Event) :
    Extracts (run ++ [e]) target := by
  obtain ⟨source, fingerprint, hmem⟩ := h
  exact ⟨source, fingerprint, List.mem_append_left _ hmem⟩

theorem isHit_iff {v : Visit} : v.isHit = true ↔ v.answer = .hit := by
  obtain ⟨key, shown, answer, chunks⟩ := v
  cases answer with
  | hit => exact ⟨fun _ => rfl, fun _ => rfl⟩
  | miss => exact ⟨nofun, nofun⟩
  | unreadable payload fault => exact ⟨nofun, nofun⟩

/-! ## Logs -/

/-- A file has been handled: it was read, and then found in the store, or extracted and stored. -/
inductive IsLogged (policy : Policy) (run : List Event) (target : Target) (v : Visit) : Prop
  | found (source fingerprint : Text)
      (hevents : eventsOf run target = [.loaded target source fingerprint, .found target])
      (hanswer : v.answer = .hit)
  | stored (source fingerprint : Text)
      (hevents : eventsOf run target
        = [.loaded target source fingerprint, .extracted target source fingerprint, .kept target])
      (hanswer : v.answer ≠ .hit) (hchunks : v.chunks = extract policy target.shown source)

/-- What has happened to a file since the run was launched. -/
def Task.IsLogged (policy : Policy) (run : List Event) (task : Task) : Prop :=
  match task.stage with
  | .waiting => eventsOf run task.target = []
  | .loaded source fingerprint => eventsOf run task.target = [.loaded task.target source fingerprint]
  | .missed source fingerprint answer =>
    eventsOf run task.target
      = [.loaded task.target source fingerprint, .extracted task.target source fingerprint] ∧ answer ≠ .hit
  | .finished v => v.shown = task.target.shown.toText ∧ Analysis.IsLogged policy run task.target v

/-- Has the extractor been called for the file? -/
def Task.isMiss (task : Task) : Bool :=
  match task.stage with
  | .missed _ _ _ => true
  | .finished v => !v.isHit
  | _ => false

/-- What a run has done since it was launched. -/
structure Logs (policy : Policy) (run : List Event) (f : Flight) : Prop where
  distinct : (f.targets.map Target.path).Nodup
  policy_eq : f.policy = policy
  events : ∀ e ∈ run, e.IsOf f.targets
  tasks : ∀ task ∈ f.tasks, task.IsLogged policy run
  misses : run.countP Event.isExtraction = f.tasks.countP Task.isMiss

/-- What is logged of a file stays so when something happens to another one. -/
theorem IsLogged.snoc {run : List Event} {target : Target} {v : Visit} (h : IsLogged policy run target v)
    {e : Event} (he : e.target? ≠ some target) : IsLogged policy (run ++ [e]) target v := by
  have same := eventsOf_snoc_of_ne he run
  cases h with
  | found source fingerprint hevents hanswer => exact .found source fingerprint (same.trans hevents) hanswer
  | stored source fingerprint hevents hanswer hchunks =>
    exact .stored source fingerprint (same.trans hevents) hanswer hchunks

/-- The log of a file is the same after an event in which it is not handled. -/
theorem Task.IsLogged.snoc {run : List Event} {task : Task} (h : task.IsLogged policy run) {e : Event}
    (he : e.target? ≠ some task.target) : task.IsLogged policy (run ++ [e]) := by
  obtain ⟨target, stage⟩ := task
  have same := eventsOf_snoc_of_ne he run
  cases stage with
  | waiting => exact same.trans h
  | loaded source fingerprint => exact same.trans h
  | missed source fingerprint answer => exact ⟨same.trans h.1, h.2⟩
  | finished v => exact ⟨h.1, h.2.snoc he⟩

/-- A file was read before it was extracted. -/
theorem Task.IsLogged.exists_loaded {run : List Event} {task : Task} (h : task.IsLogged policy run)
    (hextracts : Extracts run task.target) :
    ∃ source fingerprint, .loaded task.target source fingerprint ∈ run := by
  obtain ⟨target, stage⟩ := task
  have first : ∀ {source fingerprint : Text} {rest : List Event},
      eventsOf run target = .loaded target source fingerprint :: rest →
        ∃ source fingerprint, .loaded target source fingerprint ∈ run :=
    fun hevents => ⟨_, _, loaded_mem_of_eventsOf hevents⟩
  cases stage with
  | waiting => exact absurd hextracts (not_extracts_of_eventsOf h nofun)
  | loaded source fingerprint => exact first h
  | missed source fingerprint answer => exact first h.1
  | finished v =>
    cases h.2 with
    | found source fingerprint hevents => exact first hevents
    | stored source fingerprint hevents => exact first hevents

/-- A file is read once. -/
theorem Task.IsLogged.eq_of_loaded {run : List Event} {task : Task} (h : task.IsLogged policy run)
    {source other fingerprint print : Text} (hsource : .loaded task.target source fingerprint ∈ run)
    (hother : .loaded task.target other print ∈ run) : source = other ∧ fingerprint = print := by
  obtain ⟨target, stage⟩ := task
  rw [← mem_eventsOf_iff rfl] at hsource hother
  have once : ∀ {events : List Event} {text mark : Text}, (∀ e ∈ events, ∀ a b, e ≠ .loaded target a b) →
      eventsOf run target = .loaded target text mark :: events → source = other ∧ fingerprint = print := by
    intro events text mark hrest hevents
    have first : ∀ {a b : Text}, .loaded target a b ∈ eventsOf run target → a = text ∧ b = mark := by
      intro a b hmem
      rw [hevents] at hmem
      rcases List.mem_cons.1 hmem with heq | hmem
      · injection heq with _ htext hmark
        exact ⟨htext, hmark⟩
      · exact absurd rfl (hrest _ hmem a b)
    obtain ⟨rfl, rfl⟩ := first hsource
    obtain ⟨rfl, rfl⟩ := first hother
    exact ⟨rfl, rfl⟩
  cases stage with
  | waiting =>
    rw [show eventsOf run target = [] from h] at hsource
    cases hsource
  | loaded text mark => exact once (by simp) h
  | missed text mark answer => exact once (by simp) h.1
  | finished v =>
    cases h.2 with
    | found text mark hevents => exact once (by simp) hevents
    | stored text mark hevents => exact once (by simp) hevents

namespace Logs

variable {run : List Event} {f : Flight}

/-- No two files of a run have the same path. -/
theorem eq_of_path_eq (h : Logs policy run f) {a b : Target} (ha : a ∈ f.targets) (hb : b ∈ f.targets)
    (heq : a.path = b.path) : a = b :=
  List.inj_on_of_nodup_map h.distinct ha hb heq

/-- All events are about files of the run. -/
theorem mem_of_target? (h : Logs policy run f) {e : Event} (he : e ∈ run) {target : Target}
    (htarget : e.target? = some target) : target ∈ f.targets := by
  rcases h.events e he with ⟨t, ht, heq⟩ | rfl | rfl
  · rw [htarget] at heq
    exact Option.some.inj heq ▸ ht
  · cases htarget
  · cases htarget

/-- A file that was extracted belongs to the run, and was read. -/
theorem mem_of_extracts (h : Logs policy run f) {target : Target} (hextracts : Extracts run target) :
    target ∈ f.targets ∧ ∃ source fingerprint, .loaded target source fingerprint ∈ run := by
  obtain ⟨source, fingerprint, hmem⟩ := id hextracts
  have ht := h.mem_of_target? hmem rfl
  obtain ⟨task, htask, rfl⟩ := List.mem_map.1 ht
  exact ⟨ht, (h.tasks task htask).exists_loaded hextracts⟩

/-- A file is read once. -/
theorem eq_of_loaded (h : Logs policy run f) {target : Target} {source other fingerprint print : Text}
    (hsource : .loaded target source fingerprint ∈ run) (hother : .loaded target other print ∈ run) :
    source = other ∧ fingerprint = print := by
  obtain ⟨task, htask, rfl⟩ := List.mem_map.1 (h.mem_of_target? hsource rfl)
  exact (h.tasks task htask).eq_of_loaded hsource hother

/-! ## Steps -/

/-- The log goes on with an event in which no file is handled. -/
theorem idle (h : Logs policy run f) {e : Event} (he : e = .edited ∨ e = .opened) :
    Logs policy (run ++ [e]) f := by
  have none : e.target? = none ∧ e.isExtraction = false := by
    rcases he with rfl | rfl
    · exact ⟨rfl, rfl⟩
    · exact ⟨rfl, rfl⟩
  refine ⟨h.distinct, h.policy_eq, ?_, fun task htask => ?_, ?_⟩
  · intro x hx
    rcases List.mem_append.1 hx with hx | hx
    · exact h.events x hx
    · rw [List.mem_singleton.1 hx]
      exact .inr he
  · exact (h.tasks task htask).snoc (by rw [none.1]; exact nofun)
  -- no call of the extractor, and no file has become a miss
  · rw [List.countP_append, List.countP_singleton, none.2, if_neg Bool.false_ne_true, Nat.add_zero]
    exact h.misses

/-- The log goes on with an event in which one of the files is handled. -/
theorem move (h : Logs policy run f) {i : Nat} {target : Target} {stage other : Stage}
    (hat : f.At i target stage) {e : Event} (he : e.target? = some target)
    (hnew : Task.IsLogged policy (run ++ [e]) ⟨target, other⟩)
    (hmisses : (if e.isExtraction then 1 else 0) + (if Task.isMiss ⟨target, stage⟩ then 1 else 0)
      = (if Task.isMiss ⟨target, other⟩ then 1 else 0)) :
    Logs policy (run ++ [e]) (f.move i target other) := by
  have htargets : (f.move i target other).targets = f.targets := Flight.targets_move hat
  refine ⟨htargets ▸ h.distinct, h.policy_eq, ?_, ?_, ?_⟩
  · rw [htargets]
    intro x hx
    rcases List.mem_append.1 hx with hx | hx
    · exact h.events x hx
    · rw [List.mem_singleton.1 hx]
      exact .inl ⟨target, Flight.mem_targets_of_at hat, he⟩
  · refine Flight.forall_tasks_move_of_ne h.distinct hat (fun task htask hne => ?_) hnew
    refine (h.tasks task htask).snoc ?_
    rw [he]
    exact fun heq => hne (congrArg Target.path (Option.some.inj heq)).symm
  -- calls and misses grow together: both counts change by what the file changes
  · have count : (f.move i target other).tasks.countP Task.isMiss + _ = _ + _ :=
      Flight.countP_move Task.isMiss hat
    rw [List.countP_append, List.countP_singleton, h.misses]
    omega

end Logs

/-- A step of a run continues its log. -/
theorem Advance.logs {run : List Event} {s s' : Store}
    {f f' : Flight} {e : Event} (hadvance : Advance read (s, f) e (s', f')) (h : Logs policy run f) :
    Logs policy (run ++ [e]) f' := by
  cases hadvance with
  | @load _ _ _ target _ _ hat hcontent =>
    have hevents : eventsOf run target = [] := h.tasks _ (Flight.mem_tasks_of_at hat)
    exact h.move hat rfl ((eventsOf_snoc_self rfl run).trans (by rw [hevents]; rfl)) rfl
  | @find _ _ _ target source fingerprint _ _ hat hanswer =>
    have hevents : eventsOf run target = [.loaded target source fingerprint] :=
      h.tasks _ (Flight.mem_tasks_of_at hat)
    obtain ⟨-, rfl⟩ := answerTo_eq_some hanswer
    refine h.move hat rfl ⟨rfl, .found source fingerprint ?_ rfl⟩ rfl
    exact (eventsOf_snoc_self rfl run).trans (by rw [hevents]; rfl)
  | @miss _ _ _ target source fingerprint _ hat hanswer =>
    have hevents : eventsOf run target = [.loaded target source fingerprint] :=
      h.tasks _ (Flight.mem_tasks_of_at hat)
    refine h.move hat rfl ⟨?_, (answerTo_eq_none hanswer).2⟩ rfl
    exact (eventsOf_snoc_self rfl run).trans (by rw [hevents]; rfl)
  | @keep _ _ _ target source fingerprint answer hat =>
    obtain ⟨hevents, hanswer⟩ := h.tasks _ (Flight.mem_tasks_of_at hat)
    dsimp only at hevents
    -- the call was counted when it was made; the visit that follows is a miss as well
    let v : Visit := ⟨target.key, target.shown.toText, answer, extract f.policy target.shown source⟩
    have missed : v.isHit = false := Bool.eq_false_iff.2 fun hhit => hanswer (isHit_iff.1 hhit)
    refine h.move hat rfl ⟨rfl, .stored source fingerprint ?_ hanswer (by rw [h.policy_eq])⟩ ?_
    · exact (eventsOf_snoc_self rfl run).trans (by rw [hevents]; rfl)
    · change 0 + 1 = if (!v.isHit) = true then 1 else 0
      rw [missed]
      rfl
  | next _ _ =>
    have same := h.idle (.inr rfl)
    exact ⟨same.distinct, same.policy_eq, same.events, same.tasks, same.misses⟩

/-- The log of a run that has just begun. -/
theorem logs_start (policy : Policy) (size : Nat) {list : List Target} (h : (list.map Target.path).Nodup) :
    Logs policy [] (.start policy size list) := by
  refine ⟨(Flight.targets_start policy size list).symm ▸ h, rfl, (fun e he => nomatch he),
    Flight.forall_tasks_start (fun _ => rfl) policy size list, Eq.symm (List.countP_eq_zero.2 ?_)⟩
  exact Flight.forall_tasks_start (fun _ => Bool.false_ne_true) policy size list

/-- The log of a run that has just been launched. -/
theorem logs_launch {disk : Disk} (hdisk : disk.isWellFormed = true) {exclusions : Scan.Exclusions}
    {size : Int} {root : Text} {start : Flight}
    (h : launch? policy disk exclusions size (.ofText root) = some start) : Logs policy [] start := by
  have hkeys := (launch?_spec hdisk h).2.2.2.1
  obtain ⟨listing, real, -, -, -, rfl⟩ := launch?_eq_some_iff.1 h
  rw [Flight.targets_start] at hkeys
  refine logs_start policy _ (List.Nodup.of_map Path.toText ?_)
  rw [List.map_map]
  exact hkeys

/-- A run keeps its log while its files do not change. -/
theorem Flies.logs {run : List Event} {x y : Store × Flight}
    (h : Flies read x run y) (hx : Logs policy [] x.2) : Logs policy run y.2 := by
  induction h with
  | refl => exact hx
  | snoc _ last ih => exact last.logs ih

/-- On the way of a run nothing ends it. -/
theorem Flies.isEnd_eq_false {x y : Store × Flight}
    {events : List Event} (h : Flies read x events y) : ∀ e ∈ events, e.isEnd = false := by
  induction h with
  | refl => exact fun e he => nomatch he
  | snoc _ last ih =>
    intro e he
    rcases List.mem_append.1 he with he | he
    · exact ih e he
    · rw [List.mem_singleton.1 he]
      cases last with
      | _ => rfl

/-- A run that has landed has missed as many files as were extracted. -/
theorem Logs.misses_of_landing {run : List Event} {f : Flight} (h : Logs policy run f) {findings : Findings}
    {counts : Statistics} (hland : f.landing? = some (findings, counts)) :
    counts.misses = run.countP Event.isExtraction := by
  obtain ⟨visits, hvisits, -, rfl⟩ := Flight.exists_visits_of_landing hland
  have same : f.tasks.map Task.isMiss = visits.map fun v => !v.isHit := by
    rw [← List.forall₂_eq_eq_eq, List.forall₂_map_left_iff, List.forall₂_map_right_iff]
    refine hvisits.imp fun task v hv => ?_
    rw [Task.isMiss, hv]
  have count : f.tasks.countP (id ∘ Task.isMiss) = visits.countP (id ∘ fun v => !v.isHit) := by
    rw [← List.countP_map, same, List.countP_map]
  rw [h.misses]
  change ((visits.filter fun v => !v.isHit).length : Int) = _
  rw [← List.countP_eq_length_filter]
  exact congrArg Nat.cast count.symm

end SourceAtlas.Analysis
