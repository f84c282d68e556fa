import Mathlib.Data.List.Forall2
import SourceAtlas.Proofs.Analysis.Target

/-!
Flights: runs under way, step by step. The files of a batch are handled in any order and interleaved: each is
read, then looked up, and if the store does not have it, extracted and then stored. A batch is opened when
all files before it have been handled.
-/

namespace SourceAtlas.Analysis

/-! ## Runs under way -/

/-- How far a file has come: it waits, its text has been read, the store did not have it and it is being
extracted, or it has been handled. -/
inductive Stage where
  | waiting
  | loaded (source fingerprint : Text)
  | missed (source fingerprint : Text) (answer : Answer)
  | finished (v : Visit)

/-- A file of a run and how far it has come. -/
structure Task where
  target : Target
  stage : Stage

/-- The visit of a file that has been handled. -/
def Task.visit? (task : Task) : Option Visit :=
  match task.stage with
  | .finished v => some v
  | _ => none

/-- A run under way. The first `opened` files are those of the batches begun so far. -/
structure Flight where
  policy : Policy
  size : Nat
  tasks : List Task
  opened : Nat

namespace Flight

/-- A run that has just begun: no batch is open. -/
def start (policy : Policy) (size : Nat) (targets : List Target) : Flight :=
  ⟨policy, size, targets.map fun target => ⟨target, .waiting⟩, 0⟩

/-- A file of the batches begun so far stands at a stage. -/
def At (f : Flight) (i : Nat) (target : Target) (stage : Stage) : Prop :=
  i < f.opened ∧ f.tasks[i]? = some ⟨target, stage⟩

/-- The run with one file moved to another stage. -/
def move (f : Flight) (i : Nat) (target : Target) (stage : Stage) : Flight :=
  { f with tasks := f.tasks.set i ⟨target, stage⟩ }

/-- The files of a run. -/
def targets (f : Flight) : List Target := f.tasks.map Task.target

/-- The visits of a run, once all its files have been handled. -/
def visits? (f : Flight) : Option (List Visit) := f.tasks.mapM Task.visit?

/-- The result of a run, once all its files have been handled. -/
def landing? (f : Flight) : Option (Findings × Statistics) :=
  f.visits?.map fun visits => (collect visits, statistics f.tasks.length visits)

end Flight

/-! ## Steps -/

/-- What happens to a disk and a store: edits, clears, and the steps of runs. `extracted` is a call of the
extractor, for a file that has been read with this text and fingerprint. -/
inductive Event where
  | edited
  | cleared
  | clearedUnder (directory : Text)
  | launched (root : Text)
  | loaded (target : Target) (source fingerprint : Text)
  | found (target : Target)
  | extracted (target : Target) (source fingerprint : Text)
  | kept (target : Target)
  | opened
  | landed (findings : Findings) (statistics : Statistics)
  | aborted

/-- One step of a run: a file is read, it is found in the store, it is not and the extractor is called for it,
its chunks are stored, or the next batch is opened. -/
inductive Advance (read : Path → Except Disk.Failure Bytes) : Store × Flight → Event → Store × Flight → Prop
  | load {s : Store} {f : Flight} {i : Nat} {target : Target} {source fingerprint : Text}
      (hat : f.At i target .waiting) (hcontent : content read target.path = .ok (source, fingerprint)) :
      Advance read (s, f) (.loaded target source fingerprint)
        (s, f.move i target (.loaded source fingerprint))
  | find {s : Store} {f : Flight} {i : Nat} {target : Target} {source fingerprint : Text}
      {chunks : List Chunk} {answer : Answer} (hat : f.At i target (.loaded source fingerprint))
      (hanswer : answerTo fingerprint (s.get target.key) = (some chunks, answer)) :
      Advance read (s, f) (.found target)
        (s, f.move i target (.finished ⟨target.key, target.shown.toText, answer, chunks⟩))
  | miss {s : Store} {f : Flight} {i : Nat} {target : Target} {source fingerprint : Text}
      {answer : Answer} (hat : f.At i target (.loaded source fingerprint))
      (hanswer : answerTo fingerprint (s.get target.key) = (none, answer)) :
      Advance read (s, f) (.extracted target source fingerprint)
        (s, f.move i target (.missed source fingerprint answer))
  | keep {s : Store} {f : Flight} {i : Nat} {target : Target} {source fingerprint : Text}
      {answer : Answer} (hat : f.At i target (.missed source fingerprint answer)) :
      Advance read (s, f) (.kept target)
        (s.put target.key fingerprint (extract f.policy target.shown source),
          f.move i target (.finished ⟨target.key, target.shown.toText, answer,
            extract f.policy target.shown source⟩))
  | next {s : Store} {f : Flight} (hdone : ∀ task ∈ f.tasks.take f.opened, task.visit?.isSome = true)
      (hmore : f.opened < f.tasks.length) :
      Advance read (s, f) .opened (s, { f with opened := f.opened + f.size })

/-- A run flies from one state to another, with these events on the way, while files can be read so. -/
inductive Flies (read : Path → Except Disk.Failure Bytes) :
    Store × Flight → List Event → Store × Flight → Prop
  | refl (x : Store × Flight) : Flies read x [] x
  | snoc {x y z : Store × Flight} {events : List Event} {e : Event} (before : Flies read x events y)
      (last : Advance read y e z) : Flies read x (events ++ [e]) z

/-- How a run may end: all its files have been handled, or one of those that wait cannot be read. -/
inductive Flight.Ends (read : Path → Except Disk.Failure Bytes) (f : Flight) :
    Except Fault (Findings × Statistics) → Prop
  | landed {result : Findings × Statistics} (hland : f.landing? = some result) : Ends read f (.ok result)
  | failed {i : Nat} {target : Target} {fault : Fault} (hat : f.At i target .waiting)
      (hcontent : content read target.path = .error fault) : Ends read f (.error fault)

/-! ## Composition -/

section

variable {read : Path → Except Disk.Failure Bytes} {x y z : Store × Flight} {events more : List Event}

theorem Flies.single {e : Event} (h : Advance read x e y) : Flies read x [e] y := (Flies.refl x).snoc h

/-- Runs follow each other. -/
theorem Flies.trans (h : Flies read x events y) (hmore : Flies read y more z) :
    Flies read x (events ++ more) z := by
  induction hmore with
  | refl => rwa [List.append_nil]
  | snoc _ last ih => rw [← List.append_assoc]; exact ih.snoc last

end

namespace Flight

variable {f : Flight} {i : Nat} {target : Target} {stage other : Stage}

/-- A file that has been moved on is at its new stage. -/
theorem at_move_self (h : f.At i target stage) : (f.move i target other).At i target other := by
  refine ⟨h.1, ?_⟩
  obtain ⟨hlt, -⟩ := List.getElem?_eq_some_iff.1 h.2
  rw [move, List.getElem?_set_self hlt]

/-- Of two moves of a file the last one counts. -/
theorem move_move : (f.move i target stage).move i target other = f.move i target other := by
  rw [move, move, move, List.set_set]

/-- What holds of all waiting files holds of the files of a run that begins. -/
theorem forall_tasks_start {P : Task → Prop} (h : ∀ target, P ⟨target, .waiting⟩) (policy : Policy) (size : Nat)
    (list : List Target) : ∀ task ∈ (start policy size list).tasks, P task :=
  List.forall_mem_map.2 fun target _ => h target

/-- What holds of all files of a run still does after one has moved, if it holds of that one. -/
theorem forall_tasks_move {P : Task → Prop} (h : ∀ task ∈ f.tasks, P task) (hnew : P ⟨target, stage⟩) :
    ∀ task ∈ (f.move i target stage).tasks, P task := by
  intro task htask
  rcases List.mem_or_eq_of_mem_set htask with htask | rfl
  · exact h task htask
  · exact hnew

/-- What holds of all other files of a run, no two of which share a path, and of a file that has moved, holds
of all files. -/
theorem forall_tasks_move_of_ne {P : Task → Prop} (hdistinct : (f.targets.map Target.path).Nodup)
    (hat : f.At i target stage) (h : ∀ task ∈ f.tasks, task.target.path ≠ target.path → P task)
    (hnew : P ⟨target, other⟩) : ∀ task ∈ (f.move i target other).tasks, P task := by
  intro task htask
  obtain ⟨j, hj⟩ := List.mem_iff_getElem?.1 htask
  by_cases heq : i = j
  · rw [← heq, (at_move_self hat).2] at hj
    rw [← Option.some.inj hj]
    exact hnew
  · rw [move, List.getElem?_set_ne heq] at hj
    -- a file at another place of the run has another path
    refine h task (List.mem_of_getElem? hj) fun same => heq ?_
    obtain ⟨hi, -⟩ := List.getElem?_eq_some_iff.1 hat.2
    refine (List.getElem?_inj (by rwa [targets, List.length_map, List.length_map]) hdistinct).1 ?_
    simp [targets, hat.2, hj, same]

/-- A file that moves leaves the count of those that it does not belong to. -/
theorem countP_move (p : Task → Bool) (hat : f.At i target stage) :
    (f.move i target other).tasks.countP p + (if p ⟨target, stage⟩ then 1 else 0)
      = f.tasks.countP p + (if p ⟨target, other⟩ then 1 else 0) := by
  obtain ⟨hi, hget⟩ := List.getElem?_eq_some_iff.1 hat.2
  have old := List.boole_getElem_le_countP (p := p) hi
  rw [hget] at old
  rw [move, List.countP_set hi, hget]
  omega

/-- A file at a stage is one of the tasks. -/
theorem mem_tasks_of_at (h : f.At i target stage) : ⟨target, stage⟩ ∈ f.tasks := List.mem_of_getElem? h.2

/-- It is one of the targets. -/
theorem mem_targets_of_at (h : f.At i target stage) : target ∈ f.targets :=
  List.mem_map.2 ⟨_, mem_tasks_of_at h, rfl⟩

/-- Files move, but stay the same files. -/
theorem targets_move (h : f.At i target stage) : (f.move i target other).targets = f.targets := by
  have same : (f.tasks.map Task.target)[i]? = some target := by
    rw [List.getElem?_map, h.2]
    rfl
  obtain ⟨hlt, hget⟩ := List.getElem?_eq_some_iff.1 same
  rw [targets, targets, move, List.map_set, ← hget, List.set_getElem_self]

/-- At first the targets are those of the list. -/
theorem targets_start (policy : Policy) (size : Nat) (list : List Target) :
    (start policy size list).targets = list := by
  rw [targets, start, List.map_map]
  exact List.map_id _

end Flight

/-- A run keeps its files. -/
theorem Advance.targets_eq {read : Path → Except Disk.Failure Bytes} {s s' : Store} {f f' : Flight} {e : Event}
    (h : Advance read (s, f) e (s', f')) : f'.targets = f.targets := by
  cases h with
  | load hat _ => exact Flight.targets_move hat
  | find hat _ => exact Flight.targets_move hat
  | miss hat _ => exact Flight.targets_move hat
  | keep hat => exact Flight.targets_move hat
  | next _ _ => rfl

/-! ## Answers -/

/-- Chunks are taken over exactly from an entry with the fingerprint. -/
theorem answerTo_eq_some {fingerprint : Text} {finding : Store.Finding} {chunks : List Chunk} {answer : Answer}
    (h : answerTo fingerprint finding = (some chunks, answer)) :
    finding = .entry fingerprint chunks ∧ answer = .hit := by
  cases finding with
  | missing => cases h
  | unreadable payload fault => cases h
  | entry stored found =>
    by_cases heq : stored = fingerprint
    · subst heq
      simp only [answerTo, Store.Finding.chunksFor?, if_pos] at h
      obtain ⟨hchunks, hanswer⟩ := Prod.mk.inj h
      exact ⟨by rw [Option.some.inj hchunks], hanswer.symm⟩
    · simp [answerTo, Store.Finding.chunksFor?, heq] at h

/-- They are not where there is no entry with the fingerprint. -/
theorem answerTo_eq_none {fingerprint : Text} {finding : Store.Finding} {answer : Answer}
    (h : answerTo fingerprint finding = (none, answer)) :
    (∀ chunks, finding ≠ .entry fingerprint chunks) ∧ answer ≠ .hit := by
  cases finding with
  | missing =>
    obtain ⟨-, rfl⟩ := Prod.mk.inj h
    exact ⟨nofun, nofun⟩
  | unreadable payload fault =>
    obtain ⟨-, rfl⟩ := Prod.mk.inj h
    exact ⟨nofun, nofun⟩
  | entry stored found =>
    by_cases heq : stored = fingerprint
    · simp [answerTo, Store.Finding.chunksFor?, heq] at h
    · simp only [answerTo, Store.Finding.chunksFor?, if_neg heq] at h
      obtain ⟨-, rfl⟩ := Prod.mk.inj h
      refine ⟨fun chunks same => ?_, nofun⟩
      injection same with stored_eq
      exact heq stored_eq

/-! ## What is collected -/

/-- What is in a list after something has been set is that or was there before. -/
theorem eq_or_mem_of_mem_set {κ α : Type} [DecidableEq κ] {key : κ} {value : α} {entries : List (κ × α)}
    {entry : κ × α} (h : entry ∈ Association.set key value entries) : entry = (key, value) ∨ entry ∈ entries := by
  induction entries with
  | nil => exact .inl (List.mem_singleton.1 h)
  | cons e rest ih =>
    unfold Association.set at h
    split at h
    · next heq =>
      rcases List.mem_cons.1 h with rfl | h
      · exact .inl (by rw [heq])
      · exact .inr (List.mem_cons_of_mem e h)
    · rcases List.mem_cons.1 h with rfl | h
      · exact .inr List.mem_cons_self
      · exact (ih h).imp id (List.mem_cons_of_mem e)

/-- What is collected are chunks of files that were handled. -/
theorem exists_visit_of_mem_collect {visits : List Visit} {entry : Text × List Chunk}
    (h : entry ∈ collect visits) : ∃ v ∈ visits, entry = (v.shown, v.chunks) := by
  unfold collect at h
  induction visits using List.reverseRecOn with
  | nil => cases h
  | append_singleton visits v ih =>
    rw [List.foldl_append, List.foldl_cons, List.foldl_nil, collectOne] at h
    split at h
    · obtain ⟨w, hw, heq⟩ := ih h
      exact ⟨w, List.mem_append_left _ hw, heq⟩
    · rcases eq_or_mem_of_mem_set h with rfl | h
      · exact ⟨v, List.mem_append_right _ List.mem_cons_self, rfl⟩
      · obtain ⟨w, hw, heq⟩ := ih h
        exact ⟨w, List.mem_append_left _ hw, heq⟩

/-! ## Landings -/

/-- Each element on the left has a partner. -/
theorem exists_of_mem_forall₂ {α β : Type} {R : α → β → Prop} {as : List α} {bs : List β}
    (h : List.Forall₂ R as bs) {a : α} (ha : a ∈ as) : ∃ b, R a b := by
  induction h with
  | nil => cases ha
  | cons hfirst _ ih =>
    rcases List.mem_cons.1 ha with rfl | ha
    · exact ⟨_, hfirst⟩
    · exact ih ha

/-- Each element on the right has one on the left. -/
theorem exists_mem_of_mem_forall₂ {α β : Type} {R : α → β → Prop} {as : List α} {bs : List β}
    (h : List.Forall₂ R as bs) {b : β} (hb : b ∈ bs) : ∃ a ∈ as, R a b :=
  exists_of_mem_forall₂ ((List.forall₂_and_left as bs).2 ⟨fun _ ha => ha, h⟩).flip hb

/-- If all tasks have visits, each is finished with its own. -/
theorem forall₂_of_mapM_visit? {tasks : List Task} {visits : List Visit}
    (h : tasks.mapM Task.visit? = some visits) :
    List.Forall₂ (fun task v => task.stage = .finished v) tasks visits := by
  induction tasks generalizing visits with
  | nil =>
    obtain rfl := Option.some.inj h
    exact .nil
  | cons task rest ih =>
    rw [List.mapM_cons] at h
    obtain ⟨v, hv, h⟩ := Option.bind_eq_some_iff.1 h
    obtain ⟨more, hmore, h⟩ := Option.bind_eq_some_iff.1 h
    obtain rfl := Option.some.inj h
    refine .cons ?_ (ih hmore)
    unfold Task.visit? at hv
    split at hv
    · next heq => rw [heq, Option.some.inj hv]
    · cases hv

/-- A run lands with what the visits of its files come to. -/
theorem Flight.exists_visits_of_landing {f : Flight} {findings : Findings} {counts : Statistics}
    (h : f.landing? = some (findings, counts)) :
    ∃ visits, List.Forall₂ (fun task v => task.stage = .finished v) f.tasks visits
      ∧ findings = collect visits ∧ counts = statistics f.tasks.length visits := by
  obtain ⟨visits, hvisits, heq⟩ := Option.map_eq_some_iff.1 h
  obtain ⟨hfindings, hcounts⟩ := Prod.mk.inj heq
  exact ⟨visits, forall₂_of_mapM_visit? hvisits, hfindings.symm, hcounts.symm⟩

/-- Then each target is, too. -/
theorem Flight.forall₂_targets {f : Flight} {visits : List Visit}
    (h : List.Forall₂ (fun task v => task.stage = .finished v) f.tasks visits) :
    List.Forall₂ (fun target v => ⟨target, .finished v⟩ ∈ f.tasks) f.targets visits := by
  refine List.forall₂_map_left_iff.2 (((List.forall₂_and_left _ _).2 ⟨fun task htask => htask, h⟩).imp ?_)
  rintro ⟨target, stage⟩ v ⟨hmem, rfl⟩
  exact hmem

/-- All files of a run that has landed have been handled. -/
theorem Flight.exists_visit_of_landing {f : Flight} {result : Findings × Statistics}
    (hland : f.landing? = some result) {target : Target} (ht : target ∈ f.targets) :
    ∃ v, ⟨target, .finished v⟩ ∈ f.tasks := by
  obtain ⟨visits, hvisits, -, -⟩ := exists_visits_of_landing hland
  exact exists_of_mem_forall₂ (forall₂_targets hvisits) ht

/-! ## Launches -/

/-- The run over the files of a directory under a policy, if it can be begun. -/
def launch? (policy : Policy) (disk : Disk) (exclusions : Scan.Exclusions) (size : Int) (root : Path) :
    Option Flight :=
  match Scan.scan disk exclusions root with
  | .error _ => none
  | .ok listing =>
    if size < 1 then none
    else match Disk.resolve disk root with
    | .error _ => none
    | .ok real =>
      some (.start policy size.toNat (targets real (listing.files.map FoundFile.path)))

/-- A run is launched once the directory is scanned, its root is real and the batches have a size. -/
theorem launch?_eq_some_iff {policy : Policy} {disk : Disk} {exclusions : Scan.Exclusions} {size : Int}
    {root : Path} {start : Flight} : launch? policy disk exclusions size root = some start
      ↔ ∃ listing real, Scan.scan disk exclusions root = .ok listing ∧ ¬ size < 1
        ∧ Disk.resolve disk root = .ok real
        ∧ start = .start policy size.toNat (targets real (listing.files.map FoundFile.path)) := by
  unfold launch?
  constructor
  · intro h
    split at h
    · cases h
    · next listing hscan =>
      split at h
      · cases h
      · next hsize =>
        split at h
        · cases h
        · next real hreal => exact ⟨listing, real, hscan, hsize, hreal, (Option.some.inj h).symm⟩
  · rintro ⟨listing, real, hscan, hsize, hreal, rfl⟩
    rw [hscan]
    dsimp only
    rw [if_neg hsize, hreal]

theorem targets_eq_of_launch? {policy : Policy} {disk : Disk} {exclusions : Scan.Exclusions} {size : Int}
    {root : Path} {start : Flight} (h : launch? policy disk exclusions size root = some start)
    {list : List Target} (hlist : (launch? policy disk exclusions size root).map Flight.targets = some list) :
    start.targets = list := by
  rw [h] at hlist
  exact Option.some.inj hlist

/-- A run over a directory of a well-formed disk begins with all its files waiting. They are proper, and no
two of them share a key or are seen by the same path. -/
theorem launch?_spec {policy : Policy} {disk : Disk} (hdisk : disk.isWellFormed = true)
    {exclusions : Scan.Exclusions} {size : Int} {root : Path} {start : Flight}
    (h : launch? policy disk exclusions size root = some start) :
    start.policy = policy ∧ (∀ task ∈ start.tasks, task.stage = .waiting)
      ∧ (∀ t ∈ start.targets, t.IsProper) ∧ (start.targets.map Target.key).Nodup
      ∧ (start.targets.map fun t => t.shown.toText).Nodup := by
  obtain ⟨listing, real, hscan, -, hreal, rfl⟩ := launch?_eq_some_iff.1 h
  obtain ⟨proper, keys, shown⟩ := targets_spec hdisk hscan hreal
  refine ⟨rfl, Flight.forall_tasks_start (fun _ => rfl) _ _ _, ?_, ?_, ?_⟩
  · rwa [Flight.targets_start]
  · rwa [Flight.targets_start]
  · rwa [Flight.targets_start]

end SourceAtlas.Analysis
