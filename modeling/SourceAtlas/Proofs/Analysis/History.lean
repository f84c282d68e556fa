import SourceAtlas.Proofs.Analysis.Sequential

/-!
Histories of a disk and a store. Files are edited, made and removed at any time, even while a run is under
way; between runs the store is cleared, whole or by directory; runs over directories are launched, advance step
by step, and land or are aborted.

Main statement: `exists_reaches_of_directory`.
-/

namespace SourceAtlas.Analysis

/-- A disk, a store, and the run under way if there is one. -/
structure Moment where
  disk : Disk
  store : Store
  flight : Option Flight

/-- The moment before anything has been stored. -/
def Moment.blank (disk : Disk) : Moment := ⟨disk, .empty, none⟩

/-- One step of a history whose runs are under one policy. An edit may change the disk to any other. -/
inductive Step (policy : Policy) : Moment → Event → Moment → Prop
  | edit {m : Moment} {disk : Disk} (h : disk.isWellFormed = true) : Step policy m .edited { m with disk }
  | clear {disk : Disk} {s : Store} : Step policy ⟨disk, s, none⟩ .cleared ⟨disk, s.clear.1, none⟩
  | clearUnder {disk : Disk} {s : Store} (directory : Text) :
      Step policy ⟨disk, s, none⟩ (.clearedUnder directory) ⟨disk, (s.clearUnder directory).1, none⟩
  | launch {disk : Disk} {s : Store} {exclusions : Scan.Exclusions} {size : Int} {root : Text} {f : Flight}
      (h : launch? policy disk exclusions size (.ofText root) = some f) :
      Step policy ⟨disk, s, none⟩ (.launched root) ⟨disk, s, some f⟩
  | advance {disk : Disk} {s s' : Store} {f f' : Flight} {e : Event}
      (h : Advance (Disk.read disk) (s, f) e (s', f')) : Step policy ⟨disk, s, some f⟩ e ⟨disk, s', some f'⟩
  | land {disk : Disk} {s : Store} {f : Flight} {findings : Findings} {statistics : Statistics}
      (h : f.landing? = some (findings, statistics)) :
      Step policy ⟨disk, s, some f⟩ (.landed findings statistics) ⟨disk, s, none⟩
  | abort {disk : Disk} {s : Store} {f : Flight} : Step policy ⟨disk, s, some f⟩ .aborted ⟨disk, s, none⟩

/-- A history leads from one moment to another. -/
inductive Reaches (policy : Policy) (m : Moment) : List Event → Moment → Prop
  | refl : Reaches policy m [] m
  | snoc {events : List Event} {e : Event} {y z : Moment} (before : Reaches policy m events y)
      (last : Step policy y e z) :
      Reaches policy m (events ++ [e]) z

section

variable {policy : Policy} {m y z : Moment} {events more : List Event}

theorem Reaches.single {e : Event} (h : Step policy m e y) : Reaches policy m [e] y := Reaches.refl.snoc h

/-- Histories follow each other. -/
theorem Reaches.trans (h : Reaches policy m events y) (hmore : Reaches policy y more z) :
    Reaches policy m (events ++ more) z := by
  induction hmore with
  | refl => rwa [List.append_nil]
  | snoc _ last ih => rw [← List.append_assoc]; exact ih.snoc last

/-- Disks stay well formed. -/
theorem Reaches.isWellFormed (h : Reaches policy m events y) (hm : m.disk.isWellFormed = true) :
    y.disk.isWellFormed = true := by
  induction h with
  | refl => exact hm
  | snoc _ last ih =>
    cases last with
    | edit hdisk => exact hdisk
    | clear => exact ih
    | clearUnder => exact ih
    | launch => exact ih
    | advance => exact ih
    | land => exact ih
    | abort => exact ih

end

/-- A flight over an unchanged disk is a part of a history. -/
theorem reaches_of_flies {policy : Policy} {disk : Disk} {x y : Store × Flight} {events : List Event}
    (h : Flies (Disk.read disk) x events y) :
    Reaches policy ⟨disk, x.1, some x.2⟩ events ⟨disk, y.1, some y.2⟩ := by
  induction h with
  | refl => exact .refl
  | snoc _ last ih => exact ih.snoc (.advance last)

/-- The analysis of a directory that is completed is a part of a history, from its launch to its landing. -/
theorem exists_reaches_of_directory {disk : Disk} {exclusions : Scan.Exclusions} {size : Int} {root : Text}
    {s : Store} {findings : Findings} {statistics : Statistics}
    (h : (directory disk exclusions size (.ofText root) s).result = .ok (findings, statistics)) :
    ∃ run, Reaches .excludeImports ⟨disk, s, none⟩ (.launched root :: run ++ [.landed findings statistics])
      ⟨disk, (directory disk exclusions size (.ofText root) s).store, none⟩ := by
  obtain ⟨start, run, f, hlaunch, hflies, hland⟩ := exists_flies_of_directory h
  exact ⟨run, ((Reaches.single (.launch hlaunch)).trans (reaches_of_flies hflies)).snoc (.land hland)⟩

/-! ### Sample trees -/

/-- A tree with one file in an inner directory. -/
@[irreducible] def innerTree : Disk :=
  .directory [("p", .directory [("a", .directory [("x.py",
    .file (("def f(): pass\n" : Text).map fun c => UInt8.ofNat c.val))])])]

/-- The file of the tree, as it is seen from an outer and from an inner root. -/
def innerTargets : List Target :=
  [⟨.ofText "/p/a/x.py", .ofText "a/x.py"⟩, ⟨.ofText "/p/a/x.py", .ofText "x.py"⟩]

/-- The tree with a second file beside the first. -/
@[irreducible] def grownTree : Disk :=
  .directory [("p", .directory [("a", .directory [
    ("x.py", .file (("def f(): pass\n" : Text).map fun c => UInt8.ofNat c.val)),
    ("y.py", .file (("def g(): pass\n" : Text).map fun c => UInt8.ofNat c.val))])])]

/-- Its files, seen from the inner directory. -/
def grownTargets : List Target :=
  [⟨.ofText "/p/a/x.py", .ofText "x.py"⟩, ⟨.ofText "/p/a/y.py", .ofText "y.py"⟩]

/-! ## What is read -/

section

variable {read : Path → Except Disk.Failure Bytes} {s s' : Store} {f f' : Flight}

/-- What has been read of a file that is being handled is its content. -/
def Task.IsCurrent (read : Path → Except Disk.Failure Bytes) (task : Task) : Prop :=
  match task.stage with
  | .loaded source fingerprint => content read task.target.path = .ok (source, fingerprint)
  | .missed source fingerprint _ => content read task.target.path = .ok (source, fingerprint)
  | _ => True

/-- What is said to be read in an event is the content of one of these files. -/
def Event.IsCurrent (read : Path → Except Disk.Failure Bytes) (targets : List Target) : Event → Prop
  | .loaded target source fingerprint =>
    target ∈ targets ∧ content read target.path = .ok (source, fingerprint)
  | .extracted target source fingerprint =>
    target ∈ targets ∧ content read target.path = .ok (source, fingerprint)
  | _ => True

/-- A step reads files as they are now, and keeps what has been read. -/
theorem Advance.isCurrent {e : Event} (h : Advance read (s, f) e (s', f'))
    (hf : ∀ task ∈ f.tasks, task.IsCurrent read) :
    (∀ task ∈ f'.tasks, task.IsCurrent read) ∧ e.IsCurrent read f.targets := by
  cases h with
  | load hat hcontent =>
    exact ⟨Flight.forall_tasks_move hf hcontent,
      Flight.mem_targets_of_at hat, hcontent⟩
  | find hat _ => exact ⟨Flight.forall_tasks_move hf trivial, trivial⟩
  | miss hat _ =>
    have hcontent := hf _ (Flight.mem_tasks_of_at hat)
    exact ⟨Flight.forall_tasks_move hf hcontent,
      Flight.mem_targets_of_at hat, hcontent⟩
  | keep hat => exact ⟨Flight.forall_tasks_move hf trivial, trivial⟩
  | next _ _ => exact ⟨hf, trivial⟩

/-- While the disk stays as it is, a run reads and extracts the contents of its files. -/
theorem Flies.isCurrent {x y : Store × Flight} {events : List Event} (h : Flies read x events y)
    (hx : ∀ task ∈ x.2.tasks, task.stage = .waiting) :
    y.2.targets = x.2.targets ∧ (∀ task ∈ y.2.tasks, task.IsCurrent read)
      ∧ ∀ e ∈ events, e.IsCurrent read x.2.targets := by
  induction h with
  | refl =>
    refine ⟨rfl, fun task htask => ?_, fun e he => nomatch he⟩
    rw [Task.IsCurrent, hx task htask]
    trivial
  | snoc _ last ih =>
    obtain ⟨htargets, htasks, hevents⟩ := ih
    obtain ⟨hafter, hlast⟩ := last.isCurrent htasks
    refine ⟨last.targets_eq.trans htargets, hafter, ?_⟩
    intro e he
    rcases List.mem_append.1 he with he | he
    · exact hevents e he
    · rw [List.mem_singleton.1 he, ← htargets]
      exact hlast

/-- An event that is current for some files is so for more. -/
theorem Event.IsCurrent.mono {targets more : List Target} (hsub : targets ⊆ more) {e : Event}
    (h : e.IsCurrent read targets) : e.IsCurrent read more := by
  cases e with
  | loaded => exact ⟨hsub h.1, h.2⟩
  | extracted => exact ⟨hsub h.1, h.2⟩
  | _ => trivial

end

end SourceAtlas.Analysis
