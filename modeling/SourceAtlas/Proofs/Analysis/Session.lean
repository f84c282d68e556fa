import SourceAtlas.Proofs.Analysis.History
import SourceAtlas.Proofs.Store.Table

/-!
Sessions. Runs over any lists of files, each under a policy of its own, follow one another on one store. Files
are edited at any time, also while a run is under way; a run lands, or is aborted wherever it stands; between
runs the store is cleared. Whatever happens, a row holds the fingerprint and the chunks of one text, which a run
has read from a file of its key and extracted as it saw this file.

Main statement: `exists_writing_of_mem_rows`.
-/

namespace SourceAtlas.Analysis

/-- What a run is asked for. -/
structure Order where
  policy : Policy
  size : Int
  root : Path
  paths : List Path

/-- The run of an order whose root is found to be `real`. -/
def Order.flight (order : Order) (real : Path) : Flight :=
  .start order.policy order.size.toNat (targets real order.paths)

/-- What is done to a disk and a store. -/
inductive Deed where
  | edited
  | cleared
  | clearedUnder (directory : Text)
  | began (order : Order) (real : Path)
  | advanced (e : Event)
  | landed (findings : Findings) (statistics : Statistics)
  | aborted

/-- May it be done while a run is under way, without an end to this? -/
def Deed.isUnderWay : Deed → Bool
  | .edited => true
  | .advanced _ => true
  | _ => false

/-- One step of a session. An edit may change the disk to any other. -/
inductive Turn : Moment → Deed → Moment → Prop
  | edit {m : Moment} {disk : Disk} : Turn m .edited { m with disk }
  | clear {disk : Disk} {s : Store} : Turn ⟨disk, s, none⟩ .cleared ⟨disk, s.clear.1, none⟩
  | clearUnder {disk : Disk} {s : Store} (directory : Text) :
      Turn ⟨disk, s, none⟩ (.clearedUnder directory) ⟨disk, (s.clearUnder directory).1, none⟩
  | start {disk : Disk} {s : Store} {order : Order} {real : Path} (hsize : ¬ order.size < 1)
      (hreal : Disk.resolve disk order.root = .ok real) :
      Turn ⟨disk, s, none⟩ (.began order real) ⟨disk, s, some (order.flight real)⟩
  | advance {disk : Disk} {s s' : Store} {f f' : Flight} {e : Event}
      (h : Advance (Disk.read disk) (s, f) e (s', f')) :
      Turn ⟨disk, s, some f⟩ (.advanced e) ⟨disk, s', some f'⟩
  | land {disk : Disk} {s : Store} {f : Flight} {findings : Findings} {statistics : Statistics}
      (h : f.landing? = some (findings, statistics)) :
      Turn ⟨disk, s, some f⟩ (.landed findings statistics) ⟨disk, s, none⟩
  | abort {disk : Disk} {s : Store} {f : Flight} : Turn ⟨disk, s, some f⟩ .aborted ⟨disk, s, none⟩

/-- A session leads from one moment to another. -/
inductive Session (m : Moment) : List Deed → Moment → Prop
  | refl : Session m [] m
  | snoc {deeds : List Deed} {d : Deed} {y z : Moment} (before : Session m deeds y) (last : Turn y d z) :
      Session m (deeds ++ [d]) z

section

variable {m y z : Moment} {deeds more : List Deed} {d : Deed}

theorem Session.single (h : Turn m d y) : Session m [d] y := Session.refl.snoc h

/-- Sessions follow each other. -/
theorem Session.trans (h : Session m deeds y) (hmore : Session y more z) : Session m (deeds ++ more) z := by
  induction hmore with
  | refl => rwa [List.append_nil]
  | snoc _ last ih => rw [← List.append_assoc]; exact ih.snoc last

/-- Before its last deed a session has come to some state. -/
theorem Session.exists_of_snoc (h : Session m (deeds ++ [d]) z) : ∃ y, Session m deeds y ∧ Turn y d z := by
  generalize hall : deeds ++ [d] = all at h
  cases h with
  | refl => exact absurd hall (by simp)
  | snoc before last =>
    obtain ⟨rfl, hlast⟩ := List.append_inj' hall rfl
    obtain rfl : d = _ := List.singleton_inj.1 hlast
    exact ⟨_, before, last⟩

/-- What was done in a session was done at some moment. -/
theorem Session.exists_turn {front back : List Deed} (h : Session m (front ++ d :: back) z) :
    ∃ x y, Session m front x ∧ Turn x d y := by
  induction back using List.reverseRecOn generalizing z with
  | nil =>
    obtain ⟨x, hfront, hturn⟩ := h.exists_of_snoc
    exact ⟨x, z, hfront, hturn⟩
  | append_singleton back last ih =>
    rw [← List.cons_append, ← List.append_assoc] at h
    obtain ⟨y, hbefore, -⟩ := h.exists_of_snoc
    exact ih hbefore

end

/-- A flight over an unchanged disk is a part of a session. -/
theorem session_of_flies {disk : Disk} {x y : Store × Flight} {events : List Event}
    (h : Flies (Disk.read disk) x events y) :
    Session ⟨disk, x.1, some x.2⟩ (events.map .advanced) ⟨disk, y.1, some y.2⟩ := by
  induction h with
  | refl => exact .refl
  | snoc _ last ih =>
    rw [List.map_append]
    exact ih.snoc (.advance last)

/-- A history of runs over directories is a session. -/
theorem Reaches.exists_session {policy : Policy} {m y : Moment} {events : List Event}
    (h : Reaches policy m events y) : ∃ deeds, Session m deeds y := by
  induction h with
  | refl => exact ⟨_, .refl⟩
  | snoc _ last ih =>
    obtain ⟨deeds, hdeeds⟩ := ih
    have turn : ∀ {x z : Moment} {e : Event}, Step policy x e z → ∃ d, Turn x d z := by
      intro x z e hstep
      cases hstep with
      | edit => exact ⟨_, .edit⟩
      | clear => exact ⟨_, .clear⟩
      | clearUnder directory => exact ⟨_, .clearUnder directory⟩
      | launch hlaunch =>
        obtain ⟨listing, real, -, hsize, hreal, rfl⟩ := launch?_eq_some_iff.1 hlaunch
        exact ⟨.began ⟨policy, _, _, listing.files.map FoundFile.path⟩ real, .start hsize hreal⟩
      | advance hadvance => exact ⟨_, .advance hadvance⟩
      | land hland => exact ⟨_, .land hland⟩
      | abort => exact ⟨_, .abort⟩
    obtain ⟨d, hturn⟩ := turn last
    exact ⟨_, hdeeds.snoc hturn⟩

/-! ## Runs of a session -/

/-- A file that is being handled has been read, and extracted if it was missed. -/
def Task.IsRead (run : List Deed) (task : Task) : Prop :=
  match task.stage with
  | .loaded source fingerprint => .advanced (.loaded task.target source fingerprint) ∈ run
  | .missed source fingerprint _ =>
    .advanced (.loaded task.target source fingerprint) ∈ run
      ∧ .advanced (.extracted task.target source fingerprint) ∈ run
  | _ => True

/-- A run carries out an order, and has done so far what is said. -/
structure Flight.CarriesOut (order : Order) (real : Path) (run : List Deed) (f : Flight) : Prop where
  policy_eq : f.policy = order.policy
  targets_eq : f.targets = Analysis.targets real order.paths
  tasks : ∀ task ∈ f.tasks, task.IsRead run

/-- What a task has read stays so when more is done. -/
theorem Task.IsRead.mono {run more : List Deed} {task : Task} (h : task.IsRead run) (hsub : run ⊆ more) :
    task.IsRead more := by
  obtain ⟨target, stage⟩ := task
  cases stage with
  | waiting => trivial
  | loaded source fingerprint => exact hsub h
  | missed source fingerprint answer => exact ⟨hsub h.1, hsub h.2⟩
  | finished v => trivial

namespace Flight.CarriesOut

variable {order : Order} {real : Path} {run more : List Deed} {f f' : Flight}

/-- A flight carries out its order still when more is done. -/
theorem mono (h : f.CarriesOut order real run) (hsub : run ⊆ more) : f.CarriesOut order real more :=
  ⟨h.policy_eq, h.targets_eq, fun task htask => (h.tasks task htask).mono hsub⟩

/-- It does so when a file goes on with what has been read of it. -/
theorem move (h : f.CarriesOut order real run) {i : Nat} {target : Target} {stage other : Stage}
    (hat : f.At i target stage) (hnew : Task.IsRead run ⟨target, other⟩) :
    (f.move i target other).CarriesOut order real run :=
  ⟨h.policy_eq, (Flight.targets_move hat).trans h.targets_eq, Flight.forall_tasks_move h.tasks hnew⟩

/-- A step of a run goes on with the order. -/
theorem advance (h : f.CarriesOut order real run) {read : Path → Except Disk.Failure Bytes} {s s' : Store}
    {e : Event} (hadvance : Advance read (s, f) e (s', f')) :
    f'.CarriesOut order real (run ++ [.advanced e]) := by
  have before := h.mono (List.subset_append_left run [.advanced e])
  cases hadvance with
  | load hat _ => exact before.move hat (List.mem_append_right run List.mem_cons_self)
  | find hat _ => exact before.move hat trivial
  | miss hat _ =>
    exact before.move hat
      ⟨before.tasks _ (Flight.mem_tasks_of_at hat), List.mem_append_right run List.mem_cons_self⟩
  | keep hat => exact before.move hat trivial
  | next _ _ => exact ⟨before.policy_eq, before.targets_eq, before.tasks⟩

end Flight.CarriesOut

/-- At first nothing needs to have been read. -/
theorem Order.carriesOut_flight (order : Order) (real : Path) : (order.flight real).CarriesOut order real [] := by
  exact ⟨rfl, Flight.targets_start _ _ _, Flight.forall_tasks_start (fun _ => trivial) _ _ _⟩

/-- What holds of a run when it begins, and is kept by edits and by its own steps, holds while it is under way. -/
theorem Session.run_induction {m : Moment} {past : List Deed} {order : Order} {real : Path}
    {P : List Deed → Store → Flight → Prop}
    (hstart : ∀ disk s, Session m past ⟨disk, s, none⟩ → P [] s (order.flight real))
    (hedit : ∀ run s f, P run s f → P (run ++ [.edited]) s f)
    (hadvance : ∀ run disk s f e s' f', Session m (past ++ .began order real :: run) ⟨disk, s, some f⟩ →
      (∀ d ∈ run, d.isUnderWay = true) → Advance (Disk.read disk) (s, f) e (s', f') → P run s f →
        P (run ++ [.advanced e]) s' f')
    {run : List Deed} {z : Moment} (h : Session m (past ++ .began order real :: run) z)
    (hrun : ∀ d ∈ run, d.isUnderWay = true) : ∃ f, z.flight = some f ∧ P run z.store f := by
  induction run using List.reverseRecOn generalizing z with
  | nil =>
    obtain ⟨y, hbefore, hturn⟩ := h.exists_of_snoc
    cases hturn with
    | start => exact ⟨_, rfl, hstart _ _ hbefore⟩
  | append_singleton run last ih =>
    rw [← List.cons_append, ← List.append_assoc] at h
    obtain ⟨y, hbefore, hturn⟩ := h.exists_of_snoc
    obtain ⟨hfront, hend⟩ := List.forall_mem_append.1 hrun
    obtain ⟨f, hf, hP⟩ := ih hbefore hfront
    have hlast := hend last List.mem_cons_self
    cases hturn with
    | edit => exact ⟨f, hf, hedit _ _ _ hP⟩
    | advance hstep =>
      obtain rfl := Option.some.inj hf
      exact ⟨_, rfl, hadvance _ _ _ _ _ _ _ hbefore hfront hstep hP⟩
    | clear => cases hlast
    | clearUnder => cases hlast
    | start => cases hlast
    | land => cases hlast
    | abort => cases hlast

/-- A run that was begun and has not ended carries out its order. -/
theorem Session.carriesOut {m z : Moment} {past run : List Deed} {order : Order} {real : Path}
    (h : Session m (past ++ .began order real :: run) z) (hrun : ∀ d ∈ run, d.isUnderWay = true) :
    ∃ f, z.flight = some f ∧ f.CarriesOut order real run :=
  Session.run_induction (P := fun run _ f => f.CarriesOut order real run)
    (fun _ _ _ => order.carriesOut_flight real)
    (fun run _ _ hf => hf.mono (List.subset_append_left run _))
    (fun _ _ _ _ _ _ _ _ _ hadvance hf => hf.advance hadvance) h hrun

/-- A run under way was begun, and has not ended since. -/
theorem Session.exists_began {m z : Moment} {deeds : List Deed} (h : Session m deeds z) (hm : m.flight = none)
    {f : Flight} (hz : z.flight = some f) :
    ∃ past order real run, deeds = past ++ .began order real :: run ∧ ∀ d ∈ run, d.isUnderWay = true := by
  induction h generalizing f with
  | refl => rw [hm] at hz; cases hz
  | @snoc deeds d y z before last ih =>
    have goesOn : ∀ {f}, y.flight = some f → d.isUnderWay = true → ∃ past order real run,
        deeds ++ [d] = past ++ .began order real :: run ∧ ∀ d ∈ run, d.isUnderWay = true := by
      intro f hy hd
      obtain ⟨past, order, real, run, rfl, hrun⟩ := ih hy
      refine ⟨past, order, real, run ++ [d], by simp, List.forall_mem_append.2 ⟨hrun, ?_⟩⟩
      exact List.forall_mem_singleton.2 hd
    cases last with
    | edit => exact goesOn hz rfl
    | advance => exact goesOn rfl rfl
    | start => exact ⟨deeds, _, _, [], rfl, fun d hd => nomatch hd⟩
    | clear => cases hz
    | clearUnder => cases hz
    | land => cases hz
    | abort => cases hz

/-! ## Who wrote a row -/

/-- What a row stems from: a file, as it is seen by the run of an order, and the text that was read from it. -/
structure Origin where
  order : Order
  real : Path
  target : Target
  source : Text
  fingerprint : Text

/-- The row of an origin. -/
def Origin.row (o : Origin) : Row :=
  ⟨Store.storageKey o.target.key, o.fingerprint,
    Payload.write (extract o.order.policy o.target.shown o.source)⟩

/-- How the row of an origin was written in a session: a run was begun, it has read the file, it has extracted
it and it has stored what came of that. Since then no row of this key was stored. -/
structure Writing (deeds : List Deed) extends Origin where
  before : List Deed
  reading : List Deed
  during : List Deed
  since : List Deed
  deeds_eq : deeds = before ++ .began order real :: (reading ++ .advanced (.loaded target source fingerprint)
    :: (during ++ .advanced (.kept target) :: since))
  isTarget : target ∈ targets real order.paths
  isUnderWay : ∀ d ∈ reading ++ during, d.isUnderWay = true
  wasExtracted : .advanced (.extracted target source fingerprint) ∈ reading ++ during
  isLast : ∀ other, .advanced (.kept other) ∈ since → Store.storageKey other.key ≠ Store.storageKey target.key

/-- A row has still been written so after a step that stores no row of its key. -/
def Writing.snoc {deeds : List Deed} (w : Writing deeds) {d : Deed}
    (hd : ∀ other, d = .advanced (.kept other) → Store.storageKey other.key ≠ Store.storageKey w.target.key) :
    Writing (deeds ++ [d]) where
  toOrigin := w.toOrigin
  before := w.before
  reading := w.reading
  during := w.during
  since := w.since ++ [d]
  deeds_eq := (congrArg (· ++ [d]) w.deeds_eq).trans (by simp)
  isTarget := w.isTarget
  isUnderWay := w.isUnderWay
  wasExtracted := w.wasExtracted
  isLast other hother := by
    rcases List.mem_append.1 hother with hother | hother
    · exact w.isLast other hother
    · exact hd other (List.mem_singleton.1 hother).symm

/-- A run that stores a file has just written its row. -/
theorem exists_writing_of_keep (past : List Deed) {run : List Deed} {order : Order} {real : Path} {f : Flight}
    (hrun : ∀ d ∈ run, d.isUnderWay = true) (hf : f.CarriesOut order real run) {i : Nat} {target : Target}
    {source fingerprint : Text} {answer : Answer} (hat : f.At i target (.missed source fingerprint answer)) :
    ∃ w : Writing (past ++ .began order real :: run ++ [.advanced (.kept target)]),
      w.toOrigin = ⟨order, real, target, source, fingerprint⟩ := by
  obtain ⟨hloaded, hextracted⟩ := hf.tasks _ (Flight.mem_tasks_of_at hat)
  obtain ⟨reading, during, rfl⟩ := List.append_of_mem hloaded
  have underWay : ∀ d ∈ reading ++ during, d.isUnderWay = true :=
    fun d hd => hrun d (by simp only [List.mem_append, List.mem_cons] at hd ⊢; tauto)
  have extracted : .advanced (.extracted target source fingerprint) ∈ reading ++ during := by
    simpa using hextracted
  exact ⟨⟨⟨order, real, target, source, fingerprint⟩, past, reading, during, [], by simp,
    hf.targets_eq ▸ Flight.mem_targets_of_at hat, underWay, extracted, fun other hother => nomatch hother⟩, rfl⟩

/-- Every row of a session that began with an empty store has been written by a run. -/
theorem Session.exists_writing {disk : Disk} {deeds : List Deed} {m : Moment}
    (h : Session (.blank disk) deeds m) : ∀ r ∈ m.store.rows, ∃ w : Writing deeds, w.row = r := by
  induction h with
  | refl => exact fun r hr => nomatch hr
  | @snoc deeds d y z before last ih =>
    -- a step that stores nothing
    have stays : ∀ r ∈ y.store.rows, (∀ other, d ≠ .advanced (.kept other)) →
        ∃ w : Writing (deeds ++ [d]), w.row = r := by
      intro r hr hd
      obtain ⟨w, hw⟩ := ih r hr
      exact ⟨w.snoc fun other heq => absurd heq (hd other), hw⟩
    cases last with
    | edit => exact fun r hr => stays r hr nofun
    | clear => exact fun r hr => nomatch hr
    | clearUnder directory => exact fun r hr => stays r (Store.mem_rows_clearUnder hr) nofun
    | start => exact fun r hr => stays r hr nofun
    | land => exact fun r hr => stays r hr nofun
    | abort => exact fun r hr => stays r hr nofun
    | @advance _ _ _ f _ _ hadvance =>
      obtain ⟨past, order, real, run, rfl, hrun⟩ := before.exists_began rfl rfl
      obtain ⟨f', hf', hcarries⟩ := before.carriesOut hrun
      obtain rfl : f = f' := Option.some.inj hf'
      cases hadvance with
      | load => exact fun r hr => stays r hr (by simp)
      | find => exact fun r hr => stays r hr (by simp)
      | miss => exact fun r hr => stays r hr (by simp)
      | next => exact fun r hr => stays r hr (by simp)
      | @keep _ _ _ target source fingerprint answer hat =>
        intro r hr
        rcases Store.mem_rows_put_iff.1 hr with rfl | ⟨hr, hkey⟩
        · obtain ⟨w, hw⟩ := exists_writing_of_keep past hrun hcarries hat
          exact ⟨w, by rw [hw, hcarries.policy_eq]; rfl⟩
        · obtain ⟨w, rfl⟩ := ih r hr
          refine ⟨w.snoc fun other heq => ?_, rfl⟩
          obtain rfl := Event.kept.inj (Deed.advanced.inj heq)
          exact hkey.symm

/-! ## What was read -/

/-- The fingerprint of a content is that of its text. -/
theorem ofText_of_content {read : Path → Except Disk.Failure Bytes} {path : Path} {source fingerprint : Text}
    (h : content read path = .ok (source, fingerprint)) : Fingerprint.ofText source = .ok fingerprint :=
  (content_eq_ok_iff.1 h).2.2

/-- What was read in a session was the content of the file at that moment. -/
theorem Session.exists_content {m z : Moment} {front back : List Deed} {target : Target}
    {source fingerprint : Text}
    (h : Session m (front ++ .advanced (.loaded target source fingerprint) :: back) z) :
    ∃ y, Session m front y ∧ content (Disk.read y.disk) target.path = .ok (source, fingerprint) := by
  obtain ⟨x, y, hfront, hturn⟩ := h.exists_turn
  cases hturn with
  | advance hadvance =>
    cases hadvance with
    | load _ hcontent => exact ⟨_, hfront, hcontent⟩

/-- In every session that begins with an empty store, a row has been written by a run, and its fingerprint and
its chunks belong together: they are those of one text, which was the content of a file of this key at the
moment when the run has read it, and the chunks are extracted from it under the policy of the run by the path of
the file as seen from the root of the run. -/
theorem exists_writing_of_mem_rows {disk : Disk} {deeds : List Deed} {m : Moment}
    (h : Session (.blank disk) deeds m) {r : Row} (hr : r ∈ m.store.rows) :
    ∃ w : Writing deeds,
      r = ⟨Store.storageKey w.target.key, w.fingerprint,
          Payload.write (extract w.order.policy w.target.shown w.source)⟩
        ∧ Fingerprint.ofText w.source = .ok w.fingerprint
        ∧ ∃ y, Session (.blank disk) (w.before ++ .began w.order w.real :: w.reading) y
          ∧ content (Disk.read y.disk) w.target.path = .ok (w.source, w.fingerprint) := by
  obtain ⟨w, hw⟩ := h.exists_writing r hr
  have hread := w.deeds_eq
  rw [← List.cons_append, ← List.append_assoc] at hread
  obtain ⟨y, hy, hcontent⟩ := (hread ▸ h).exists_content
  exact ⟨w, hw.symm, ofText_of_content hcontent, y, hy, hcontent⟩

/-! ### An example -/

/-- A file is removed after it has been read, and the run is aborted as soon as it has stored it. The row is that
of the text that was read. -/
theorem exists_writing_of_mem_rows_after_removal : ∃ deeds m r, Session (.blank innerTree) deeds m
    ∧ m.disk = .directory [] ∧ r ∈ m.store.rows ∧ Fingerprint.ofText "def f(): pass\n" = .ok r.fingerprint
    ∧ ∃ w : Writing deeds,
      r = ⟨Store.storageKey w.target.key, w.fingerprint,
          Payload.write (extract w.order.policy w.target.shown w.source)⟩
        ∧ Fingerprint.ofText w.source = .ok w.fingerprint := by
  have root : (Disk.resolve innerTree (.ofText "/p/a")).toOption.any (fun p => p = .ofText "/p/a") = true := by
    decide +kernel
  have text : (content (Disk.read innerTree) (.ofText "/p/a/x.py")).toOption.any
      (fun pair => pair.1 = ("def f(): pass\n" : Text)) = true := by decide +kernel
  obtain ⟨real, hreal, hroot⟩ := exists_eq_ok_of_any root
  obtain rfl := of_decide_eq_true hroot
  obtain ⟨⟨source, fingerprint⟩, hcontent, hsource⟩ := exists_eq_ok_of_any text
  obtain rfl : source = "def f(): pass\n" := of_decide_eq_true hsource
  let order : Order := ⟨.excludeImports, 1, .ofText "/p/a", [.ofText "x.py"]⟩
  let target := Target.ofPath (.ofText "/p/a") (.ofText "x.py")
  let chunks := extract .excludeImports target.shown "def f(): pass\n"
  let flight : Stage → Flight := fun stage => ⟨.excludeImports, 1, [⟨target, stage⟩], 1⟩
  have path : target.path = .ofText "/p/a/x.py" := by decide +kernel
  have began : Turn (.blank innerTree) (.began order (.ofText "/p/a")) _ := .start (Int.lt_irrefl 1) hreal
  have opened : Advance (Disk.read innerTree) (.empty, order.flight (.ofText "/p/a")) .opened
      (.empty, flight .waiting) := .next (fun task htask => nomatch htask) Nat.zero_lt_one
  have loaded : Advance (Disk.read innerTree) (.empty, flight .waiting) _
      (.empty, flight (.loaded "def f(): pass\n" fingerprint)) :=
    .load (i := 0) ⟨Nat.zero_lt_one, rfl⟩ (path ▸ hcontent)
  have missed : Advance (Disk.read (.directory [])) (.empty, flight (.loaded "def f(): pass\n" fingerprint)) _
      (.empty, flight (.missed "def f(): pass\n" fingerprint .miss)) :=
    .miss (i := 0) ⟨Nat.zero_lt_one, rfl⟩ rfl
  have kept : Advance (Disk.read (.directory []))
      (.empty, flight (.missed "def f(): pass\n" fingerprint .miss)) _
      (Store.empty.put target.key fingerprint chunks, _) := .keep (i := 0) ⟨Nat.zero_lt_one, rfl⟩
  have session := ((((((Session.single began).snoc (.advance opened)).snoc (.advance loaded)).snoc .edit).snoc
    (.advance missed)).snoc (.advance kept)).snoc .abort
  have stored : ⟨_, _, _⟩ ∈ (Store.empty.put target.key fingerprint chunks).rows :=
    Store.mem_rows_put_iff.2 (.inl rfl)
  obtain ⟨w, hrow, hprint, -⟩ := exists_writing_of_mem_rows session stored
  exact ⟨_, _, _, session, rfl, stored, ofText_of_content hcontent, w, hrow, hprint⟩

end SourceAtlas.Analysis
