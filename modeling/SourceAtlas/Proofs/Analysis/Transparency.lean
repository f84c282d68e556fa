import SourceAtlas.Proofs.Analysis.Provenance

/-!
The store does not show in results. Every row stems from a file of its key that was read and extracted, by
whatever run and from whatever root. If fingerprints tell contents apart and extracted chunks survive being
stored, a row that answers for a file therefore holds just what would be extracted from it. So whatever has
happened before, and however the steps of a run are interleaved, the run lands with what it finds on an empty
store.

Main statement: `findings_eq_on_empty`.
-/

namespace SourceAtlas.Analysis

variable {read : Path → Except Disk.Failure Bytes}

/-! ## Assumptions on a history -/

/-- Contents that were read are equal if their fingerprints are. -/
def TellsApart (events : List Event) : Prop :=
  ∀ a source b other fingerprint, .loaded a source fingerprint ∈ events →
    .loaded b other fingerprint ∈ events → source = other

/-- No string in a chunk that was extracted has a high surrogate directly before a low one. -/
def ExtractsPairFree (events : List Event) : Prop :=
  ∀ target source fingerprint, .extracted target source fingerprint ∈ events →
    ∀ c ∈ extract .excludeImports target.shown source, c.PairFree

/-! ## Answers -/

/-- A row that answers for a file holds what would be extracted from it. -/
theorem chunks_eq_of_get {events : List Event} (hapart : TellsApart events) (hpairs : ExtractsPairFree events)
    {s : Store} (hrows : ∀ r ∈ s.rows, IsBacked .excludeImports events r) {target : Target}
    (hproper : target.IsProper) (hsound : target.path.isSound = true) {source fingerprint : Text}
    (hloaded : .loaded target source fingerprint ∈ events) {chunks : List Chunk}
    (hget : s.get target.key = .entry fingerprint chunks) :
    chunks = extract .excludeImports target.shown source ∧ ∀ c ∈ chunks, c.PairFree := by
  obtain ⟨author, text, hextraction, hkey, hchunks⟩ := exists_author_of_get hrows hget
  have same : text = source := hapart _ _ _ _ _ hextraction.wasLoaded hloaded
  have free := hpairs _ _ _ hextraction.wasExtracted
  rw [(Payload.map_joined_eq_self_iff fun c hc => wellTyped_of_mem_extract hc).2 free] at hchunks
  rw [hchunks]
  refine ⟨?_, free⟩
  rw [same]
  exact Target.extract_eq_of_storageKey_eq hextraction.proper hproper hextraction.sound hsound hkey
    .excludeImports source

/-! ## Visits -/

/-- A visit shows what is extracted from the content of its file, as it was read. -/
def IsFresh (read : Path → Except Disk.Failure Bytes) (events : List Event) (target : Target) (v : Visit) :
    Prop :=
  v.shown = target.shown.toText ∧ ∃ source fingerprint,
    content read target.path = .ok (source, fingerprint) ∧ .loaded target source fingerprint ∈ events
      ∧ v.chunks = extract .excludeImports target.shown source ∧ ∀ c ∈ v.chunks, c.PairFree

/-- The visits of the files of a run that have been handled are fresh. -/
def AreFresh (read : Path → Except Disk.Failure Bytes) (events : List Event) (f : Flight) : Prop :=
  ∀ task ∈ f.tasks, task.IsCurrent read ∧ ∀ v, task.stage = .finished v → IsFresh read events task.target v

/-- A step of a run over an unchanged disk keeps its visits fresh. -/
theorem Advance.areFresh {events : List Event}
    (hapart : TellsApart events) (hpairs : ExtractsPairFree events) {s s' : Store} {f f' : Flight} {e : Event}
    (h : Advance read (s, f) e (s', f')) (hbacked : AreBacked .excludeImports events s f)
    (hfresh : AreFresh read events f) : AreFresh read events f' := by
  cases h with
  | load hat hcontent =>
    exact Flight.forall_tasks_move hfresh ⟨hcontent, fun v hv => nomatch hv⟩
  | find hat hanswer =>
    have hmem := Flight.mem_tasks_of_at hat
    obtain ⟨hnull, hloaded⟩ := hbacked.tasks _ hmem
    -- found: the row holds what some file of the key came to, and so would this one
    obtain ⟨hchunks, hfree⟩ := chunks_eq_of_get hapart hpairs hbacked.rows
      (hbacked.proper _ (Flight.mem_targets_of_at hat)) hnull hloaded (answerTo_eq_some hanswer).1
    refine Flight.forall_tasks_move hfresh ⟨trivial, fun v hv => ?_⟩
    rw [← Stage.finished.inj hv]
    exact ⟨rfl, _, _, (hfresh _ hmem).1, hloaded, hchunks, hfree⟩
  | miss hat _ =>
    exact Flight.forall_tasks_move hfresh
      ⟨(hfresh _ (Flight.mem_tasks_of_at hat)).1, fun v hv => nomatch hv⟩
  | keep hat =>
    have hmem := Flight.mem_tasks_of_at hat
    -- stored: the visit shows what was extracted from the text that was read
    have hextraction : IsExtraction events _ _ _ := hbacked.tasks _ hmem
    refine Flight.forall_tasks_move hfresh ⟨trivial, fun v hv => ?_⟩
    rw [← Stage.finished.inj hv, hbacked.policy_eq]
    exact ⟨rfl, _, _, (hfresh _ hmem).1, hextraction.wasLoaded, rfl, hpairs _ _ _ hextraction.wasExtracted⟩
  | next _ _ => exact hfresh

/-- A run over an unchanged disk that starts from backed rows has fresh visits. -/
theorem Flies.areFresh {run events : List Event}
    (hapart : TellsApart events) (hpairs : ExtractsPairFree events) {x y : Store × Flight}
    (h : Flies read x run y) (hall : run ⊆ events) (hx : AreBacked .excludeImports events x.1 x.2)
    (hwaiting : ∀ task ∈ x.2.tasks, task.stage = .waiting) : AreFresh read events y.2 := by
  induction h with
  | refl =>
    refine fun task htask => ⟨?_, fun v hv => ?_⟩
    · rw [Task.IsCurrent, hwaiting task htask]
      trivial
    · rw [hwaiting task htask] at hv
      cases hv
  | snoc before last ih =>
    have hbefore := (List.append_subset.1 hall).1
    exact last.areFresh hapart hpairs (before.areBacked hbefore hx) (ih hbefore)

/-! ## Results -/

/-- What is shown for a file is said by the disk. -/
theorem IsFresh.agrees {events others : List Event} {target : Target}
    {v w : Visit} (hv : IsFresh read events target v) (hw : IsFresh read others target w) :
    v.shown = w.shown ∧ v.chunks = w.chunks := by
  obtain ⟨hvshown, source, _, hvcontent, -, hvchunks, -⟩ := hv
  obtain ⟨hwshown, other, _, hwcontent, -, hwchunks, -⟩ := hw
  rw [hvcontent] at hwcontent
  have same : source = other := congrArg Prod.fst (Except.ok.inj hwcontent)
  exact ⟨hvshown.trans hwshown.symm, by rw [hvchunks, hwchunks, same]⟩

theorem foldl_collectOne_congr {R S : Target → Visit → Prop}
    (hRS : ∀ t v w, R t v → S t w → v.shown = w.shown ∧ v.chunks = w.chunks) {targets : List Target}
    {vs ws : List Visit} (hv : List.Forall₂ R targets vs) (hw : List.Forall₂ S targets ws)
    (findings : Findings) : vs.foldl collectOne findings = ws.foldl collectOne findings := by
  induction hv generalizing ws findings with
  | nil =>
    cases hw
    rfl
  | cons hfirst _ ih =>
    cases hw with
    | cons hother hrest =>
      obtain ⟨hshown, hchunks⟩ := hRS _ _ _ hfirst hother
      rw [List.foldl_cons, List.foldl_cons, collectOne, collectOne, hshown, hchunks]
      exact ih hrest _

/-- A run that has landed has fresh visits of all its files. -/
theorem exists_visits_of_areFresh {events : List Event} {f : Flight}
    (hfresh : AreFresh read events f) {findings : Findings} {statistics : Statistics}
    (hland : f.landing? = some (findings, statistics)) :
    ∃ visits, List.Forall₂ (IsFresh read events) f.targets visits ∧ findings = collect visits := by
  obtain ⟨visits, hvisits, hfindings, -⟩ := Flight.exists_visits_of_landing hland
  exact ⟨visits, (Flight.forall₂_targets hvisits).imp fun target v hmem => (hfresh _ hmem).2 v rfl, hfindings⟩

/-- A run on an empty store meets the assumptions that a run over the same files met: it reads the same
contents, and extracts from them what the other run found. -/
theorem tellsApart_of_isCurrent {events run : List Event}
    {targets : List Target} (hfresh : ∀ t ∈ targets, ∃ v, IsFresh read events t v)
    (hrun : ∀ e ∈ run, e.IsCurrent read targets) (hapart : TellsApart events) :
    TellsApart run ∧ ExtractsPairFree run := by
  constructor
  · intro a source b other fingerprint ha hb
    obtain ⟨hat, hacontent⟩ := hrun _ ha
    obtain ⟨hbt, hbcontent⟩ := hrun _ hb
    obtain ⟨_, -, text, print, htext, hloaded, -⟩ := hfresh a hat
    obtain ⟨_, -, text', print', htext', hloaded', -⟩ := hfresh b hbt
    rw [hacontent] at htext
    rw [hbcontent] at htext'
    obtain ⟨rfl, rfl⟩ := Prod.mk.inj (Except.ok.inj htext)
    obtain ⟨rfl, rfl⟩ := Prod.mk.inj (Except.ok.inj htext')
    exact hapart _ _ _ _ _ hloaded hloaded'
  · intro target source fingerprint he
    obtain ⟨ht, hcontent⟩ := hrun _ he
    obtain ⟨v, -, text, _, htext, -, hchunks, hfree⟩ := hfresh target ht
    rw [hcontent] at htext
    rw [(Prod.mk.inj (Except.ok.inj htext)).1, ← hchunks]
    exact hfree

/-- After every history, a run over a directory whose files do not change on the way lands with what the
analysis of the directory finds on an empty store, provided that fingerprints have told apart the contents
read, and that no string in a chunk that was extracted holds a pair of surrogates. -/
theorem findings_eq_on_empty {disk : Disk} (hdisk : disk.isWellFormed = true) {history : List Event}
    {now : Disk} {stored : Store} (hhistory : Reaches .excludeImports (.blank disk) history ⟨now, stored, none⟩)
    {exclusions : Scan.Exclusions} {size : Int} {root : Text} {start : Flight}
    (hlaunch : launch? .excludeImports now exclusions size (.ofText root) = some start) {run : List Event}
    {s : Store} {last : Flight} (hrun : Flies (Disk.read now) (stored, start) run (s, last)) {findings : Findings}
    {statistics : Statistics} (hland : last.landing? = some (findings, statistics))
    (hapart : TellsApart (history ++ run)) (hpairs : ExtractsPairFree (history ++ run)) :
    ∃ others, (directory now exclusions size (.ofText root) .empty).result = .ok (findings, others) := by
  have hwell : now.isWellFormed = true := hhistory.isWellFormed hdisk
  have hwaiting := (launch?_spec hwell hlaunch).2.1
  -- the visits of the run are fresh
  have hstart := areBacked_launch hwell hlaunch
    (hhistory.isBacked hdisk (List.subset_append_left history run)).1
  have hfresh := hrun.areFresh hapart hpairs (List.subset_append_right history run) hstart hwaiting
  have htargets := (hrun.isCurrent hwaiting).1
  obtain ⟨visits, hvisits, rfl⟩ := exists_visits_of_areFresh hfresh hland
  rw [htargets] at hvisits
  -- hence the same run on an empty store is completed
  have hcontents : ∀ t ∈ start.targets, ∃ pair, content (Disk.read now) t.path = .ok pair := by
    intro t ht
    obtain ⟨_, -, source, fingerprint, hcontent, -⟩ := exists_of_mem_forall₂ hvisits ht
    exact ⟨_, hcontent⟩
  obtain ⟨⟨found, others⟩, hresult⟩ := exists_result_of_contents hlaunch hcontents .empty
  refine ⟨others, ?_⟩
  -- and its visits are fresh as well
  obtain ⟨start', run', last', hlaunch', hrun', hland'⟩ := exists_flies_of_directory hresult
  obtain rfl := Option.some.inj (hlaunch.symm.trans hlaunch')
  obtain ⟨htargets', -, hcurrent⟩ := hrun'.isCurrent hwaiting
  obtain ⟨hapart', hpairs'⟩ := tellsApart_of_isCurrent (fun t ht => exists_of_mem_forall₂ hvisits ht) hcurrent
    hapart
  have hempty : AreBacked .excludeImports run' .empty start :=
    areBacked_launch hwell hlaunch fun r hr => nomatch hr
  have hfresh' := hrun'.areFresh hapart' hpairs' (List.Subset.refl run') hempty hwaiting
  obtain ⟨visits', hvisits', rfl⟩ := exists_visits_of_areFresh hfresh' hland'
  rw [htargets'] at hvisits'
  rw [hresult, collect, collect,
    foldl_collectOne_congr (fun t v w hv hw => hv.agrees hw) hvisits hvisits' []]

/-! ### An example -/

theorem innerTree_assumptions {events : List Event}
    (h : ∀ e ∈ events, e.IsCurrent (Disk.read innerTree) innerTargets) :
    TellsApart events ∧ ExtractsPairFree events := by
  have path : ∀ t ∈ innerTargets, t.path = .ofText "/p/a/x.py" := by decide +kernel
  have text : (content (Disk.read innerTree) (.ofText "/p/a/x.py")).toOption.map Prod.fst
      = some "def f(): pass\n" := by decide +kernel
  have free : ∀ t ∈ innerTargets, ∀ c ∈ extract .excludeImports t.shown "def f(): pass\n", c.PairFree := by
    decide +kernel
  constructor
  · intro a source b other fingerprint ha hb
    obtain ⟨hat, hacontent⟩ := h _ ha
    obtain ⟨hbt, hbcontent⟩ := h _ hb
    rw [path a hat] at hacontent
    rw [path b hbt, hacontent] at hbcontent
    exact (Prod.mk.inj (Except.ok.inj hbcontent)).1
  · intro target source fingerprint he
    obtain ⟨ht, hcontent⟩ := h _ he
    rw [path target ht] at hcontent
    rw [hcontent] at text
    have same : source = "def f(): pass\n" := Option.some.inj text
    rw [same]
    exact free target ht

/-- A file that was stored from an outer root is found from an inner one, and shown as on an empty store. -/
theorem findings_eq_on_empty_from_inner_root : ∃ history stored start run s last findings,
    ∃ statistics : Statistics,
      innerTree.isWellFormed = true
      ∧ Reaches .excludeImports (.blank innerTree) history ⟨innerTree, stored, none⟩
      ∧ launch? .excludeImports innerTree ⟨[], false⟩ 50 (.ofText "/p/a") = some start
      ∧ Flies (Disk.read innerTree) (stored, start) run (s, last)
      ∧ last.landing? = some (findings, statistics) ∧ statistics.hits = 1
      ∧ TellsApart (history ++ run) ∧ ExtractsPairFree (history ++ run)
      ∧ ∃ others, (directory innerTree ⟨[], false⟩ 50 (.ofText "/p/a") .empty).result
        = .ok (findings, others) := by
  have well : innerTree.isWellFormed = true := by decide +kernel
  have first : (directory innerTree ⟨[], false⟩ 50 (.ofText "/p") .empty).result.toOption.any
      (fun _ => true) = true := by decide +kernel
  have second : (directory innerTree ⟨[], false⟩ 50 (.ofText "/p/a")
      (directory innerTree ⟨[], false⟩ 50 (.ofText "/p") .empty).store).result.toOption.any
      (fun r => r.2.hits == 1) = true := by decide +kernel
  obtain ⟨⟨outer, outerStatistics⟩, houter, -⟩ := exists_eq_ok_of_any first
  obtain ⟨⟨inner, innerStatistics⟩, hinner, hhits⟩ := exists_eq_ok_of_any second
  obtain ⟨start₁, run₁, last₁, hlaunch₁, hflies₁, hland₁⟩ := exists_flies_of_directory houter
  obtain ⟨start₂, run₂, last₂, hlaunch₂, hflies₂, hland₂⟩ := exists_flies_of_directory hinner
  have history := ((Reaches.single (.launch hlaunch₁)).trans (reaches_of_flies hflies₁)).snoc (.land hland₁)
  have waiting₁ := (launch?_spec well hlaunch₁).2.1
  have waiting₂ := (launch?_spec well hlaunch₂).2.1
  have upper : start₁.targets = innerTargets.take 1 := targets_eq_of_launch? hlaunch₁ (by decide +kernel)
  have lower : start₂.targets = innerTargets.drop 1 := targets_eq_of_launch? hlaunch₂ (by decide +kernel)
  have current : ∀ e ∈ ([.launched "/p"] ++ run₁ ++ [.landed outer outerStatistics]) ++ run₂,
      e.IsCurrent (Disk.read innerTree) innerTargets := by
    intro e he
    simp only [List.mem_append, List.mem_singleton] at he
    rcases he with ((rfl | he) | rfl) | he
    · trivial
    · exact ((hflies₁.isCurrent waiting₁).2.2 e he).mono (upper ▸ List.take_subset 1 innerTargets)
    · trivial
    · exact ((hflies₂.isCurrent waiting₂).2.2 e he).mono (lower ▸ List.drop_subset 1 innerTargets)
  obtain ⟨hapart, hpairs⟩ := innerTree_assumptions current
  exact ⟨_, _, start₂, run₂, _, last₂, inner, innerStatistics, well, history, hlaunch₂, hflies₂, hland₂,
    beq_iff_eq.1 hhits, hapart, hpairs,
    findings_eq_on_empty well history hlaunch₂ hflies₂ hland₂ hapart hpairs⟩

end SourceAtlas.Analysis
