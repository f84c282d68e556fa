import SourceAtlas.Proofs.Analysis.Session
import SourceAtlas.Proofs.Entity.Location
import SourceAtlas.Proofs.Payload

/-!
Inclusion policies over several runs. What a run extracts, it extracts under its own policy; but a row does not
say under which policy it was written, so that a run also takes over what another has kept. A run that leaves
imports out therefore shows some exactly if it has found a file in a row that an earlier run, which kept them,
has written for a source with imports.

Main statement: `exists_leftOut_iff`.
-/

namespace SourceAtlas

/-! ## What a policy leaves out -/

/-- A chunk is of a kind that the policy leaves out. -/
def Policy.LeavesOut (policy : Policy) (c : Chunk) : Prop :=
  ∃ kind ∈ Chunk.textsOf c.kind, policy.includes kind = false

instance (policy : Policy) (c : Chunk) : Decidable (policy.LeavesOut c) := by
  unfold Policy.LeavesOut
  infer_instance

/-- Is it the kind of an import? -/
def EntityKind.isImport : EntityKind → Bool
  | .importing => true
  | .importingFrom => true
  | _ => false

/-- A file is read, and there are imports in its source. -/
def HoldsImport (path : Path) (source : Text) : Prop :=
  isRead path = true ∧ ∃ e ∈ entities source, e.kind.isImport = true

/-- A policy includes all kinds, or all but those of imports. -/
theorem EntityKind.includes_name (policy : Policy) (kind : EntityKind) :
    policy.includes kind.name = (policy == .includeAll || !kind.isImport) := by
  cases policy with
  | includeAll => rfl
  | excludeImports => cases kind with
    | _ => decide +kernel

/-- The name of a kind is read back as it was written. -/
theorem EntityKind.joinPairs_name (kind : EntityKind) : Json.joinPairs kind.name = kind.name := by
  cases kind with
  | _ => decide +kernel

/-- A policy leaves out the chunk of an entity by its kind. -/
theorem Policy.leavesOut_toChunk_iff (policy : Policy) (source : Text) (e : Entity) :
    policy.LeavesOut (e.toChunk source) ↔ policy.includes e.kind.name = false := by
  simp [LeavesOut, Entity.toChunk, Chunk.ofEntity, Chunk.textsOf]

/-- It does so when the chunk has come back from the store. -/
theorem Policy.leavesOut_joined_toChunk_iff (policy : Policy) (source : Text) (e : Entity) :
    policy.LeavesOut (e.toChunk source).joined ↔ policy.includes e.kind.name = false := by
  have kind : Chunk.textsOf (e.toChunk source).joined.kind = [e.kind.name] :=
    congrArg (fun t => [t]) e.kind.joinPairs_name
  simp [LeavesOut, kind]

/-- What is extracted under a policy and read back is left out by another exactly if it is an import that only
the first keeps. -/
theorem exists_leftOut_joined_iff (policy other : Policy) (path : Path) (source : Text) :
    (∃ c ∈ (extract other path source).map Chunk.joined, policy.LeavesOut c)
      ↔ policy = .excludeImports ∧ other = .includeAll ∧ HoldsImport path source := by
  have entity : ∀ e : Entity, (other.includes e.kind.name = true ∧ policy.includes e.kind.name = false)
      ↔ policy = .excludeImports ∧ other = .includeAll ∧ e.kind.isImport = true := by
    intro e
    rw [EntityKind.includes_name, EntityKind.includes_name]
    cases policy with
    | includeAll => simp
    | excludeImports => cases other with
      | includeAll => simp
      | excludeImports => simp
  constructor
  · rintro ⟨c, hc, hleft⟩
    obtain ⟨extracted, hextracted, rfl⟩ := List.mem_map.1 hc
    obtain ⟨hread, e, he, hkept, rfl⟩ := mem_extract_iff.1 hextracted
    obtain ⟨hpolicy, hother, himport⟩ :=
      (entity e).1 ⟨hkept, (policy.leavesOut_joined_toChunk_iff source e).1 hleft⟩
    exact ⟨hpolicy, hother, hread, e, he, himport⟩
  · rintro ⟨hpolicy, hother, hread, e, he, himport⟩
    obtain ⟨hkept, hleft⟩ := (entity e).2 ⟨hpolicy, hother, himport⟩
    exact ⟨_, List.mem_map_of_mem (mem_extract_iff.2 ⟨hread, e, he, hkept, rfl⟩),
      (policy.leavesOut_joined_toChunk_iff source e).2 hleft⟩

/-- What is extracted under a policy is not left out by it. -/
theorem not_leavesOut_of_mem_extract {policy : Policy} {path : Path} {source : Text} {c : Chunk}
    (hc : c ∈ extract policy path source) : ¬ policy.LeavesOut c := by
  obtain ⟨-, e, -, hkept, rfl⟩ := mem_extract_iff.1 hc
  rw [Policy.leavesOut_toChunk_iff, hkept]
  exact Bool.noConfusion

namespace Analysis

/-! ## What is collected -/

/-- What a run has landed with are the chunks of files that it has handled. -/
theorem Flight.exists_task_of_mem_landing {f : Flight} {findings : Findings} {counts : Statistics}
    (hland : f.landing? = some (findings, counts)) {entry : Text × List Chunk} (h : entry ∈ findings) :
    ∃ target v, ⟨target, .finished v⟩ ∈ f.tasks ∧ entry = (v.shown, v.chunks) := by
  obtain ⟨visits, hvisits, rfl, -⟩ := exists_visits_of_landing hland
  obtain ⟨v, hv, heq⟩ := exists_visit_of_mem_collect h
  obtain ⟨⟨target, stage⟩, htask, rfl⟩ := exists_mem_of_mem_forall₂ hvisits hv
  exact ⟨target, v, htask, heq⟩

/-! ## What a run takes over -/

/-- A run has found a file in a row that an earlier run has written, under the fingerprint of its content. -/
structure TakesOver (past run : List Deed) (target : Target) (w : Writing past) : Prop where
  wasFound : .advanced (.found target) ∈ run
  wasLoaded : ∃ source, .advanced (.loaded target source w.fingerprint) ∈ run
  key_eq : Store.storageKey target.key = Store.storageKey w.target.key

/-- A row was there before the run, or it holds what was extracted under the policy of the run. -/
def IsOldOrKept (past : List Deed) (order : Order) (r : Row) : Prop :=
  (∃ w : Writing past, w.row = r)
    ∨ ∃ path source, r.payload = Payload.write (extract order.policy path source)

/-- A file that has been handled shows nothing that the policy leaves out, or was found in a row that was there
before the run. -/
def Task.IsAccountedFor (past : List Deed) (order : Order) (run : List Deed) (task : Task) : Prop :=
  ∀ v, task.stage = .finished v → v.shown = task.target.shown.toText
    ∧ ((∀ c ∈ v.chunks, ¬ order.policy.LeavesOut c)
      ∨ ∃ w : Writing past, TakesOver past run task.target w
        ∧ v.chunks = (extract w.order.policy w.target.shown w.source).map Chunk.joined)

/-- What is known of a run under way: where the rows and what its files show come from. -/
structure IsAccountedFor (past : List Deed) (order : Order) (run : List Deed) (s : Store) (f : Flight) :
    Prop where
  rows : ∀ r ∈ s.rows, IsOldOrKept past order r
  tasks : ∀ task ∈ f.tasks, task.IsAccountedFor past order run

variable {past run more : List Deed} {order : Order} {s s' : Store} {f f' : Flight}

/-- What has been taken over stays so when more happens. -/
theorem TakesOver.mono {target : Target} {w : Writing past} (h : TakesOver past run target w)
    (hsub : run ⊆ more) : TakesOver past more target w :=
  ⟨hsub h.wasFound, h.wasLoaded.imp fun _ hloaded => hsub hloaded, h.key_eq⟩

/-- What is accounted for stays so when more happens. -/
theorem IsAccountedFor.mono (h : IsAccountedFor past order run s f) (hsub : run ⊆ more) :
    IsAccountedFor past order more s f := by
  refine ⟨h.rows, fun task htask v hv => ?_⟩
  obtain ⟨hshown, hchunks⟩ := h.tasks task htask v hv
  exact ⟨hshown, hchunks.imp id fun ⟨w, hw, heq⟩ => ⟨w, hw.mono hsub, heq⟩⟩

/-- What is found in a row that was there before, or that holds what the policy of the run keeps. -/
theorem IsOldOrKept.of_get {s : Store} (hrows : ∀ r ∈ s.rows, IsOldOrKept past order r) {path fingerprint : Text}
    {chunks : List Chunk} (hget : s.get path = .entry fingerprint chunks) :
    (∀ c ∈ chunks, ¬ order.policy.LeavesOut c)
      ∨ ∃ w : Writing past, Store.storageKey path = Store.storageKey w.target.key ∧ w.fingerprint = fingerprint
        ∧ chunks = (extract w.order.policy w.target.shown w.source).map Chunk.joined := by
  obtain ⟨payload, hrow, hread⟩ := Store.get_eq_entry_iff.1 hget
  rcases hrows _ (Store.mem_of_row?_eq_some hrow).1 with ⟨w, hw⟩ | ⟨shown, source, hpayload⟩
  · right
    obtain ⟨hkey, hprint, hpayload⟩ := Row.mk.inj hw
    rw [← hpayload, Payload.read_write fun c hc => wellTyped_of_mem_extract hc] at hread
    exact ⟨w, hkey.symm, hprint, (Except.ok.inj hread).symm⟩
  · left
    dsimp only at hpayload
    rw [hpayload, Payload.read_write fun c hc => wellTyped_of_mem_extract hc] at hread
    rw [← Except.ok.inj hread]
    intro c hc hleft
    obtain ⟨hpolicy, hother, -⟩ := (exists_leftOut_joined_iff _ _ shown source).1 ⟨c, hc, hleft⟩
    rw [hpolicy] at hother
    cases hother

/-- A step of a run keeps account. -/
theorem Advance.isAccountedFor {read : Path → Except Disk.Failure Bytes} {real : Path} {e : Event}
    (hadvance : Advance read (s, f) e (s', f')) (hf : f.CarriesOut order real run)
    (h : IsAccountedFor past order run s f) : IsAccountedFor past order (run ++ [.advanced e]) s' f' := by
  have before := h.mono (List.subset_append_left run [.advanced e])
  cases hadvance with
  | load hat _ => exact ⟨before.rows, Flight.forall_tasks_move before.tasks fun v hv => nomatch hv⟩
  | find hat hanswer =>
    refine ⟨before.rows, Flight.forall_tasks_move before.tasks fun v hv => ?_⟩
    rw [← Stage.finished.inj hv]
    refine ⟨rfl, (IsOldOrKept.of_get h.rows (answerTo_eq_some hanswer).1).imp id ?_⟩
    rintro ⟨w, hkey, rfl, hchunks⟩
    have hloaded := hf.tasks _ (Flight.mem_tasks_of_at hat)
    exact ⟨w, ⟨List.mem_append_right run List.mem_cons_self, ⟨_, List.mem_append_left _ hloaded⟩, hkey⟩, hchunks⟩
  | miss hat _ => exact ⟨before.rows, Flight.forall_tasks_move before.tasks fun v hv => nomatch hv⟩
  | keep hat =>
    refine ⟨fun r hr => ?_, Flight.forall_tasks_move before.tasks fun v hv => ?_⟩
    · rcases Store.mem_rows_put hr with rfl | hr
      · exact .inr ⟨_, _, by rw [hf.policy_eq]⟩
      · exact h.rows r hr
    · rw [← Stage.finished.inj hv]
      exact ⟨rfl, .inl fun c hc => not_leavesOut_of_mem_extract (hf.policy_eq ▸ hc)⟩
  | next _ _ => exact ⟨before.rows, before.tasks⟩

/-- A run under way accounts for all that it shows. -/
theorem Session.isAccountedFor {disk : Disk} {real : Path} {z : Moment}
    (h : Session (.blank disk) (past ++ .began order real :: run) z) (hrun : ∀ d ∈ run, d.isUnderWay = true) :
    ∃ f, z.flight = some f ∧ IsAccountedFor past order run z.store f := by
  refine Session.run_induction (P := IsAccountedFor past order) ?_ ?_ ?_ h hrun
  · exact fun disk s hpast => ⟨fun r hr => .inl (hpast.exists_writing r hr),
      Flight.forall_tasks_start (fun _ => nofun) _ _ _⟩
  · exact fun run s f hf => hf.mono (List.subset_append_left run _)
  · intro run disk s f e s' f' hsession hrun hadvance hf
    obtain ⟨f₁, hf₁, hcarries⟩ := hsession.carriesOut hrun
    obtain rfl := Option.some.inj hf₁
    exact hadvance.isAccountedFor hcarries hf

/-- A run shows a chunk that its policy leaves out exactly if the policy leaves out imports, and the run has taken
over the chunks of a source with imports from a row that was last written by an earlier run which kept them. -/
theorem exists_leftOut_iff {disk now : Disk} {real : Path}
    (h : Session (.blank disk) (past ++ .began order real :: run) ⟨now, s, some f⟩)
    (hrun : ∀ d ∈ run, d.isUnderWay = true) {findings : Findings} {counts : Statistics}
    (hland : f.landing? = some (findings, counts)) :
    (∃ entry ∈ findings, ∃ c ∈ entry.2, order.policy.LeavesOut c)
      ↔ order.policy = .excludeImports ∧ ∃ w : Writing past, w.order.policy = .includeAll
        ∧ HoldsImport w.target.shown w.source ∧ ∃ target ∈ targets real order.paths, TakesOver past run target w
          ∧ (target.shown.toText, (extract .includeAll w.target.shown w.source).map Chunk.joined) ∈ findings := by
  obtain ⟨f₁, hf₁, haccount⟩ := h.isAccountedFor hrun
  obtain rfl : f = f₁ := Option.some.inj hf₁
  obtain ⟨f₂, hf₂, hcarries⟩ := h.carriesOut hrun
  obtain rfl : f = f₂ := Option.some.inj hf₂
  constructor
  · rintro ⟨entry, hentry, c, hc, hleft⟩
    obtain ⟨target, v, htask, rfl⟩ := Flight.exists_task_of_mem_landing hland hentry
    obtain ⟨hshown, hnone | ⟨w, hover, hchunks⟩⟩ := haccount.tasks _ htask v rfl
    · exact absurd hleft (hnone c hc)
    · obtain ⟨hpolicy, hother, hholds⟩ :=
        (exists_leftOut_joined_iff _ _ _ _).1 ⟨c, hchunks ▸ hc, hleft⟩
      refine ⟨hpolicy, w, hother, hholds, target, ?_, hover, ?_⟩
      · rw [← hcarries.targets_eq]
        exact List.mem_map.2 ⟨_, htask, rfl⟩
      · rw [← hother, ← hchunks]
        exact hshown ▸ hentry
  · rintro ⟨hpolicy, w, -, hholds, target, -, -, hentry⟩
    exact ⟨_, hentry, (exists_leftOut_joined_iff _ _ _ _).2 ⟨hpolicy, rfl, hholds⟩⟩

/-! ### An example -/

/-- A tree with one file, which holds nothing but an import. -/
@[irreducible] def importTree : Disk :=
  .directory [("p", .directory [("x.py",
    .file (("import os\n" : Text).map fun c => UInt8.ofNat c.val))])]

/-- A run over the file of the tree. -/
def importOrder (policy : Policy) : Order := ⟨policy, 1, .ofText "/p", [.ofText "x.py"]⟩

/-- A run that leaves imports out shows one, after a run that has kept it. -/
theorem exists_leftOut_iff_on_importTree : ∃ past real run s f findings, ∃ counts : Statistics,
    Session (.blank importTree) (past ++ .began (importOrder .excludeImports) real :: run)
        ⟨importTree, s, some f⟩
      ∧ (∀ d ∈ run, d.isUnderWay = true) ∧ f.landing? = some (findings, counts)
      ∧ (∃ entry ∈ findings, ∃ c ∈ entry.2, Policy.excludeImports.LeavesOut c)
      ∧ ∃ w : Writing past, w.order.policy = .includeAll ∧ HoldsImport w.target.shown w.source := by
  let runs := fun policy s => runFrom (Disk.read importTree) policy 1 (.ofText "/p") [.ofText "x.py"] s
  have root : (Disk.resolve importTree (.ofText "/p")).toOption.any (fun p => p = .ofText "/p") = true := by
    decide +kernel
  have one : (runs .includeAll .empty).result.toOption.any (fun _ => true) = true := by decide +kernel
  have two : (runs .excludeImports (runs .includeAll .empty).store).result.toOption.any
      (fun r => decide (∃ entry ∈ r.1, ∃ c ∈ entry.2, Policy.excludeImports.LeavesOut c)) = true := by
    decide +kernel
  obtain ⟨real, hreal, hroot⟩ := exists_eq_ok_of_any root
  obtain rfl := of_decide_eq_true hroot
  obtain ⟨⟨kept, keptCounts⟩, hone, -⟩ := exists_eq_ok_of_any one
  obtain ⟨⟨findings, counts⟩, htwo, hleft⟩ := exists_eq_ok_of_any two
  obtain ⟨events₁, f₁, hflies₁, hland₁⟩ := exists_flies_of_runFrom Nat.zero_lt_one hone
  obtain ⟨events₂, f₂, hflies₂, hland₂⟩ := exists_flies_of_runFrom Nat.zero_lt_one htwo
  have start : ∀ policy s, Session ⟨importTree, s, none⟩ [.began (importOrder policy) (.ofText "/p")]
      ⟨importTree, s, some ((importOrder policy).flight (.ofText "/p"))⟩ :=
    fun policy s => .single (.start (Int.lt_irrefl 1) hreal)
  have past := ((start .includeAll .empty).trans (session_of_flies hflies₁)).snoc (.land hland₁)
  have session := past.trans ((start .excludeImports _).trans (session_of_flies hflies₂))
  have underWay : ∀ d ∈ events₂.map Deed.advanced, d.isUnderWay = true :=
    List.forall_mem_map.2 fun _ _ => rfl
  have left := of_decide_eq_true hleft
  obtain ⟨-, w, hpolicy, hholds, -⟩ := (exists_leftOut_iff session underWay hland₂).1 left
  exact ⟨_, _, _, _, f₂, findings, counts, session, underWay, hland₂, left, w, hpolicy, hholds⟩

end Analysis

end SourceAtlas
