import SourceAtlas.Proofs.Analysis.Interleaving
import SourceAtlas.Proofs.Disk.Tables
import SourceAtlas.Proofs.Store.Keys

/-!
Runs over a directory that has been cleared. The keys of all files below a directory lie in the stretch that a
clear of the directory removes, so that none of them is found afterwards. Whatever the store has held, the run
extracts and stores all files; rows of other directories stay.

Main statement: `directory_clearUnder`.
-/

namespace SourceAtlas

/-! ## Keys below a directory -/

namespace Path

/-- A path from the root on lies in the directories that it goes through. -/
theorem inDirectory_toText {directory : Path} (hanchor : directory.anchor = .root) {names : List Text}
    (hne : names ≠ []) : Store.InDirectory directory.toText (ofNames (directory.parts ++ names)).toText := by
  obtain ⟨anchor, parts⟩ := directory
  obtain rfl : anchor = .root := hanchor
  have text : ∀ parts, (⟨.root, parts⟩ : Path).toText = Store.separator :: Text.join [Store.separator] parts :=
    fun parts => rfl
  rw [ofNames, text, text]
  cases parts with
  -- the root itself ends in a separator
  | nil => exact .inr (.inr ⟨rfl, List.prefix_append [Store.separator] _⟩)
  | cons part more =>
    refine .inr (.inl ?_)
    rw [Text.join_append (List.cons_ne_nil part more) hne, ← List.cons_append, ← List.cons_append]
    exact List.prefix_append _ _

end Path

namespace Analysis

variable {policy : Policy} {read : Path → Except Disk.Failure Bytes}

/-! ## Files that are not in the store -/

/-- What a file comes to when it is extracted now. -/
def IsFreshVisit (policy : Policy) (read : Path → Except Disk.Failure Bytes) (t : Target) (v : Visit) : Prop :=
  ∃ source fingerprint, content read t.path = .ok (source, fingerprint)
    ∧ v = ⟨t.key, t.shown.toText, .miss, extract policy t.shown source⟩

/-- The row of a file as it is stored when the file is extracted now. -/
def IsFreshRow (policy : Policy) (read : Path → Except Disk.Failure Bytes) (t : Target) (r : Row) : Prop :=
  ∃ source fingerprint, content read t.path = .ok (source, fingerprint)
    ∧ r = ⟨Store.storageKey t.key, fingerprint, Payload.write (extract policy t.shown source)⟩

theorem IsFreshRow.key_eq {t : Target} {r : Row} (h : IsFreshRow policy read t r) :
    r.key = Store.storageKey t.key := by
  obtain ⟨_, _, -, rfl⟩ := h
  rfl

theorem map_key_of_isFreshRow {list : List Target} {rows : List Row}
    (h : List.Forall₂ (IsFreshRow policy read) list rows) :
    rows.map Row.key = list.map fun t => Store.storageKey t.key := by
  induction h with
  | nil => rfl
  | cons hfirst _ ih => rw [List.map_cons, List.map_cons, ih, hfirst.key_eq]

/-- Files of which none is in the store are handled alike whatever else it holds. Their fresh rows are added. -/
theorem visitAll_of_missing (policy : Policy) {list : List Target} (hreadable : ∀ t ∈ list, t.IsReadable read)
    (hkeys : (list.map fun t => Store.storageKey t.key).Nodup) :
    ∃ visits rows, List.Forall₂ (IsFreshVisit policy read) list visits
      ∧ List.Forall₂ (IsFreshRow policy read) list rows
      ∧ ∀ s : Store, (∀ t ∈ list, s.row? (Store.storageKey t.key) = none) →
        (visitAll read policy s list).visits = visits
          ∧ ∀ r, r ∈ (visitAll read policy s list).store.rows ↔ r ∈ rows ∨ r ∈ s.rows := by
  induction list with
  | nil => exact ⟨[], [], .nil, .nil, fun s _ => ⟨rfl, fun r => by simp [visitAll]⟩⟩
  | cons t rest ih =>
    rw [List.forall_mem_cons] at hreadable
    rw [List.map_cons, List.nodup_cons] at hkeys
    obtain ⟨⟨source, fingerprint⟩, hcontent⟩ := hreadable.1.exists_content
    obtain ⟨visits, rows, hfresh, hrows, hrest⟩ := ih hreadable.2 hkeys.2
    let chunks := extract policy t.shown source
    refine ⟨⟨t.key, t.shown.toText, .miss, chunks⟩ :: visits,
      ⟨Store.storageKey t.key, fingerprint, Payload.write chunks⟩ :: rows,
      .cons ⟨source, fingerprint, hcontent, rfl⟩ hfresh, .cons ⟨source, fingerprint, hcontent, rfl⟩ hrows,
      fun s hs => ?_⟩
    rw [List.forall_mem_cons] at hs
    have missing : s.get t.key = .missing := by rw [Store.get, hs.1]
    have answer : answerTo fingerprint (s.get t.key) = (none, .miss) := by rw [missing]; rfl
    -- the other files are not in the store after the put either
    have others : ∀ u ∈ rest, (s.put t.key fingerprint chunks).row? (Store.storageKey u.key) = none := by
      intro u hu
      rw [Store.row?_put_of_ne fun heq => hkeys.1 (heq ▸ List.mem_map_of_mem hu)]
      exact hs.2 u hu
    obtain ⟨hvisits, hmem⟩ := hrest _ others
    rw [visitAll, visit_of_miss hcontent answer]
    refine ⟨congrArg _ hvisits, fun r => ?_⟩
    have kept : r ∈ s.rows → r.key ≠ Store.storageKey t.key := by
      intro hr hkey
      have found := Store.row?_eq_some_iff.2 ⟨hr, hkey⟩
      rw [hs.1] at found
      cases found
    rw [hmem, Store.mem_rows_put_iff, and_iff_left_of_imp kept, List.mem_cons, or_left_comm, or_assoc]

/-- The analysis of a directory of readable files comes to what handling one after another does. -/
theorem directory_eq_one_by_one {disk : Disk} {exclusions : Scan.Exclusions} {size : Int} (hsize : 1 ≤ size)
    {root real : Path} (hreal : Disk.resolve disk root = .ok real) {listing : Listing}
    (hscan : Scan.scan disk exclusions root = .ok listing) {list : List Target}
    (hlist : targets real (listing.files.map FoundFile.path) = list)
    (hreadable : ∀ t ∈ list, t.IsReadable (Disk.read disk)) (s : Store) :
    let one := visitAll (Disk.read disk) .excludeImports s list
    (directory disk exclusions size root s).store = one.store
      ∧ (directory disk exclusions size root s).result
        = .ok (collect one.visits, statistics listing.files.length one.visits) := by
  intro one
  subst hlist
  rw [directory_of_scan hscan (by omega) hreal, runFrom_eq_one_by_one (by omega) hreadable, List.length_map]
  exact ⟨rfl, rfl⟩

/-! ## Cleared directories -/

/-- A store that holds the fresh rows of files, one for each, and no others. -/
def HoldsFresh (policy : Policy) (read : Path → Except Disk.Failure Bytes) (list : List Target) (s : Store) :
    Prop :=
  ∃ rows, s.rows.Perm rows ∧ List.Forall₂ (IsFreshRow policy read) list rows

/-- The analysis of a directory that has been cleared comes to the same whatever the store has held. In the
directory it leaves the fresh rows of the files found, and outside of it what was there. -/
theorem directory_clearUnder {disk : Disk} {exclusions : Scan.Exclusions} {size : Int} (hsize : 1 ≤ size)
    {root : Path} (hanchor : root.anchor = .root) (hreal : Disk.resolve disk root = .ok root)
    {listing : Listing} (hscan : Scan.scan disk exclusions root = .ok listing) {list : List Target}
    (hlist : targets root (listing.files.map FoundFile.path) = list)
    (hbelow : ∀ t ∈ list, ∃ more, more ≠ [] ∧ t.path = .ofNames (root.parts ++ more))
    (hreadable : ∀ t ∈ list, t.IsReadable (Disk.read disk))
    (hkeys : (list.map fun t => Store.storageKey t.key).Nodup) :
    let stem := Store.storageKey (Store.directoryStem root.toText)
    ∃ visits fresh, List.Forall₂ (IsFreshVisit .excludeImports (Disk.read disk)) list visits
      ∧ HoldsFresh .excludeImports (Disk.read disk) list fresh
      ∧ ∀ s : Store,
        let outcome := directory disk exclusions size root (s.clearUnder root.toText).1
        outcome.result = .ok (collect visits, statistics listing.files.length visits)
          ∧ (outcome.store.filter fun r => Store.InDirectory stem r.key) = fresh
          ∧ (outcome.store.filter fun r => ¬ Store.InDirectory stem r.key)
            = s.filter fun r => ¬ Store.InDirectory stem r.key := by
  intro stem
  have inside : ∀ t ∈ list, Store.InDirectory stem (Store.storageKey t.key) := by
    intro t ht
    obtain ⟨more, hmore, hpath⟩ := hbelow t ht
    rw [Target.key, hpath]
    exact (Path.inDirectory_toText hanchor hmore).directoryStem.storageKey
  obtain ⟨visits, rows, hfresh, hrows, hvisits⟩ := visitAll_of_missing .excludeImports hreadable hkeys
  have below : ∀ r ∈ rows, Store.InDirectory stem r.key := by
    intro r hr
    obtain ⟨t, ht, hrow⟩ := exists_mem_of_mem_forall₂ hrows hr
    rw [hrow.key_eq]
    exact inside t ht
  let outcome : Store → DirectoryOutcome := fun s =>
    directory disk exclusions size root (s.clearUnder root.toText).1
  -- after the clear no file is found, so that all of them are extracted
  have left : ∀ s, (outcome s).result = .ok (collect visits, statistics listing.files.length visits)
      ∧ ∀ r, r ∈ (outcome s).store.rows ↔ r ∈ rows ∨ r ∈ s.rows ∧ ¬ Store.InDirectory stem r.key := by
    intro s
    obtain ⟨hstore, hresult⟩ := directory_eq_one_by_one hsize hreal hscan hlist hreadable
      (s.clearUnder root.toText).1
    obtain ⟨hvisit, hmem⟩ := hvisits (s.clearUnder root.toText).1 fun t ht => by
      rw [Store.row?_clearUnder, if_pos (inside t ht)]
    refine ⟨by rw [hresult, hvisit], fun r => ?_⟩
    rw [hstore, hmem, Store.rows_clearUnder, List.mem_filter, decide_eq_true_iff]
  have fresh : ∀ r, r ∈ (outcome .empty).store.rows ↔ r ∈ rows := by
    intro r
    rw [(left .empty).2]
    exact or_iff_left fun h => nomatch h.1
  refine ⟨visits, (outcome .empty).store, hfresh, ⟨rows, ?_, hrows⟩, fun s => ⟨(left s).1, ?_, ?_⟩⟩
  · have distinct : (rows.map Row.key).Nodup := map_key_of_isFreshRow hrows ▸ hkeys
    exact (List.perm_ext_iff_of_nodup (Store.nodup_keys _).of_map distinct.of_map).2 fresh
  · refine Store.eq_of_mem_rows_iff fun r => ?_
    rw [Store.mem_rows_filter, (left s).2, decide_eq_true_iff, fresh]
    constructor
    · rintro ⟨hr | hr, hin⟩
      · exact hr
      · exact absurd hin hr.2
    · exact fun hr => ⟨.inl hr, below r hr⟩
  · refine Store.eq_of_mem_rows_iff fun r => ?_
    rw [Store.mem_rows_filter, Store.mem_rows_filter, (left s).2, decide_eq_true_iff]
    constructor
    · rintro ⟨hr | hr, hout⟩
      · exact absurd (below r hr) hout
      · exact hr
    · exact fun hr => ⟨.inr hr, hr.2⟩

end Analysis

end SourceAtlas
