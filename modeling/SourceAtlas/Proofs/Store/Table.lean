import Mathlib.Data.List.Nodup
import SourceAtlas.Proofs.Payload
import SourceAtlas.Proofs.Store.Subtree

/-!
The store as a table. What a key leads to after a put or a clear is said by the key alone, and what has been
put under a path is found there again.
-/

namespace SourceAtlas.Store

/-! ## Rows -/

/-- The row of a key is one of the rows, and has the key. -/
theorem mem_of_row?_eq_some {s : Store} {key : Text} {r : Row} (h : s.row? key = some r) :
    r ∈ s.rows ∧ r.key = key :=
  ⟨List.mem_of_find?_eq_some h, by simpa using List.find?_some h⟩

/-- No two rows have the same key. -/
theorem nodup_keys (s : Store) : (s.rows.map Row.key).Nodup := by
  refine List.pairwise_map.2 (s.ascending.imp ?_)
  intro a b hlt heq
  rw [heq] at hlt
  exact List.lt_irrefl b.key hlt

/-- A row is found by its key, since no other row has it. -/
theorem row?_eq_some_iff {s : Store} {key : Text} {r : Row} :
    s.row? key = some r ↔ r ∈ s.rows ∧ r.key = key := by
  constructor
  · exact mem_of_row?_eq_some
  · rintro ⟨hr, rfl⟩
    -- some row of this key is found, and keys are distinct
    obtain ⟨found, hfound⟩ : ∃ found, s.row? r.key = some found :=
      Option.isSome_iff_exists.1 (List.find?_isSome.2 ⟨r, hr, decide_eq_true rfl⟩)
    obtain ⟨hmem, hkey⟩ := mem_of_row?_eq_some hfound
    rw [hfound, List.inj_on_of_nodup_map s.nodup_keys hmem hr hkey]

/-- A store is said by its rows, in whatever order. -/
theorem eq_of_mem_rows_iff {s t : Store} (h : ∀ r, r ∈ s.rows ↔ r ∈ t.rows) : s = t := by
  have perm : s.rows.Perm t.rows := (List.perm_ext_iff_of_nodup s.nodup_keys.of_map t.nodup_keys.of_map).2 h
  -- both lists are ascending, so that the order is the same as well
  have rows : s.rows = t.rows := by
    refine perm.eq_of_pairwise (fun a b _ _ hab hba => ?_) s.ascending t.ascending
    exact absurd (List.lt_trans hab hba) (List.lt_irrefl a.key)
  obtain ⟨rows_s, _⟩ := s
  obtain ⟨rows_t, _⟩ := t
  obtain rfl : rows_s = rows_t := rows
  rfl

/-- The rows are those that are found by their keys. -/
theorem mem_rows_iff {s : Store} {r : Row} : r ∈ s.rows ↔ s.row? r.key = some r := by
  rw [row?_eq_some_iff, and_iff_left rfl]

/-- A store is said by what its keys lead to. -/
theorem eq_of_row?_eq {s t : Store} (h : ∀ key, s.row? key = t.row? key) : s = t :=
  eq_of_mem_rows_iff fun r => by rw [mem_rows_iff, mem_rows_iff, h]

theorem mem_rows_filter {s : Store} {keep : Row → Bool} {r : Row} :
    r ∈ (s.filter keep).rows ↔ r ∈ s.rows ∧ keep r = true := List.mem_filter

/-- A row that has been inserted is found by its key. -/
theorem find?_insertRow_self (row : Row) (rows : List Row) :
    (insertRow row rows).find? (·.key = row.key) = some row := by
  induction rows with
  | nil => simp [insertRow]
  | cons r rest ih =>
    unfold insertRow
    split
    · simp
    · split
      · simp
      · next h => simpa [List.find?_cons, Ne.symm h] using ih

/-- Every other row is found as before. -/
theorem find?_insertRow_of_ne {row : Row} {key : Text} (h : key ≠ row.key) (rows : List Row) :
    (insertRow row rows).find? (·.key = key) = rows.find? (·.key = key) := by
  induction rows with
  | nil => simp [insertRow, Ne.symm h]
  | cons r rest ih =>
    unfold insertRow
    split
    · simp [List.find?_cons, Ne.symm h]
    · split
      · next heq => simp [Ne.symm h, heq ▸ Ne.symm h]
      · simp only [List.find?_cons, ih]

/-! ## Puts -/

/-- What is put under a path is found there. -/
theorem row?_put_self (s : Store) (path fingerprint : Text) (chunks : List Chunk) :
    (s.put path fingerprint chunks).row? (storageKey path)
      = some ⟨storageKey path, fingerprint, Payload.write chunks⟩ :=
  find?_insertRow_self ⟨storageKey path, fingerprint, Payload.write chunks⟩ s.rows

/-- A put leaves every other row as it is. -/
theorem row?_put_of_ne {path key : Text} (h : key ≠ storageKey path) (s : Store) (fingerprint : Text)
    (chunks : List Chunk) : (s.put path fingerprint chunks).row? key = s.row? key :=
  find?_insertRow_of_ne h s.rows

/-- A key that has a row keeps one. -/
theorem isSome_row?_put {s : Store} {key : Text} (h : (s.row? key).isSome = true) (path fingerprint : Text)
    (chunks : List Chunk) : ((s.put path fingerprint chunks).row? key).isSome = true := by
  by_cases heq : key = storageKey path
  · rw [heq, row?_put_self]
    rfl
  · rwa [row?_put_of_ne heq]

/-- After a put a row is the new one or was there before. -/
theorem mem_rows_put {s : Store} {path fingerprint : Text} {chunks : List Chunk} {r : Row}
    (h : r ∈ (s.put path fingerprint chunks).rows) :
    r = ⟨storageKey path, fingerprint, Payload.write chunks⟩ ∨ r ∈ s.rows :=
  mem_insertRow h

/-- After a put there are the row that was put and the other rows that do not have its key. -/
theorem mem_rows_put_iff {s : Store} {path fingerprint : Text} {chunks : List Chunk} {r : Row} :
    r ∈ (s.put path fingerprint chunks).rows
      ↔ r = ⟨storageKey path, fingerprint, Payload.write chunks⟩ ∨ r ∈ s.rows ∧ r.key ≠ storageKey path := by
  rw [mem_rows_iff, mem_rows_iff]
  by_cases hkey : r.key = storageKey path
  · rw [hkey, row?_put_self, Option.some.injEq, eq_comm]
    exact ⟨.inl, fun h => h.resolve_right fun hold => hold.2 rfl⟩
  · rw [row?_put_of_ne hkey, and_iff_left hkey]
    refine ⟨.inr, fun h => h.resolve_left ?_⟩
    rintro rfl
    exact hkey rfl

/-! ## Clears -/

/-- A clear adds no row. -/
theorem mem_rows_clearUnder {s : Store} {directory : Text} {r : Row}
    (h : r ∈ (s.clearUnder directory).1.rows) : r ∈ s.rows := by
  rw [rows_clearUnder] at h
  exact (List.mem_filter.1 h).1

/-- A clear leaves no row in its directory, and every other row as it is. -/
theorem row?_clearUnder (s : Store) (directory key : Text) :
    (s.clearUnder directory).1.row? key
      = if InDirectory (storageKey (directoryStem directory)) key then none else s.row? key := by
  rw [row?, rows_clearUnder, List.find?_filter]
  split
  · next h =>
    rw [List.find?_eq_none]
    intro r _
    simp only [decide_eq_true_eq, not_and]
    intro hr heq
    exact hr (heq ▸ h)
  · next h =>
    rw [row?]
    refine congrArg (fun p => s.rows.find? p) (funext fun r => ?_)
    rw [decide_eq_decide, decide_eq_true_eq, decide_eq_true_eq]
    exact ⟨And.right, fun heq => ⟨heq ▸ h, heq⟩⟩

/-! ## Fingerprints -/

/-- The fingerprint stored for a path. -/
def fingerprint? (s : Store) (path : Text) : Option Text := (s.row? (storageKey path)).map Row.fingerprint

theorem fingerprint?_congr {s other : Store} {path : Text}
    (h : s.row? (storageKey path) = other.row? (storageKey path)) :
    s.fingerprint? path = other.fingerprint? path := by
  rw [fingerprint?, fingerprint?, h]

/-- A put sets the fingerprint of its path. -/
theorem fingerprint?_put_self (s : Store) (path fingerprint : Text) (chunks : List Chunk) :
    (s.put path fingerprint chunks).fingerprint? path = some fingerprint := by
  rw [fingerprint?, row?_put_self]
  rfl

/-- A clear leaves no fingerprint in its directory, and every other as it is. -/
theorem fingerprint?_clearUnder (s : Store) (directory path : Text) :
    (s.clearUnder directory).1.fingerprint? path
      = if InDirectory (storageKey (directoryStem directory)) (storageKey path) then none
        else s.fingerprint? path := by
  rw [fingerprint?, row?_clearUnder]
  split
  · rfl
  · rfl

/-! ## Findings -/

theorem get_congr {s : Store} {path other : Text} (h : storageKey path = storageKey other) :
    s.get path = s.get other := by
  rw [get, get, h]

/-- What is found for a path is said by its row. -/
theorem get_eq_of_row?_eq {s other : Store} {path : Text}
    (h : s.row? (storageKey path) = other.row? (storageKey path)) : s.get path = other.get path := by
  rw [get, get, h]

/-- What a row comes to when its key is looked up. -/
theorem get_eq_entry_iff {s : Store} {path fingerprint : Text} {chunks : List Chunk} :
    s.get path = .entry fingerprint chunks
      ↔ ∃ payload, s.row? (storageKey path) = some ⟨storageKey path, fingerprint, payload⟩
        ∧ Payload.read payload = .ok chunks := by
  rw [get]
  constructor
  · intro h
    split at h
    · cases h
    · next row hrow =>
      obtain ⟨-, hkey⟩ := row?_eq_some_iff.1 hrow
      split at h
      · cases h
      · next read hread =>
        injection h with hfingerprint hchunks
        refine ⟨row.payload, ?_, hchunks ▸ hread⟩
        rw [hrow, ← hkey, ← hfingerprint]
  · rintro ⟨payload, hrow, hread⟩
    rw [hrow]
    simp only [hread]

/-- What has been put is found again, with the pairs in the strings of its chunks joined. -/
theorem get_put_self (s : Store) (path fingerprint : Text) {chunks : List Chunk}
    (h : ∀ c ∈ chunks, c.WellTyped) :
    (s.put path fingerprint chunks).get path = .entry fingerprint (chunks.map Chunk.joined) :=
  get_eq_entry_iff.2 ⟨Payload.write chunks, row?_put_self s path fingerprint chunks, Payload.read_write h⟩

end SourceAtlas.Store
