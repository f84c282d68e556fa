import SourceAtlas.Proofs.Store.Keys
import SourceAtlas.Proofs.Store.Table

/-!
Separators at the end of a directory. A directory whose name holds anything else is the same directory with any number
of separators behind it. Names of nothing but separators are not: each of them stands for the keys that begin with as
many separators, so that the root, spelt with more of them than one, holds hardly any of its keys.

Main statement: `clearUnder_append_separators_iff`.
-/

namespace SourceAtlas

/-- What is dropped at the end of a text may stand there any number of times. -/
theorem Text.dropEndWhile_append_replicate {p : CodePoint → Bool} {c : CodePoint} (h : p c = true) (t : Text)
    (n : Nat) : dropEndWhile p (t ++ List.replicate n c) = dropEndWhile p t := by
  unfold dropEndWhile
  rw [List.reverse_append, List.reverse_replicate]
  induction n with
  | zero => rfl
  | succ n ih => rw [List.replicate_succ, List.cons_append, List.dropWhile_cons_of_pos h, ih]

namespace Store

/-! ## Stems -/

/-- Separators behind a directory do not show in its stem if there is anything else in its name. -/
theorem directoryStem_append_separators {directory : Text} (h : ∃ c ∈ directory, c ≠ separator) (n : Nat) :
    directoryStem (directory ++ List.replicate n separator) = directoryStem directory := by
  obtain ⟨dropped, parts, hdropped⟩ := Text.exists_eq_dropEndWhile_append (· == separator) directory
  have nonempty : Text.dropEndWhile (· == separator) directory ≠ [] := by
    intro hempty
    obtain ⟨c, hc, hother⟩ := h
    rw [hempty, List.nil_append] at parts
    exact hother (beq_iff_eq.1 (hdropped c (parts ▸ hc)))
  have same := Text.dropEndWhile_append_replicate (p := (· == separator)) (beq_self_eq_true separator) directory n
  simp [directoryStem, same, nonempty]

/-- Separators alone are their own stem, and they are stored as they are. -/
theorem stem_separators (n : Nat) :
    storageKey (directoryStem (List.replicate n separator)) = List.replicate n separator := by
  have only : directoryStem (List.replicate n separator) = List.replicate n separator :=
    (isStem_directoryStem _).1 fun c hc => List.eq_of_mem_replicate hc
  rw [only]
  apply Utf8.spellSurrogates_of_forall
  intro c hc
  rw [List.eq_of_mem_replicate hc]
  decide

/-- In a directory of separators lie the keys that begin with them. -/
theorem inDirectory_separators_iff {n : Nat} (hn : n ≠ 0) {key : Text} :
    InDirectory (List.replicate n separator) key ↔ List.replicate n separator <+: key := by
  constructor
  · exact InDirectory.prefix
  · intro h
    exact .inr (.inr ⟨by simp [List.getLast?_replicate, hn], h⟩)

/-! ## Two clears -/

/-- If all that lies in one directory lies in another one too, a clear of the one does the same as a clear of the
other exactly if the converse holds of the keys of the table, and the number of rows tells. -/
theorem clearUnder_eq_iff_of_imp (s : Store) {inner outer : Text}
    (h : ∀ key, InDirectory (storageKey (directoryStem inner)) key →
      InDirectory (storageKey (directoryStem outer)) key) :
    let same := ∀ r ∈ s.rows, InDirectory (storageKey (directoryStem outer)) r.key →
      InDirectory (storageKey (directoryStem inner)) r.key
    ((s.clearUnder inner).1 = (s.clearUnder outer).1 ↔ same)
      ∧ ((s.clearUnder inner).2 = (s.clearUnder outer).2 ↔ same) := by
  intro same
  have counts : ∀ directory, (s.clearUnder directory).2
      = (s.rows.filter fun r => InDirectory (storageKey (directoryStem directory)) r.key).length :=
    fun directory => congrArg List.length (rowsUnder_eq_filter s _)
  have agree : same → ∀ r ∈ s.rows, InDirectory (storageKey (directoryStem inner)) r.key
      ↔ InDirectory (storageKey (directoryStem outer)) r.key :=
    fun hsame r hr => ⟨h r.key, hsame r hr⟩
  refine ⟨⟨fun hleft r hr houter => ?_, fun hsame => ?_⟩, ⟨fun hcount r hr houter => ?_, fun hsame => ?_⟩⟩
  · -- a row that only the clear of the outer directory removes would be left by the other one
    by_contra hinner
    have kept : r ∈ (s.clearUnder outer).1.rows := by
      rw [← hleft, rows_clearUnder, List.mem_filter]
      exact ⟨hr, decide_eq_true hinner⟩
    rw [rows_clearUnder, List.mem_filter] at kept
    exact of_decide_eq_true kept.2 houter
  · apply eq_of_mem_rows_iff
    intro r
    rw [rows_clearUnder, rows_clearUnder, List.mem_filter, List.mem_filter, decide_eq_true_iff, decide_eq_true_iff]
    exact and_congr_right fun hr => not_congr (agree hsame r hr)
  · -- the rows removed by the one are among those removed by the other, and as many
    rw [counts, counts] at hcount
    have sub := List.monotone_filter_right s.rows
      (p := fun r => decide (InDirectory (storageKey (directoryStem inner)) r.key))
      (q := fun r => decide (InDirectory (storageKey (directoryStem outer)) r.key))
      fun r hr => decide_eq_true (h r.key (of_decide_eq_true hr))
    have removed : r ∈ s.rows.filter fun r => InDirectory (storageKey (directoryStem outer)) r.key :=
      List.mem_filter.2 ⟨hr, decide_eq_true houter⟩
    rw [← sub.eq_of_length hcount] at removed
    exact of_decide_eq_true (List.mem_filter.1 removed).2
  · rw [counts, counts]
    refine congrArg List.length (List.filter_congr fun r hr => ?_)
    rw [decide_eq_decide]
    exact agree hsame r hr

/-! ## Separators at the end -/

/-- Separators at the end of a directory do not matter to a clear, neither to what is removed nor to the number of
rows, if there is anything else in the name of the directory. A clear of nothing but separators removes the keys that
begin with all of them, so that further separators do matter there, unless every key of the table that begins with
those of the directory begins with the further ones too. -/
theorem clearUnder_append_separators_iff (s : Store) {directory : Text} (hne : directory ≠ []) (n : Nat) :
    let short := s.clearUnder directory
    let long := s.clearUnder (directory ++ List.replicate n separator)
    let same := (∃ c ∈ directory, c ≠ separator)
      ∨ ∀ r ∈ s.rows, directory <+: r.key → directory ++ List.replicate n separator <+: r.key
    (long.1 = short.1 ↔ same) ∧ (long.2 = short.2 ↔ same) := by
  intro short long same
  by_cases hother : ∃ c ∈ directory, c ≠ separator
  · have equal : long = short := by
      show s.clearUnder _ = s.clearUnder _
      rw [clearUnder, clearUnder, directoryStem_append_separators hother]
    rw [equal]
    exact ⟨iff_of_true rfl (.inl hother), iff_of_true rfl (.inl hother)⟩
  · have only : ∀ c ∈ directory, c = separator := by simpa using hother
    have hdirectory := List.eq_replicate_of_mem only
    obtain ⟨m, hm, rfl⟩ : ∃ m, m ≠ 0 ∧ directory = List.replicate m separator :=
      ⟨directory.length, mt List.length_eq_zero_iff.1 hne, hdirectory⟩
    have further : List.replicate m separator ++ List.replicate n separator = List.replicate (m + n) separator :=
      List.replicate_append_replicate
    have under : ∀ {k : Nat}, k ≠ 0 → ∀ key, InDirectory (storageKey (directoryStem (List.replicate k separator))) key
        ↔ List.replicate k separator <+: key := by
      intro k hk key
      rw [stem_separators]
      exact inDirectory_separators_iff hk
    have sub : ∀ key, InDirectory (storageKey (directoryStem (List.replicate (m + n) separator))) key →
        InDirectory (storageKey (directoryStem (List.replicate m separator))) key := by
      intro key hkey
      rw [under (by omega), ← further] at hkey
      rw [under hm]
      exact (List.prefix_append _ _).trans hkey
    have rows : same ↔ ∀ r ∈ s.rows, InDirectory (storageKey (directoryStem (List.replicate m separator))) r.key →
        InDirectory (storageKey (directoryStem (List.replicate (m + n) separator))) r.key := by
      simp only [under hm, under (show m + n ≠ 0 by omega)]
      rw [← further]
      exact or_iff_right hother
    have clears := clearUnder_eq_iff_of_imp s sub
    rw [← rows, ← further] at clears
    exact clears

/-- The table of a file that stands in the root. -/
def rootTable : Store := ⟨[⟨"/x.py", "new", "[]"⟩], by decide⟩

/-- A clear of the root removes the row, and a clear of the root spelt with two more separators leaves it. -/
theorem clearUnder_append_separators_iff_on_rootTable : ("/" : Text) ≠ []
    ∧ (rootTable.clearUnder "/").2 = 1
    ∧ (rootTable.clearUnder "///").1 ≠ (rootTable.clearUnder "/").1
    ∧ (rootTable.clearUnder "///").2 ≠ (rootTable.clearUnder "/").2 := by
  have alone : ¬ ∃ c ∈ ("/" : Text), c ≠ separator := by
    rintro ⟨c, hc, hother⟩
    exact hother (List.mem_singleton.1 hc)
  have further : ¬ ∀ r ∈ rootTable.rows, ("/" : Text) <+: r.key →
      ("/" : Text) ++ List.replicate 2 separator <+: r.key := by decide +kernel
  have differ := not_or.2 ⟨alone, further⟩
  obtain ⟨hrows, hcount⟩ := @clearUnder_append_separators_iff rootTable "/" (by decide) 2
  exact ⟨by decide, by decide, mt hrows.1 differ, mt hcount.1 differ⟩

end Store

end SourceAtlas
