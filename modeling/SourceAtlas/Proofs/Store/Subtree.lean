import Mathlib.Data.List.TakeWhile
import SourceAtlas.Store

/-!
Clearing a directory against a filter over the whole table. The rows are scanned from the stem of the
directory up to the first key that begins otherwise; since all keys with one beginning lie next to each
other, the scan meets every row of the directory.

Main statement: `clearUnder_eq_filter`.
-/

namespace SourceAtlas

/-! ## Keys with one beginning -/

namespace Text

theorem beginsWith_iff {beginning t : Text} : beginsWith beginning t = true ↔ beginning <+: t := by
  rw [beginsWith, Option.isSome_iff_exists]
  constructor
  · rintro ⟨rest, h⟩
    exact ⟨rest, (after?_eq_some_iff.1 h).symm⟩
  · rintro ⟨rest, h⟩
    exact ⟨rest, after?_eq_some_iff.2 h.symm⟩

/-- Texts with one beginning form an interval: what lies between the beginning and a text that has it has
it too. -/
theorem prefix_of_le_of_lt {beginning s t : Text} (hs : ¬ s < beginning) (hst : s < t)
    (ht : beginning <+: t) : beginning <+: s := by
  induction beginning generalizing s t with
  | nil => exact List.nil_prefix
  | cons b bs ih =>
    obtain ⟨rest, rfl⟩ := ht
    cases s with
    | nil => exact absurd (List.nil_lt_cons b bs) hs
    | cons c cs =>
      rw [List.cons_lt_cons_iff, not_or, not_and] at hs
      rw [List.cons_append, List.cons_lt_cons_iff] at hst
      -- the first character is squeezed in between two that are the same
      have hc : c = b := by
        rcases hst with h | h
        · exact absurd h hs.1
        · exact h.1
      have hcs : cs < bs ++ rest := by
        rcases hst with h | h
        · exact absurd h hs.1
        · exact h.2
      rw [hc]
      exact (List.prefix_cons_inj b).2 (ih (hs.2 hc) hcs (List.prefix_append bs rest))

/-- Dropping from the end takes off an ending in which the test holds everywhere. -/
theorem exists_eq_dropEndWhile_append (p : CodePoint → Bool) (t : Text) :
    ∃ dropped, t = dropEndWhile p t ++ dropped ∧ ∀ c ∈ dropped, p c = true := by
  refine ⟨(t.reverse.takeWhile p).reverse, ?_, ?_⟩
  · rw [dropEndWhile, ← List.reverse_append, List.takeWhile_append_dropWhile, List.reverse_reverse]
  · intro c hc
    exact List.mem_takeWhile_imp (List.mem_reverse.1 hc)

/-- What is left after dropping from the end does not end in what is dropped. -/
theorem getLast_dropEndWhile {p : CodePoint → Bool} {t : Text} (h : dropEndWhile p t ≠ []) :
    p ((dropEndWhile p t).getLast h) = false := by
  unfold dropEndWhile at h ⊢
  rw [List.getLast_reverse]
  exact List.head_dropWhile_not p (by simpa using h)

end Text

namespace Store

/-! ## Directories -/

/-- `stem` is what is left of `directory` without the separators at its end. A directory of nothing but
separators is left as it is. -/
def IsStem (directory stem : Text) : Prop :=
  ((∀ c ∈ directory, c = separator) → stem = directory) ∧
  (¬ (∀ c ∈ directory, c = separator) →
    stem.getLast? ≠ some separator ∧ ∃ n, directory = stem ++ List.replicate n separator)

/-- A key lies in a directory if it is the directory itself or goes on behind a separator; a directory that
ends in a separator needs no further one. -/
def InDirectory (stem key : Text) : Prop :=
  key = stem ∨ stem ++ [separator] <+: key ∨ (stem.getLast? = some separator ∧ stem <+: key)

instance (stem key : Text) : Decidable (InDirectory stem key) := by unfold InDirectory; infer_instance

/-- The stem of a directory is its text without separators at the end, or nothing but separators. -/
theorem isStem_directoryStem (directory : Text) : IsStem directory (directoryStem directory) := by
  obtain ⟨dropped, parts, hdropped⟩ := Text.exists_eq_dropEndWhile_append (· == separator) directory
  have hsep : ∀ c ∈ dropped, c = separator := fun c hc => beq_iff_eq.1 (hdropped c hc)
  constructor
  -- of nothing but separators none is left, and the directory itself is the stem
  · intro all
    have empty : Text.dropEndWhile (· == separator) directory = [] := by
      by_contra hne
      have last := Text.getLast_dropEndWhile hne
      have mem : (Text.dropEndWhile (· == separator) directory).getLast hne ∈ directory :=
        List.IsPrefix.subset ⟨dropped, parts.symm⟩ (List.getLast_mem hne)
      rw [all _ mem, beq_self_eq_true] at last
      exact Bool.noConfusion last
    rw [directoryStem, empty]
    rfl
  · intro other
    have nonempty : Text.dropEndWhile (· == separator) directory ≠ [] := by
      intro empty
      rw [empty, List.nil_append] at parts
      exact other (parts ▸ hsep)
    have last := Text.getLast_dropEndWhile nonempty
    have stem : directoryStem directory = Text.dropEndWhile (· == separator) directory := by
      simp [directoryStem, nonempty]
    refine ⟨?_, dropped.length, ?_⟩
    · rw [stem, List.getLast?_eq_some_getLast nonempty, ne_eq, Option.some.injEq]
      exact fun h => by rw [h, beq_self_eq_true] at last; exact Bool.noConfusion last
    · rw [stem, ← List.eq_replicate_of_mem hsep]
      exact parts

/-- Every key of a directory begins with its stem. -/
theorem InDirectory.prefix {stem key : Text} (h : InDirectory stem key) : stem <+: key := by
  rcases h with rfl | h | h
  · exact List.prefix_refl key
  · exact (List.prefix_append stem [separator]).trans h
  · exact h.2

/-- A key that begins with a stem is either the stem itself or longer, so that it has a character behind the
stem. -/
theorem length_lt_of_prefix_of_ne {stem key : Text} (h : stem <+: key) (hne : key ≠ stem) :
    stem.length < key.length := by
  have hle : stem.length ≤ key.length := h.length_le
  by_contra hlt
  exact hne (h.eq_of_length (by omega)).symm

/-- For keys that begin with the stem the test of the scan says whether they lie in the directory. -/
theorem liesUnder_iff {stem key : Text} (h : stem <+: key) :
    liesUnder stem key = true ↔ InDirectory stem key := by
  obtain ⟨rest, rfl⟩ := h
  have behind : (stem ++ rest)[stem.length]? = rest.head? := by
    rw [List.getElem?_append_right (Nat.le_refl _), Nat.sub_self, List.head?_eq_getElem?]
  have atSeparator : stem ++ [separator] <+: stem ++ rest ↔ rest.head? = some separator := by
    rw [List.prefix_append_right_inj]
    cases rest with
    | nil => simp
    | cons c cs => simp [List.cons_prefix_cons, eq_comm]
  rw [liesUnder, InDirectory, behind, atSeparator, Bool.or_eq_true, Bool.or_eq_true, decide_eq_true_iff,
    decide_eq_true_iff, decide_eq_true_iff, or_assoc, or_comm (b := rest.head? = some separator)]
  simp only [List.prefix_append, and_true]

/-! ## The scan -/

/-- Of an ascending list, a test that holds of everything before what it holds of keeps a beginning. -/
theorem takeWhile_eq_filter_of_pairwise {α : Type} {p : α → Bool} {l : List α}
    (h : l.Pairwise fun a b => p b = true → p a = true) : l.takeWhile p = l.filter p := by
  induction l with
  | nil => rfl
  | cons a l ih =>
    obtain ⟨ha, hl⟩ := List.pairwise_cons.1 h
    by_cases hp : p a = true
    · rw [List.takeWhile_cons_of_pos hp, List.filter_cons_of_pos hp, ih hl]
    · have none : l.filter p = [] := List.filter_eq_nil_iff.2 fun b hb hpb => hp (ha b hb hpb)
      rw [List.takeWhile_cons_of_neg hp, List.filter_cons_of_neg hp, none]

/-- Among ascending rows everything behind the first key that is not below the stem is not below it
either. -/
theorem not_lt_of_mem_dropWhile {stem : Text} {rows : List Row}
    (h : rows.Pairwise fun a b => a.key < b.key) {r : Row}
    (hr : r ∈ rows.dropWhile fun r => r.key < stem) : ¬ r.key < stem := by
  induction rows with
  | nil => simp at hr
  | cons a rows ih =>
    obtain ⟨ha, hrows⟩ := List.pairwise_cons.1 h
    by_cases hlt : a.key < stem
    · rw [List.dropWhile_cons_of_pos (by simpa using hlt)] at hr
      exact ih hrows hr
    · rw [List.dropWhile_cons_of_neg (by simpa using hlt)] at hr
      rcases List.mem_cons.1 hr with rfl | hr
      · exact hlt
      · intro hrs
        exact hlt (List.lt_trans (ha r hr) hrs)

/-- The stretch of a stem holds all rows whose keys begin with it: no such key comes before the stem, and
none comes behind one that begins otherwise. -/
theorem stretch_eq_filter (s : Store) (stem : Text) :
    s.stretch stem = s.rows.filter fun r => Text.beginsWith stem r.key := by
  let below : Row → Bool := fun r => r.key < stem
  -- a key that begins with the stem is not below it
  have before : (s.rows.takeWhile below).filter (fun r => Text.beginsWith stem r.key) = [] := by
    refine List.filter_eq_nil_iff.2 fun r hr hb => ?_
    have hlt : r.key < stem := by simpa [below] using List.mem_takeWhile_imp hr
    exact (Text.beginsWith_iff.1 hb).le hlt
  -- among the other keys those that begin with the stem come first
  have interval : (s.rows.dropWhile below).Pairwise fun a b =>
      Text.beginsWith stem b.key = true → Text.beginsWith stem a.key = true := by
    refine (s.ascending.sublist (List.dropWhile_sublist below)).imp_of_mem fun ha _ hab hb => ?_
    rw [Text.beginsWith_iff] at hb ⊢
    exact Text.prefix_of_le_of_lt (not_lt_of_mem_dropWhile s.ascending ha) hab hb
  calc s.stretch stem
      = (s.rows.dropWhile below).filter fun r => Text.beginsWith stem r.key :=
        takeWhile_eq_filter_of_pairwise interval
    _ = (s.rows.takeWhile below ++ s.rows.dropWhile below).filter fun r => Text.beginsWith stem r.key := by
        rw [List.filter_append, before, List.nil_append]
    _ = s.rows.filter fun r => Text.beginsWith stem r.key := by
        rw [List.takeWhile_append_dropWhile]

/-- The rows that a clear removes are all those in the directory. -/
theorem rowsUnder_eq_filter (s : Store) (stem : Text) :
    s.rowsUnder stem = s.rows.filter fun r => InDirectory stem r.key := by
  rw [rowsUnder, stretch_eq_filter, List.filter_filter]
  apply List.filter_congr
  intro r _
  by_cases h : stem <+: r.key
  · simp only [Text.beginsWith_iff.2 h, Bool.and_true]
    rw [Bool.eq_iff_iff, liesUnder_iff h, decide_eq_true_iff]
  · have hb : Text.beginsWith stem r.key = false := by
      rw [Bool.eq_false_iff, Ne, Text.beginsWith_iff]
      exact h
    have hd : ¬ InDirectory stem r.key := fun hd => h hd.prefix
    simp [hb, hd]

/-! ## Clearing -/

/-- What clearing a directory leaves. The scan removes by key, and whether a row lies in the directory is said
by its key alone. -/
theorem rows_clearUnder (s : Store) (directory : Text) :
    (s.clearUnder directory).1.rows
      = s.rows.filter fun r => ¬ InDirectory (storageKey (directoryStem directory)) r.key := by
  let stem := storageKey (directoryStem directory)
  have doomed : ∀ r ∈ s.rows, ((s.rowsUnder stem).map Row.key).contains r.key = true
      ↔ InDirectory stem r.key := by
    intro r hr
    rw [List.contains_iff_mem, List.mem_map, rowsUnder_eq_filter]
    constructor
    · rintro ⟨other, hother, hkey⟩
      rw [← hkey]
      simpa using (List.mem_filter.1 hother).2
    · intro hd
      exact ⟨r, List.mem_filter.2 ⟨hr, by simpa using hd⟩, rfl⟩
  change s.rows.filter (fun r => !((s.rowsUnder stem).map Row.key).contains r.key) = _
  apply List.filter_congr
  intro r hr
  rw [Bool.eq_iff_iff, Bool.not_eq_true', Bool.eq_false_iff, ne_eq, doomed r hr, decide_eq_true_iff]

/-- Clearing a directory is a filter over the whole table. The stem is the stored form of the directory
without the separators at its end; exactly the rows that lie in the directory of this name are met by the
scan, removed and counted, and every key of the scanned stretch other than the stem itself has a character
behind the stem. -/
theorem clearUnder_eq_filter (s : Store) (directory : Text) :
    IsStem directory (directoryStem directory) ∧
    let stem := storageKey (directoryStem directory)
    s.rowsUnder stem = s.rows.filter (fun r => InDirectory stem r.key) ∧
    (s.clearUnder directory).1.rows = s.rows.filter (fun r => ¬ InDirectory stem r.key) ∧
    (s.clearUnder directory).2 = (s.rows.filter fun r => InDirectory stem r.key).length ∧
    ∀ r ∈ s.stretch stem, r.key ≠ stem → stem.length < r.key.length := by
  refine ⟨isStem_directoryStem directory, rowsUnder_eq_filter s _, ?_, ?_, ?_⟩
  · exact rows_clearUnder s directory
  · rw [clearUnder, rowsUnder_eq_filter]
  · intro r hr hne
    rw [stretch_eq_filter, List.mem_filter] at hr
    exact length_lt_of_prefix_of_ne (Text.beginsWith_iff.1 hr.2) hne

end Store

end SourceAtlas
