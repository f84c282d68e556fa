import SourceAtlas.Proofs.Store.Table

/-!
Local operations on a store. An operation is local to a set of keys if it leaves all other rows as they are, and
if its answer and the rows that it leaves under these keys are said by the rows under these keys alone. Local
operations one after another are local, and operations that are local to disjoint sets of keys commute.

Main statements: `IsLocal.bind`, `IsLocal.commute`.
-/

namespace SourceAtlas.Store

/-! ## Stores that agree -/

/-- Two stores hold the same rows under the keys of a region. -/
def AgreeOn (region : Text → Prop) (s t : Store) : Prop := ∀ key, region key → s.row? key = t.row? key

variable {region other : Text → Prop} {s t : Store}

/-- Stores that agree on a region and outside of it are the same. -/
theorem AgreeOn.eq (hin : AgreeOn region s t) (hout : AgreeOn (fun key => ¬ region key) s t) : s = t := by
  apply eq_of_row?_eq
  intro key
  by_cases hkey : region key
  · exact hin key hkey
  · exact hout key hkey

/-- Stores that agree on a directory hold the same rows in it. -/
theorem AgreeOn.rowsUnder_eq {stem : Text} (h : AgreeOn (InDirectory stem) s t) :
    s.rowsUnder stem = t.rowsUnder stem := by
  have same : (s.filter fun r => InDirectory stem r.key) = t.filter fun r => InDirectory stem r.key := by
    apply eq_of_mem_rows_iff
    intro r
    rw [mem_rows_filter, mem_rows_filter, decide_eq_true_iff]
    constructor
    · rintro ⟨hr, hin⟩
      exact ⟨mem_rows_iff.2 ((h r.key hin).symm.trans (mem_rows_iff.1 hr)), hin⟩
    · rintro ⟨hr, hin⟩
      exact ⟨mem_rows_iff.2 ((h r.key hin).trans (mem_rows_iff.1 hr)), hin⟩
  rw [rowsUnder_eq_filter, rowsUnder_eq_filter]
  exact congrArg Store.rows same

/-! ## Local operations -/

/-- An operation that reads and writes the rows of a region only. -/
structure IsLocal {α : Type} (region : Text → Prop) (f : Store → α × Store) : Prop where
  frame : ∀ s, AgreeOn (fun key => ¬ region key) (f s).2 s
  answer_eq : ∀ s t, AgreeOn region s t → (f s).1 = (f t).1
  agree : ∀ s t, AgreeOn region s t → AgreeOn region (f s).2 (f t).2

namespace IsLocal

variable {α β : Type} {f : Store → α × Store}

/-- An operation that does nothing is local to any region. -/
theorem pure (region : Text → Prop) (a : α) : IsLocal region fun s => (a, s) where
  frame := fun _ _ _ => rfl
  answer_eq := fun _ _ _ => rfl
  agree := fun _ _ h => h

theorem congr {g : Store → α × Store} (h : IsLocal region f) (heq : ∀ s, g s = f s) : IsLocal region g := by
  obtain rfl : g = f := funext heq
  exact h

/-- The answer of a local operation may be put in other words. -/
theorem map (h : IsLocal region f) (g : α → β) : IsLocal region fun s => (g (f s).1, (f s).2) where
  frame := h.frame
  answer_eq := fun s t hst => congrArg g (h.answer_eq s t hst)
  agree := h.agree

/-- Two local operations one after another are local, also if the second depends on the answer of the first. -/
theorem bind {g : α → Store → β × Store} (hf : IsLocal region f) (hg : ∀ a, IsLocal region (g a)) :
    IsLocal region fun s => g (f s).1 (f s).2 where
  frame := by
    intro s key hkey
    rw [(hg _).frame _ key hkey, hf.frame s key hkey]
  answer_eq := by
    intro s t hst
    rw [hf.answer_eq s t hst]
    exact (hg _).answer_eq _ _ (hf.agree s t hst)
  agree := by
    intro s t hst
    rw [hf.answer_eq s t hst]
    exact (hg _).agree _ _ (hf.agree s t hst)

/-- Operations that are local to disjoint regions commute, and each answers as if the other had not been there. -/
theorem commute {g : Store → β × Store} (hf : IsLocal region f) (hg : IsLocal other g)
    (hdisjoint : ∀ key, region key → ¬ other key) (s : Store) :
    (f (g s).2).1 = (f s).1 ∧ (g (f s).2).1 = (g s).1 ∧ (f (g s).2).2 = (g (f s).2).2 := by
  -- neither operation touches what the other one reads
  have left : AgreeOn region (g s).2 s := fun key hkey => hg.frame s key (hdisjoint key hkey)
  have right : AgreeOn other (f s).2 s := fun key hkey => hf.frame s key fun hin => hdisjoint key hin hkey
  have inside : AgreeOn region (f (g s).2).2 (g (f s).2).2 := by
    intro key hin
    calc (f (g s).2).2.row? key = (f s).2.row? key := hf.agree _ _ left key hin
      _ = (g (f s).2).2.row? key := (hg.frame _ key (hdisjoint key hin)).symm
  have outside : AgreeOn (fun key => ¬ region key) (f (g s).2).2 (g (f s).2).2 := by
    intro key hin
    rw [hf.frame _ key hin]
    by_cases hout : other key
    · exact (hg.agree _ _ right key hout).symm
    · rw [hg.frame _ key hout, hg.frame _ key hout, hf.frame _ key hin]
  exact ⟨hf.answer_eq _ _ left, hg.answer_eq _ _ right, inside.eq outside⟩

end IsLocal

/-! ## Operations of the store -/

/-- Storing a file is local to any region that its key is in. -/
theorem isLocal_put {path : Text} (hpath : region (storageKey path)) (fingerprint : Text) (chunks : List Chunk) :
    IsLocal region fun s => ((), s.put path fingerprint chunks) where
  frame := by
    intro s key hkey
    have hne : key ≠ storageKey path := by
      rintro rfl
      exact hkey hpath
    exact row?_put_of_ne hne s fingerprint chunks
  answer_eq := fun _ _ _ => rfl
  agree := by
    intro s t hst key hkey
    by_cases heq : key = storageKey path
    · rw [heq, row?_put_self, row?_put_self]
    · rw [row?_put_of_ne heq, row?_put_of_ne heq]
      exact hst key hkey

/-- Clearing a directory is local to what lies in it. -/
theorem isLocal_clearUnder (directory : Text) :
    IsLocal (InDirectory (storageKey (directoryStem directory)))
      fun s => ((s.clearUnder directory).2, (s.clearUnder directory).1) where
  frame := by
    intro s key hkey
    rw [row?_clearUnder, if_neg hkey]
  answer_eq := by
    intro s t hst
    show (s.rowsUnder _).length = (t.rowsUnder _).length
    rw [hst.rowsUnder_eq]
  agree := by
    intro s t _ key hkey
    rw [row?_clearUnder, row?_clearUnder, if_pos hkey, if_pos hkey]

/-! ## Disjoint directories -/

/-- A key lies in two directories only if one of them lies in the other. -/
theorem inDirectory_of_inDirectory {stem otherStem key : Text} (h : InDirectory stem key)
    (hother : InDirectory otherStem key) : InDirectory stem otherStem ∨ InDirectory otherStem stem := by
  -- of two beginnings of one key the shorter is a beginning of the longer, and the key says how it goes on
  have shorter : ∀ {a b : Text}, InDirectory a key → InDirectory b key → a.length ≤ b.length → InDirectory a b := by
    intro a b ha hb hle
    have hab : a <+: b := List.prefix_of_prefix_length_le ha.prefix hb.prefix hle
    by_cases hne : b = a
    · exact .inl hne
    have hlt : a.length < b.length := length_lt_of_prefix_of_ne hab hne
    rcases ha with rfl | ha | ha
    · have := hb.prefix.length_le
      omega
    · refine .inr (.inl (List.prefix_of_prefix_length_le ha hb.prefix ?_))
      rw [List.length_append, List.length_singleton]
      omega
    · exact .inr (.inr ⟨ha.1, hab⟩)
  rcases Nat.le_total stem.length otherStem.length with hle | hle
  · exact .inl (shorter h hother hle)
  · exact .inr (shorter hother h hle)

end SourceAtlas.Store
