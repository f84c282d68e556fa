import SourceAtlas.Proofs.Store.Subtree
import SourceAtlas.Proofs.Text.Spelling

/-!
Keys and their stored forms. A key that lies in a directory does so in its stored form too. For the converse,
and for keys to be told apart by their stored forms, no spelling of a surrogate may occur in them.

Main statements: `storageKey_eq_iff`, `inDirectory_storageKey_iff`, `inDirectory_storageKey_iff_of_unique`.
-/

namespace SourceAtlas.Store

/-! ## Keys below a directory -/

/-- What lies in a directory lies in it as well if the separators at the end of its name are dropped. -/
theorem InDirectory.directoryStem {directory key : Text} (h : InDirectory directory key) :
    InDirectory (directoryStem directory) key := by
  obtain ⟨only, other⟩ := isStem_directoryStem directory
  by_cases hall : ∀ c ∈ directory, c = separator
  · rwa [only hall]
  obtain ⟨-, n, hdirectory⟩ := other hall
  -- what the stem is followed by begins with a separator, or nothing was dropped
  cases n with
  | zero => rwa [hdirectory.trans (List.append_nil _)] at h
  | succ n =>
    have first : Store.directoryStem directory ++ [separator] <+: directory := by
      refine ⟨List.replicate n separator, ?_⟩
      rw [List.append_assoc, List.singleton_append, ← List.replicate_succ]
      exact hdirectory.symm
    exact .inr (.inl (first.trans h.prefix))

/-- Stored forms are put together as the texts are. -/
theorem storageKey_append (s t : Text) : storageKey (s ++ t) = storageKey s ++ storageKey t :=
  Utf8.spellSurrogates_append s t

theorem storageKey_separator : storageKey [separator] = [separator] :=
  Utf8.spellSurrogates_singleton (by decide)

/-- The stored form of a key lies in the stored form of a directory if the key lies in the directory. -/
theorem InDirectory.storageKey {stem key : Text} (h : InDirectory stem key) :
    InDirectory (storageKey stem) (storageKey key) := by
  rcases h with rfl | ⟨rest, rfl⟩ | ⟨hlast, rest, rfl⟩
  · exact .inl rfl
  · refine .inr (.inl ?_)
    rw [storageKey_append, storageKey_append, storageKey_separator]
    exact List.prefix_append _ _
  · refine .inr (.inr ⟨?_, ?_⟩)
    · obtain ⟨front, rfl⟩ := List.getLast?_eq_some_iff.1 hlast
      rw [storageKey_append, storageKey_separator, List.getLast?_concat]
    · rw [storageKey_append]
      exact List.prefix_append _ _

/-- Nothing but separators is dropped from a directory, and that at its end. -/
theorem isPrefix_directoryStem (directory : Text) : directoryStem directory <+: directory := by
  obtain ⟨only, other⟩ := isStem_directoryStem directory
  by_cases hall : ∀ c ∈ directory, c = separator
  · exact ⟨[], by rw [only hall, List.append_nil]⟩
  · obtain ⟨-, n, hdirectory⟩ := other hall
    exact ⟨List.replicate n separator, hdirectory.symm⟩

/-! ## Keys without spelt surrogates -/

/-- Texts without spelt surrogates are told apart by their stored forms. -/
theorem storageKey_eq_iff {path other : Text} (hpath : Utf8.SpellsNone path) (hother : Utf8.SpellsNone other) :
    storageKey path = storageKey other ↔ path = other :=
  ⟨Utf8.spellSurrogates_injOn hpath hother, congrArg storageKey⟩

theorem isUnspelt_separator : Utf8.isUnspelt separator = true := by decide

/-- What the stored form of a key begins with up to a separator is the stored form of a beginning of the key. -/
theorem append_separator_of_storageKey {front key : Text} (hfront : Utf8.SpellsNone front)
    (hkey : Utf8.SpellsNone key) (h : storageKey front ++ [separator] <+: storageKey key) :
    front ++ [separator] <+: key := by
  obtain ⟨rest, hrest⟩ := h
  rw [List.append_assoc, List.singleton_append] at hrest
  obtain ⟨start, back, rfl, hstart, -⟩ := Utf8.exists_split_of_spellSurrogates isUnspelt_separator hrest.symm
  have same : start = front :=
    Utf8.spellSurrogates_injOn (hkey.of_isInfix (List.prefix_append _ _).isInfix) hfront hstart
  exact ⟨back, by rw [same, List.append_assoc, List.singleton_append]⟩

/-- Keys without spelt surrogates lie in a directory exactly if their stored forms do. -/
theorem inDirectory_storageKey_iff {stem key : Text} (hstem : Utf8.SpellsNone stem)
    (hkey : Utf8.SpellsNone key) : InDirectory (storageKey stem) (storageKey key) ↔ InDirectory stem key := by
  refine ⟨fun h => ?_, InDirectory.storageKey⟩
  rcases h with h | h | ⟨hlast, h⟩
  · exact .inl ((storageKey_eq_iff hkey hstem).1 h)
  · exact .inr (.inl (append_separator_of_storageKey hstem hkey h))
  · -- a separator at the end of the stored form is one at the end of the stem
    obtain ⟨front, hfront⟩ := List.getLast?_eq_some_iff.1 hlast
    obtain ⟨start, rfl, hstart⟩ := Utf8.exists_eq_append_of_spellSurrogates hfront fun d hd =>
      List.mem_singleton.1 hd ▸ isUnspelt_separator
    rw [hfront, ← hstart] at h
    refine .inr (.inr ⟨List.getLast?_concat, ?_⟩)
    exact append_separator_of_storageKey (hstem.of_isInfix (List.prefix_append _ _).isInfix) hkey h

/-- A key whose stored form no other key has lies in a directory exactly if its stored form does. -/
theorem inDirectory_storageKey_iff_of_unique {stem key : Text}
    (h : ∀ other, storageKey other = storageKey key → other = key) :
    InDirectory (storageKey stem) (storageKey key) ↔ InDirectory stem key := by
  refine ⟨fun hstored => ?_, InDirectory.storageKey⟩
  obtain ⟨hnone, hself⟩ := Utf8.plain_of_unique h
  have hkey : storageKey key = key := hself
  rw [hkey] at hstored
  -- the key begins with the stored form of the stem, so that nothing is spelt there
  have hfront : storageKey stem <+: key := hstored.prefix
  have hstem : storageKey stem = stem := Utf8.spellSurrogates_eq_self (hnone.of_isInfix hfront.isInfix)
  rwa [hstem] at hstored

end SourceAtlas.Store
