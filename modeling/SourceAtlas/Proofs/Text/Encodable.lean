import SourceAtlas.Proofs.Json.Surrogates
import SourceAtlas.Proofs.Path
import SourceAtlas.Proofs.Text.Utf8

/-!
Texts that can be encoded: those without surrogates. What is decoded is one, and so are its parts, what they are joined
to again, and what it is read back as.

Main statements: `Utf8.exists_encode_iff`, `Utf8.isEncodable_decode`, `isEncodable_join`.
-/

namespace SourceAtlas

/-- No surrogate is in a text. -/
def Text.IsEncodable (t : Text) : Prop := ∀ c ∈ t, c.isSurrogate = false

instance (t : Text) : Decidable t.IsEncodable :=
  decidable_of_iff (t.all (fun c => !c.isSurrogate) = true) (by simp [Text.IsEncodable])

/-- A text can be encoded exactly if no surrogates are in it. -/
theorem Utf8.exists_encode_iff {t : Text} : (∃ bytes, encode t = .ok bytes) ↔ ∀ c ∈ t, c.isSurrogate = false := by
  have hnone : firstSurrogates 0 t = none ↔ ∀ c ∈ t, c.isSurrogate = false := firstSurrogates_eq_none_iff
  rw [← hnone, encode]
  cases firstSurrogates 0 t <;> simp

/-- What has been decoded can be encoded. -/
theorem Utf8.isEncodable_decode (bytes : Bytes) : (decode bytes).IsEncodable :=
  exists_encode_iff.1 (exists_encode_decode bytes)

namespace Text

variable {s t separator : Text}

@[simp] theorem isEncodable_nil : IsEncodable [] := nofun

@[simp] theorem isEncodable_append : (s ++ t).IsEncodable ↔ s.IsEncodable ∧ t.IsEncodable :=
  List.forall_mem_append

/-- A text that is made of the characters of another can be encoded if that can. -/
theorem IsEncodable.subset (h : t.IsEncodable) (hsub : s ⊆ t) : s.IsEncodable := fun c hc => h c (hsub hc)

theorem isEncodable_times (n : Nat) (h : t.IsEncodable) : (times n t).IsEncodable := by
  intro c hc
  obtain ⟨copy, hcopy, hmem⟩ := List.mem_flatten.1 hc
  exact h c (List.eq_of_mem_replicate hcopy ▸ hmem)

/-- What is joined by a text that can be encoded can be encoded exactly if its pieces can. -/
theorem isEncodable_join (hseparator : separator.IsEncodable) {pieces : List Text} :
    (join separator pieces).IsEncodable ↔ ∀ piece ∈ pieces, piece.IsEncodable := by
  constructor
  · intro h piece hpiece c hc
    by_cases hmem : c ∈ separator
    · exact hseparator c hmem
    · exact h c ((mem_join_iff hmem).2 ⟨piece, hpiece, hc⟩)
  · intro h c hc
    by_cases hmem : c ∈ separator
    · exact hseparator c hmem
    · obtain ⟨piece, hpiece, hc⟩ := (mem_join_iff hmem).1 hc
      exact h piece hpiece c hc

/-- A text can be encoded exactly if its pieces between separators can. -/
theorem isEncodable_split {c : CodePoint} (hc : c.isSurrogate = false) :
    (∀ piece ∈ split c t, piece.IsEncodable) ↔ t.IsEncodable := by
  have separator : IsEncodable [c] := List.forall_mem_singleton.2 hc
  rw [← isEncodable_join separator, join_split]

/-- There is nothing to be joined in a text that can be encoded. -/
theorem IsEncodable.joinPairs_eq (h : t.IsEncodable) : Json.joinPairs t = t := by
  induction t with
  | nil => rfl
  | cons c rest ih =>
    obtain ⟨hc, hrest⟩ := List.forall_mem_cons.1 h
    have high : c.isHighSurrogate = false := by
      rw [CodePoint.isSurrogate, Bool.and_eq_false_iff, decide_eq_false_iff_not, decide_eq_false_iff_not] at hc
      rw [← Bool.not_eq_true, CodePoint.isHighSurrogate_iff]
      omega
    rw [Json.joinPairs_cons_of_not_high high, ih hrest]

end Text

end SourceAtlas
