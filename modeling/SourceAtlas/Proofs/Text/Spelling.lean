import SourceAtlas.Proofs.Json.Strings
import SourceAtlas.Proofs.Path

/-!
When spelling surrogates out loses nothing. A surrogate is spelt by characters that may stand in a text
anyway, so that two texts can be spelt alike. This happens only if one of them holds the spelling of a
surrogate, character for character: all other texts are told apart by their spelt forms.

Main statements: `spellSurrogates_injOn`, `exists_split_of_spellSurrogates`, `plain_of_unique`.
-/

namespace SourceAtlas.Utf8

/-! ## One surrogate -/

/-- Four hexadecimal digits of a number, from the front on. -/
theorem hex_four (n : Nat) : Text.hex 4 n = [Text.hexDigit (n / 16 / 16 / 16 % 16),
    Text.hexDigit (n / 16 / 16 % 16), Text.hexDigit (n / 16 % 16), Text.hexDigit (n % 16)] := rfl

/-- A surrogate is spelt with one backslash, in front. -/
theorem spellOne_eq_cons {c : CodePoint} (h : c.isSurrogate = true) :
    ∃ digits : Text, spellOne c = ('\\' : CodePoint) :: digits ∧ ('\\' : CodePoint) ∉ digits := by
  refine ⟨('u' : CodePoint) :: Text.hex 4 c.val, ?_, ?_⟩
  · rw [spellOne, if_pos h]
    rfl
  · have digit : ∀ n, Text.hexDigit (n % 16) ≠ ('\\' : CodePoint) := by
      intro n
      have all : ∀ k < 16, Text.hexDigit k ≠ ('\\' : CodePoint) := by decide
      exact all (n % 16) (Nat.mod_lt n (by decide))
    simp only [hex_four, List.mem_cons, List.not_mem_nil, or_false, not_or]
    exact ⟨by decide, (digit _).symm, (digit _).symm, (digit _).symm, (digit _).symm⟩

/-- A surrogate is spelt with six characters. -/
theorem length_spellOne {c : CodePoint} (h : c.isSurrogate = true) : (spellOne c).length = 6 := by
  rw [spellOne, if_pos h]
  rfl

/-- All of them belong to a small alphabet. -/
theorem mem_spellingAlphabet_of_mem_spellOne {c d : CodePoint} (hc : c.isSurrogate = true)
    (hd : d ∈ spellOne c) : d ∈ spellingAlphabet := by
  obtain ⟨start, hstart, hall⟩ := spellOne_of_surrogate hc
  rw [hstart, List.mem_append, List.mem_singleton] at hd
  rcases hd with hd | rfl
  · exact hall d hd
  · exact hexDigit_mem_spellingAlphabet c.val

/-- No surrogate is left where surrogates are spelt. -/
theorem isSurrogate_of_mem_spellOne {c d : CodePoint} (h : d ∈ spellOne c) : d.isSurrogate = false := by
  cases hc : c.isSurrogate with
  | true =>
    have alphabet := List.all_eq_true.1 (by decide : (spellingAlphabet.all fun e => !e.isSurrogate) = true)
    simpa using alphabet d (mem_spellingAlphabet_of_mem_spellOne hc h)
  | false =>
    rw [spellOne_of_not_surrogate hc, List.mem_singleton] at h
    rwa [h]

/-- The four digits of a surrogate say which it is. -/
theorem eq_of_spellOne_eq {c d : CodePoint} (hc : c.isSurrogate = true) (hd : d.isSurrogate = true)
    (h : spellOne c = spellOne d) : c = d := by
  have small : ∀ {e : CodePoint}, e.isSurrogate = true → e.val < 0x10000 := by
    intro e he
    have bounds : 0xD800 ≤ e.val ∧ e.val ≤ 0xDFFF := by simpa [CodePoint.isSurrogate] using he
    omega
  rw [spellOne, spellOne, if_pos hc, if_pos hd, List.append_cancel_left_eq, hex_four, hex_four] at h
  injection h with h₃ h
  injection h with h₂ h
  injection h with h₁ h
  injection h with h₀ _
  have value := Json.hexUnit?_hexDigits (small hc)
  rw [h₃, h₂, h₁, h₀, Json.hexUnit?_hexDigits (small hd), Option.some.injEq] at value
  exact Fin.ext value.symm

/-! ## Beginnings and splits of spelt texts -/

/-- Surrogates are spelt out one by one. -/
theorem spellSurrogates_cons (c : CodePoint) (t : Text) :
    spellSurrogates (c :: t) = spellOne c ++ spellSurrogates t := List.flatMap_cons

/-- A beginning without a backslash stood in the text before it was spelt. -/
theorem exists_eq_append_of_spellSurrogates_front {t x y : Text} (h : spellSurrogates t = x ++ y)
    (hx : ('\\' : CodePoint) ∉ x) : ∃ s, t = x ++ s ∧ spellSurrogates s = y := by
  induction x generalizing t with
  | nil => exact ⟨t, rfl, h⟩
  | cons d x ih =>
    rw [List.mem_cons, not_or] at hx
    cases t with
    | nil => cases h
    | cons c t =>
      rw [spellSurrogates_cons, List.cons_append] at h
      cases hc : c.isSurrogate with
      | true =>
        obtain ⟨digits, hdigits, -⟩ := spellOne_eq_cons hc
        rw [hdigits, List.cons_append] at h
        exact absurd (List.cons.inj h).1 hx.1
      | false =>
        rw [spellOne_of_not_surrogate hc, List.singleton_append] at h
        obtain ⟨rfl, hrest⟩ := List.cons.inj h
        obtain ⟨s, rfl, hs⟩ := ih hrest hx.2
        exact ⟨s, rfl, hs⟩

/-- A character that spelling leaves alone splits the text where it splits the spelt one. -/
theorem exists_split_of_spellSurrogates {t x y : Text} {separator : CodePoint}
    (hseparator : isUnspelt separator = true) (h : spellSurrogates t = x ++ separator :: y) :
    ∃ front back, t = front ++ separator :: back ∧ spellSurrogates front = x ∧ spellSurrogates back = y := by
  induction t generalizing x with
  | nil => cases x <;> cases h
  | cons c t ih =>
    rw [spellSurrogates_cons, List.append_eq_append_iff] at h
    rcases h with ⟨more, rfl, hmore⟩ | ⟨more, hspelt, hmore⟩
    · obtain ⟨front, back, rfl, rfl, rfl⟩ := ih hmore
      exact ⟨c :: front, back, rfl, spellSurrogates_cons c front, rfl⟩
    · cases more with
      | nil =>
        -- the separator is the first character of what follows
        rw [List.append_nil] at hspelt
        obtain ⟨front, back, rfl, hfront, rfl⟩ := ih (x := []) hmore.symm
        refine ⟨c :: front, back, rfl, ?_, rfl⟩
        rw [spellSurrogates_cons, hfront, List.append_nil, hspelt]
      | cons d more =>
        obtain ⟨rfl, hy⟩ := List.cons.inj hmore
        -- the separator is no character of a spelt surrogate, so that it stands for itself
        have hc : c.isSurrogate = false := by
          cases hc : c.isSurrogate with
          | false => rfl
          | true =>
            have mem : separator ∈ spellOne c := by
              rw [hspelt]
              simp
            exact absurd (mem_spellingAlphabet_of_mem_spellOne hc mem) (isUnspelt_iff.1 hseparator).2
        rw [spellOne_of_not_surrogate hc] at hspelt
        cases x with
        | nil =>
          obtain ⟨rfl, hnil⟩ := List.cons.inj hspelt
          obtain rfl : more = [] := hnil.symm
          exact ⟨[], t, rfl, rfl, hy.symm⟩
        | cons e x => simp at hspelt

/-! ## Texts in which no spelling occurs -/

/-- Nowhere in the text does the spelling of a surrogate stand. The text itself may hold surrogates, and it
may hold backslashes. -/
def SpellsNone (t : Text) : Prop := ∀ c : CodePoint, c.isSurrogate = true → ¬ spellOne c <:+: t

/-- A piece of a text without spelt surrogates has none either. -/
theorem SpellsNone.of_isInfix {s t : Text} (h : SpellsNone t) (hs : s <:+: t) : SpellsNone s :=
  fun c hc hspells => h c hc (hspells.trans hs)

/-- A text without a backslash spells none. -/
theorem spellsNone_of_not_mem {t : Text} (h : ('\\' : CodePoint) ∉ t) : SpellsNone t := by
  intro c hc hspells
  obtain ⟨digits, hdigits, -⟩ := spellOne_eq_cons hc
  rw [hdigits] at hspells
  exact h (hspells.subset List.mem_cons_self)

/-- Any other text is spelt like the one that has the surrogate in the place of its spelling. -/
theorem exists_ne_of_not_spellsNone {t : Text} (h : ¬ SpellsNone t) :
    ∃ s, s ≠ t ∧ spellSurrogates s = spellSurrogates t := by
  simp only [SpellsNone, not_forall, not_not] at h
  obtain ⟨c, hc, front, back, rfl⟩ := h
  refine ⟨front ++ c :: back, ?_, ?_⟩
  · intro heq
    have length := congrArg List.length heq
    simp only [List.length_append, List.length_cons, length_spellOne hc] at length
    omega
  · have plain : spellSurrogates (spellOne c) = spellOne c :=
      spellSurrogates_of_forall fun d hd => isSurrogate_of_mem_spellOne hd
    rw [spellSurrogates_append, spellSurrogates_append, spellSurrogates_append, spellSurrogates_cons, plain,
      List.append_assoc]

/-- A text that is spelt like no other holds neither surrogates nor their spellings. -/
theorem plain_of_unique {t : Text} (h : ∀ s, spellSurrogates s = spellSurrogates t → s = t) :
    SpellsNone t ∧ spellSurrogates t = t := by
  constructor
  · by_contra hspells
    obtain ⟨s, hne, hsame⟩ := exists_ne_of_not_spellsNone hspells
    exact hne (h s hsame)
  · refine h _ (spellSurrogates_of_forall fun c hc => ?_)
    rw [spellSurrogates_eq, List.mem_flatMap] at hc
    obtain ⟨d, -, hc⟩ := hc
    exact isSurrogate_of_mem_spellOne hc

/-- A text in whose spelt form no spelling occurs is left alone. -/
theorem spellSurrogates_eq_self {s : Text} (h : SpellsNone (spellSurrogates s)) : spellSurrogates s = s := by
  refine spellSurrogates_of_forall fun c hc => ?_
  by_contra hsurrogate
  rw [Bool.not_eq_false] at hsurrogate
  obtain ⟨front, back, rfl⟩ := List.append_of_mem hc
  refine h c hsurrogate ⟨spellSurrogates front, spellSurrogates back, ?_⟩
  rw [spellSurrogates_append, spellSurrogates_cons, List.append_assoc]

/-- A text that begins with a surrogate is not spelt like one that spells the surrogate itself. -/
theorem not_spellSurrogates_eq_of_surrogate {c d : CodePoint} {s t : Text} (hc : c.isSurrogate = true)
    (hd : d.isSurrogate = false) (ht : SpellsNone (d :: t)) :
    spellSurrogates (c :: s) ≠ spellSurrogates (d :: t) := by
  intro h
  obtain ⟨digits, hdigits, hplain⟩ := spellOne_eq_cons hc
  rw [spellSurrogates_cons, spellSurrogates_cons, spellOne_of_not_surrogate hd, hdigits,
    List.singleton_append, List.cons_append] at h
  obtain ⟨rfl, hrest⟩ := List.cons.inj h
  obtain ⟨more, rfl, -⟩ := exists_eq_append_of_spellSurrogates_front hrest.symm hplain
  refine ht c hc ⟨[], more, ?_⟩
  rw [hdigits]
  rfl

/-- Texts in which no spelling occurs are told apart by their spelt forms. -/
theorem spellSurrogates_injOn {s t : Text} (hs : SpellsNone s) (ht : SpellsNone t)
    (h : spellSurrogates s = spellSurrogates t) : s = t := by
  induction s generalizing t with
  | nil => exact (spellSurrogates_eq_nil_iff.1 h.symm).symm
  | cons c s ih =>
    cases t with
    | nil => exact spellSurrogates_eq_nil_iff.1 h
    | cons d t =>
      have rest : spellSurrogates s = spellSurrogates t → s = t :=
        ih (hs.of_isInfix (List.suffix_cons c s).isInfix) (ht.of_isInfix (List.suffix_cons d t).isInfix)
      cases hc : c.isSurrogate with
      | false =>
        cases hd : d.isSurrogate with
        | false =>
          rw [spellSurrogates_cons, spellSurrogates_cons, spellOne_of_not_surrogate hc,
            spellOne_of_not_surrogate hd] at h
          obtain ⟨rfl, hrest⟩ := List.cons.inj h
          rw [rest hrest]
        | true => exact absurd h.symm (not_spellSurrogates_eq_of_surrogate hd hc hs)
      | true =>
        cases hd : d.isSurrogate with
        | false => exact absurd h (not_spellSurrogates_eq_of_surrogate hc hd ht)
        | true =>
          -- both are spelt by six characters
          rw [spellSurrogates_cons, spellSurrogates_cons] at h
          obtain ⟨hfirst, hrest⟩ := List.append_inj h (by rw [length_spellOne hc, length_spellOne hd])
          rw [eq_of_spellOne_eq hc hd hfirst, rest hrest]

end SourceAtlas.Utf8
