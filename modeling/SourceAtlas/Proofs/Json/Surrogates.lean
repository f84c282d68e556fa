import SourceAtlas.Json.Reader
import SourceAtlas.Json.Writer

/-!
Surrogates in written strings. A code point beyond U+FFFF is escaped as a high and a low surrogate, and the
reader joins such pairs again. It joins a high and a low surrogate that stood apart in the text just as well:
a text comes back with its pairs joined, and hence unchanged exactly if it holds none.
-/

namespace SourceAtlas

namespace Text

/-- Does a high surrogate stand directly before a low one? -/
def holdsPair : Text → Bool
  | c :: d :: rest => (c.isHighSurrogate && d.isLowSurrogate) || holdsPair (d :: rest)
  | _ => false

end Text

namespace CodePoint

/-- High surrogates are the first half of the surrogates. -/
theorem isHighSurrogate_iff {c : CodePoint} : c.isHighSurrogate = true ↔ 0xD800 ≤ c.val ∧ c.val ≤ 0xDBFF := by
  simp [isHighSurrogate]

/-- Low surrogates are the second half. -/
theorem isLowSurrogate_iff {c : CodePoint} : c.isLowSurrogate = true ↔ 0xDC00 ≤ c.val ∧ c.val ≤ 0xDFFF := by
  simp [isLowSurrogate]

theorem val_ofNat {n : Nat} (h : n < 0x110000) : (ofNat n).val = n := Nat.mod_eq_of_lt h

theorem ofNat_val (c : CodePoint) : ofNat c.val = c := Fin.ext (val_ofNat c.isLt)

/-- A pair stands for a supplementary code point. -/
theorem le_val_ofPair {c d : CodePoint} (hc : c.isHighSurrogate = true) (hd : d.isLowSurrogate = true) :
    0x10000 ≤ (ofPair c d).val := by
  rw [isHighSurrogate_iff] at hc
  rw [isLowSurrogate_iff] at hd
  rw [ofPair, val_ofNat (by omega)]
  omega

end CodePoint

namespace Json

/-! ## Joining pairs -/

/-- A character that is no high surrogate stays in front. -/
theorem joinPairs_cons_of_not_high {c : CodePoint} (h : c.isHighSurrogate = false) (t : Text) :
    joinPairs (c :: t) = c :: joinPairs t := by
  cases t with
  | nil => simp [joinPairs]
  | cons d rest => simp [joinPairs, h]

/-- A text without pairs, and no other, is left alone. -/
theorem joinPairs_eq_self_iff {t : Text} : joinPairs t = t ↔ t.holdsPair = false := by
  fun_induction joinPairs t with
  | case1 => simp [Text.holdsPair]
  | case2 c => simp [Text.holdsPair]
  | case3 c d rest pair ih =>
    rw [Bool.and_eq_true] at pair
    -- a pair is joined to a code point beyond U+FFFF, which no surrogate is
    have hne : CodePoint.ofPair c d ≠ c := by
      intro h
      have hle := CodePoint.le_val_ofPair pair.1 pair.2
      have hc := CodePoint.isHighSurrogate_iff.1 pair.1
      rw [h] at hle
      omega
    simp [Text.holdsPair, pair, hne]
  | case4 c d rest pair ih =>
    rw [Bool.not_eq_true] at pair
    simp [Text.holdsPair, pair, ih]

/-! ## Escaping -/

/-- What a code point is escaped as: itself, or the surrogates that stand for it. -/
def units (c : CodePoint) : Text :=
  if c.val < 0x10000 then [c]
  else [CodePoint.ofNat (0xD800 + (c.val - 0x10000) / 0x400),
    CodePoint.ofNat (0xDC00 + (c.val - 0x10000) % 0x400)]

/-- A character below the supplementary planes is one code unit. -/
theorem units_of_lt {c : CodePoint} (h : c.val < 0x10000) : units c = [c] := if_pos h

/-- The surrogates of a supplementary code point make it up again. -/
theorem exists_units_eq_pair {c : CodePoint} (h : ¬ c.val < 0x10000) :
    ∃ high low : CodePoint, units c = [high, low] ∧ high.isHighSurrogate = true ∧ low.isLowSurrogate = true
      ∧ CodePoint.ofPair high low = c := by
  have hc := c.isLt
  have hhigh : (CodePoint.ofNat (0xD800 + (c.val - 0x10000) / 0x400)).val
      = 0xD800 + (c.val - 0x10000) / 0x400 := CodePoint.val_ofNat (by omega)
  have hlow : (CodePoint.ofNat (0xDC00 + (c.val - 0x10000) % 0x400)).val
      = 0xDC00 + (c.val - 0x10000) % 0x400 := CodePoint.val_ofNat (by omega)
  refine ⟨_, _, if_neg h, ?_, ?_, ?_⟩
  · rw [CodePoint.isHighSurrogate_iff, hhigh]
    omega
  · rw [CodePoint.isLowSurrogate_iff, hlow]
    omega
  · apply Fin.ext
    rw [CodePoint.ofPair, hhigh, hlow, CodePoint.val_ofNat (by omega)]
    omega

/-- What a pair is joined to is escaped as the pair. -/
theorem units_ofPair {c d : CodePoint} (hc : c.isHighSurrogate = true) (hd : d.isLowSurrogate = true) :
    units (CodePoint.ofPair c d) = [c, d] := by
  have hle := CodePoint.le_val_ofPair hc hd
  rw [CodePoint.isHighSurrogate_iff] at hc
  rw [CodePoint.isLowSurrogate_iff] at hd
  have hval : (CodePoint.ofPair c d).val = 0x10000 + (c.val - 0xD800) * 0x400 + (d.val - 0xDC00) :=
    CodePoint.val_ofNat (by omega)
  have hhigh : 0xD800 + ((CodePoint.ofPair c d).val - 0x10000) / 0x400 = c.val := by omega
  have hlow : 0xDC00 + ((CodePoint.ofPair c d).val - 0x10000) % 0x400 = d.val := by omega
  rw [units, if_neg (by omega), hhigh, hlow, CodePoint.ofNat_val, CodePoint.ofNat_val]

/-- A surrogate is escaped as itself. -/
theorem units_of_high {c : CodePoint} (h : c.isHighSurrogate = true) : units c = [c] := by
  rw [CodePoint.isHighSurrogate_iff] at h
  exact units_of_lt (by omega)

/-- A low surrogate is one code unit. -/
theorem units_of_low {c : CodePoint} (h : c.isLowSurrogate = true) : units c = [c] := by
  rw [CodePoint.isLowSurrogate_iff] at h
  exact units_of_lt (by omega)

/-- What a text is escaped as begins with a low surrogate only if the text does. -/
theorem joinPairs_high_cons_flatMap {c d : CodePoint} (hd : d.isLowSurrogate = false) (t : Text) :
    joinPairs (c :: (d :: t).flatMap units) = c :: joinPairs ((d :: t).flatMap units) := by
  rw [List.flatMap_cons]
  by_cases hlt : d.val < 0x10000
  · rw [units_of_lt hlt, List.singleton_append, joinPairs, hd, Bool.and_false]
    rfl
  · obtain ⟨high, low, hunits, hhigh, -, -⟩ := exists_units_eq_pair hlt
    have hnot : high.isLowSurrogate = false := by
      rw [CodePoint.isHighSurrogate_iff] at hhigh
      rw [Bool.eq_false_iff, ne_eq, CodePoint.isLowSurrogate_iff]
      omega
    rw [hunits, List.cons_append, joinPairs, hnot, Bool.and_false]
    rfl

/-- A supplementary code point that was escaped is made up again whatever follows it. -/
theorem joinPairs_units_append {c : CodePoint} (h : ¬ c.val < 0x10000) (t : Text) :
    joinPairs (units c ++ t) = c :: joinPairs t := by
  obtain ⟨high, low, hunits, hhigh, hlow, hpair⟩ := exists_units_eq_pair h
  rw [hunits, List.cons_append, List.singleton_append, joinPairs, hhigh, hlow, hpair]
  rfl

/-- Joining the pairs of an escaped text undoes the escaping, and joins what pairs the text held itself. -/
theorem joinPairs_flatMap_units (t : Text) : joinPairs (t.flatMap units) = joinPairs t := by
  fun_induction joinPairs t with
  | case1 => rfl
  | case2 c =>
    by_cases h : c.val < 0x10000
    · rw [List.flatMap_singleton, units_of_lt h, joinPairs]
    · rw [List.flatMap_singleton, ← List.append_nil (units c), joinPairs_units_append h, joinPairs]
  | case3 c d rest pair ih =>
    rw [Bool.and_eq_true] at pair
    -- a pair of the text is escaped as itself, and joined behind the escaping as before it
    rw [List.flatMap_cons, List.flatMap_cons, units_of_high pair.1, units_of_low pair.2,
      List.singleton_append, List.singleton_append, joinPairs, pair.1, pair.2, ← ih]
    rfl
  | case4 c d rest pair ih =>
    rw [List.flatMap_cons]
    by_cases h : c.val < 0x10000
    · rw [units_of_lt h, List.singleton_append]
      -- a high surrogate on its own must not be joined with what the next character is escaped as
      by_cases hhigh : c.isHighSurrogate = true
      · have hd : d.isLowSurrogate = false := by simpa [hhigh] using pair
        rw [joinPairs_high_cons_flatMap hd, ih]
      · rw [joinPairs_cons_of_not_high (by simpa using hhigh), ih]
    · rw [joinPairs_units_append h, ih]

/-! ## What joining does -/

/-- Joining pairs keeps the code units. -/
theorem flatMap_units_joinPairs (t : Text) : (joinPairs t).flatMap units = t.flatMap units := by
  fun_induction joinPairs t with
  | case1 => rfl
  | case2 c => rfl
  | case3 c d rest pair ih =>
    rw [Bool.and_eq_true] at pair
    obtain ⟨hhigh, hlow⟩ := pair
    have hunits : units (CodePoint.ofPair c d) = units c ++ units d := by
      rw [units_of_high hhigh, units_of_low hlow]
      exact units_ofPair hhigh hlow
    rw [List.flatMap_cons, ih, hunits, List.flatMap_cons, List.flatMap_cons, List.append_assoc]
  | case4 c d rest pair ih => rw [List.flatMap_cons, ih]; rfl

/-- A joined text begins with a low surrogate only if the text does. -/
theorem exists_joinPairs_eq_cons (d : CodePoint) (rest : Text) :
    ∃ e more, joinPairs (d :: rest) = e :: more ∧ (d.isLowSurrogate = false → e.isLowSurrogate = false) := by
  cases rest with
  | nil => exact ⟨d, [], rfl, id⟩
  | cons f rest =>
    rw [joinPairs]
    split
    · next pair =>
      rw [Bool.and_eq_true] at pair
      refine ⟨_, _, rfl, fun _ => ?_⟩
      have hle := CodePoint.le_val_ofPair pair.1 pair.2
      rw [Bool.eq_false_iff, ne_eq, CodePoint.isLowSurrogate_iff]
      omega
    · exact ⟨d, _, rfl, id⟩

/-- No pair is left where pairs are joined. -/
theorem holdsPair_joinPairs (t : Text) : (joinPairs t).holdsPair = false := by
  have not_high : ∀ {c : CodePoint} {t : Text}, c.isHighSurrogate = false → t.holdsPair = false →
      Text.holdsPair (c :: t) = false := by
    intro c t hc ht
    cases t with
    | nil => rfl
    | cons d rest => rw [Text.holdsPair, hc, ht]; rfl
  fun_induction joinPairs t with
  | case1 => rfl
  | case2 c => rfl
  | case3 c d rest pair ih =>
    rw [Bool.and_eq_true] at pair
    have hle := CodePoint.le_val_ofPair pair.1 pair.2
    refine not_high ?_ ih
    rw [Bool.eq_false_iff, ne_eq, CodePoint.isHighSurrogate_iff]
    omega
  | case4 c d rest pair ih =>
    by_cases hhigh : c.isHighSurrogate = true
    · have hd : d.isLowSurrogate = false := by simpa [hhigh] using pair
      obtain ⟨e, more, heq, hlow⟩ := exists_joinPairs_eq_cons d rest
      rw [heq] at ih ⊢
      rw [Text.holdsPair, hlow hd, ih, Bool.and_false]
      rfl
    · exact not_high (by simpa using hhigh) ih

/-- The joined text is the one with the same units in which no pair is left. -/
theorem eq_joinPairs_iff {t u : Text} :
    u = joinPairs t ↔ u.holdsPair = false ∧ u.flatMap units = t.flatMap units := by
  constructor
  · rintro rfl
    exact ⟨holdsPair_joinPairs t, flatMap_units_joinPairs t⟩
  · rintro ⟨hpair, hunits⟩
    rw [← joinPairs_flatMap_units, ← hunits, joinPairs_flatMap_units, joinPairs_eq_self_iff.2 hpair]

end Json

end SourceAtlas
