import Mathlib.Data.List.Induction
import SourceAtlas.Entity
import SourceAtlas.Store

/-!
Paths and the keys made of them. The text of a path gives back its names, and so does its stored form up to
the spelling of surrogates. Whether a file is read is said by the last name however it is spelt: the letters
of the suffixes in question do not occur in spelt surrogates.

Main statements: `map_spell_eq_of_storageKey_eq`, `isRead_eq_of_spell_eq`.
-/

namespace SourceAtlas

/-! ## Joining and splitting -/

namespace Text

theorem split_of_not_mem {separator : CodePoint} {piece : Text} (h : separator ∉ piece) :
    split separator piece = [piece] := by
  induction piece with
  | nil => rfl
  | cons c cs ih =>
    rw [List.mem_cons, not_or] at h
    rw [split, if_neg (Ne.symm h.1), ih h.2]

theorem split_append_cons {separator : CodePoint} {piece : Text} (h : separator ∉ piece) (t : Text) :
    split separator (piece ++ separator :: t) = piece :: split separator t := by
  induction piece with
  | nil => rw [List.nil_append, split, if_pos rfl]
  | cons c cs ih =>
    rw [List.mem_cons, not_or] at h
    rw [List.cons_append, split, if_neg (Ne.symm h.1), ih h.2]

theorem join_cons_cons (separator piece next : Text) (more : List Text) :
    join separator (piece :: next :: more) = piece ++ separator ++ join separator (next :: more) := rfl

/-- Two lists of pieces are joined one after another. -/
theorem join_append {separator : Text} {front back : List Text} (hfront : front ≠ []) (hback : back ≠ []) :
    join separator (front ++ back)
      = join separator front ++ separator ++ join separator back := by
  induction front with
  | nil => exact absurd rfl hfront
  | cons piece rest ih =>
    cases rest with
    | nil =>
      cases back with
      | nil => exact absurd rfl hback
      | cons next more => rfl
    | cons next more =>
      rw [List.cons_append, List.cons_append, join_cons_cons, join_cons_cons, ← List.cons_append,
        ih (List.cons_ne_nil next more)]
      simp

/-- Pieces without separators are found again in what they are joined to. -/
theorem split_join {separator : CodePoint} {pieces : List Text} (hne : pieces ≠ [])
    (h : ∀ piece ∈ pieces, separator ∉ piece) : split separator (join [separator] pieces) = pieces := by
  induction pieces with
  | nil => exact absurd rfl hne
  | cons piece rest ih =>
    rw [List.forall_mem_cons] at h
    cases rest with
    | nil => exact split_of_not_mem h.1
    | cons next more =>
      rw [join_cons_cons, List.append_assoc, List.singleton_append, split_append_cons h.1,
        ih (List.cons_ne_nil next more) h.2]

theorem not_mem_of_mem_split {separator : CodePoint} {piece t : Text} (h : piece ∈ split separator t) :
    separator ∉ piece := by
  induction t generalizing piece with
  | nil => simp [split] at h; simp [h]
  | cons c cs ih =>
    unfold split at h
    split at h
    · rcases List.mem_cons.1 h with rfl | h
      · exact List.not_mem_nil
      · exact ih h
    · next hc =>
      split at h
      · next hs => exact absurd hs (split_ne_nil separator cs)
      · next first rest hs =>
        rcases List.mem_cons.1 h with rfl | h
        · have := ih (hs ▸ List.mem_cons_self : first ∈ split separator cs)
          simp [Ne.symm hc, this]
        · exact ih (hs ▸ List.mem_cons_of_mem first h)

theorem split_append (separator : CodePoint) (s t : Text) :
    split separator (s ++ separator :: t) = split separator s ++ split separator t := by
  have hs := split_ne_nil separator s
  have ht := split_ne_nil separator t
  have whole : s ++ separator :: t = join [separator] (split separator s ++ split separator t) := by
    rw [join_append hs ht, join_split, join_split, List.append_assoc]
    rfl
  rw [whole]
  refine split_join (List.append_ne_nil_of_left_ne_nil hs _) fun piece hpiece => ?_
  exact (List.mem_append.1 hpiece).elim not_mem_of_mem_split not_mem_of_mem_split

theorem mem_join_iff {separator : Text} {pieces : List Text} {c : CodePoint} (hc : c ∉ separator) :
    c ∈ join separator pieces ↔ ∃ piece ∈ pieces, c ∈ piece := by
  induction pieces with
  | nil => simp [join]
  | cons piece rest ih =>
    cases rest with
    | nil => simp [join]
    | cons next more => rw [join_cons_cons]; simp [hc, ih]

end Text

/-! ## Spelt surrogates -/

namespace Utf8

/-- A code point, spelt out if it is a surrogate. -/
def spellOne (c : CodePoint) : Text := if c.isSurrogate then ("\\u" : Text) ++ Text.hex 4 c.val else [c]

/-- The characters of which spelt surrogates consist. -/
def spellingAlphabet : Text := "\\u0123456789abcdef"

/-- A code point that spelling leaves alone and never brings in. -/
def isUnspelt (c : CodePoint) : Bool := !c.isSurrogate && !spellingAlphabet.contains c

theorem isUnspelt_iff {c : CodePoint} : isUnspelt c = true ↔ c.isSurrogate = false ∧ c ∉ spellingAlphabet := by
  rw [isUnspelt, Bool.and_eq_true, Bool.not_eq_true', Bool.not_eq_true', ← Bool.not_eq_true,
    ← Bool.not_eq_true (spellingAlphabet.contains c), List.contains_iff_mem]

theorem spellSurrogates_eq (t : Text) : spellSurrogates t = t.flatMap spellOne := rfl

theorem spellSurrogates_append (s t : Text) :
    spellSurrogates (s ++ t) = spellSurrogates s ++ spellSurrogates t := List.flatMap_append

theorem hexDigit_mem_spellingAlphabet (n : Nat) : Text.hexDigit (n % 16) ∈ spellingAlphabet := by
  have all : ∀ k < 16, Text.hexDigit k ∈ spellingAlphabet := by decide
  exact all (n % 16) (Nat.mod_lt n (by decide))

/-- A spelt surrogate ends in a digit. -/
theorem spellOne_of_surrogate {c : CodePoint} (h : c.isSurrogate = true) :
    ∃ start : Text, spellOne c = start ++ [Text.hexDigit (c.val % 16)] ∧ ∀ d ∈ start, d ∈ spellingAlphabet := by
  refine ⟨('\\' : CodePoint) :: ('u' : CodePoint) :: Text.hex 3 (c.val / 16), ?_, ?_⟩
  · rw [spellOne, if_pos h]
    rfl
  · have digits : Text.hex 3 (c.val / 16) = [Text.hexDigit (c.val / 16 / 16 / 16 % 16),
        Text.hexDigit (c.val / 16 / 16 % 16), Text.hexDigit (c.val / 16 % 16)] := rfl
    rw [digits]
    simp only [List.forall_mem_cons, hexDigit_mem_spellingAlphabet, List.not_mem_nil, false_implies,
      implies_true, and_true]
    exact ⟨by decide, by decide⟩

theorem spellOne_of_not_surrogate {c : CodePoint} (h : c.isSurrogate = false) : spellOne c = [c] := by
  rw [spellOne, h]
  rfl

theorem mem_spellOne {c d : CodePoint} (h : d ∈ spellOne c) : d = c ∨ d ∈ spellingAlphabet := by
  cases hc : c.isSurrogate with
  | false =>
    rw [spellOne_of_not_surrogate hc, List.mem_singleton] at h
    exact .inl h
  | true =>
    obtain ⟨start, hstart, hmem⟩ := spellOne_of_surrogate hc
    rw [hstart, List.mem_append, List.mem_singleton] at h
    rcases h with h | h
    · exact .inr (hmem d h)
    · exact .inr (h ▸ hexDigit_mem_spellingAlphabet c.val)

/-- Spelling brings in no characters but those of spelt surrogates. -/
theorem not_mem_spellSurrogates {c : CodePoint} {t : Text} (hc : c ∉ spellingAlphabet) (h : c ∉ t) :
    c ∉ spellSurrogates t := by
  intro hmem
  rw [spellSurrogates_eq, List.mem_flatMap] at hmem
  obtain ⟨d, hd, hmem⟩ := hmem
  rcases mem_spellOne hmem with rfl | hmem
  · exact h hd
  · exact hc hmem

theorem spellSurrogates_eq_nil_iff {t : Text} : spellSurrogates t = [] ↔ t = [] := by
  cases t with
  | nil => simp [spellSurrogates_eq]
  | cons c t =>
    have nonempty : spellOne c ≠ [] := by
      rw [spellOne]
      split <;> simp [Text.ofString]
    simp [spellSurrogates_eq, nonempty]

theorem spellSurrogates_of_forall {t : Text} (h : ∀ c ∈ t, c.isSurrogate = false) :
    spellSurrogates t = t := by
  induction t with
  | nil => rfl
  | cons c t ih =>
    rw [List.forall_mem_cons] at h
    rw [spellSurrogates_eq, List.flatMap_cons, spellOne_of_not_surrogate h.1, ← spellSurrogates_eq, ih h.2]
    rfl

/-- An ending without the characters of spelt surrogates stood in the text before it was spelt. -/
theorem exists_eq_append_of_spellSurrogates {t x y : Text} (h : spellSurrogates t = x ++ y)
    (hy : ∀ d ∈ y, isUnspelt d = true) : ∃ s, t = s ++ y ∧ spellSurrogates s = x := by
  -- both texts are taken apart from their ends, where the character of `y` has to be one of `t`
  induction t using List.reverseRecOn generalizing x y with
  | nil =>
    obtain ⟨rfl, rfl⟩ := List.nil_eq_append_iff.1 h
    exact ⟨[], rfl, rfl⟩
  | append_singleton t c ih =>
    rcases List.eq_nil_or_concat y with rfl | ⟨y, d, rfl⟩
    · exact ⟨t ++ [c], (List.append_nil _).symm, by rw [h, List.append_nil]⟩
    · have single : spellSurrogates [c] = spellOne c := List.flatMap_singleton _ _
      rw [List.concat_eq_append] at h hy ⊢
      rw [spellSurrogates_append, single, ← List.append_assoc] at h
      cases hc : c.isSurrogate with
      | true =>
        -- a spelt surrogate ends in a digit, which no character of `y` is
        obtain ⟨start, hstart, -⟩ := spellOne_of_surrogate hc
        rw [hstart, ← List.append_assoc] at h
        have last := (List.append_inj' h rfl).2
        have hd : d ∈ spellingAlphabet := by
          rw [← (List.cons.inj last).1]
          exact hexDigit_mem_spellingAlphabet c.val
        exact absurd hd (isUnspelt_iff.1 (hy d (by simp))).2
      | false =>
        rw [spellOne_of_not_surrogate hc] at h
        obtain ⟨before, last⟩ := List.append_inj' h rfl
        obtain ⟨s, rfl, hs⟩ := ih before fun e he => hy e (List.mem_append_left [d] he)
        exact ⟨s, by rw [last, List.append_assoc], hs⟩

theorem spellSurrogates_singleton {c : CodePoint} (h : c.isSurrogate = false) : spellSurrogates [c] = [c] :=
  spellSurrogates_of_forall fun d hd => by rwa [List.mem_singleton.1 hd]

theorem spellSurrogates_join {separator : CodePoint} (h : separator.isSurrogate = false)
    (pieces : List Text) :
    spellSurrogates (Text.join [separator] pieces) = Text.join [separator] (pieces.map spellSurrogates) := by
  induction pieces with
  | nil => rfl
  | cons piece rest ih =>
    cases rest with
    | nil => rfl
    | cons next more =>
      rw [Text.join_cons_cons, spellSurrogates_append, spellSurrogates_append, spellSurrogates_singleton h,
        ih, List.map_cons, List.map_cons, List.map_cons, Text.join_cons_cons]

end Utf8

/-! ## Keys -/

namespace Path

/-- The path of a file below the root of the disk, by names in which no separator occurs. -/
def IsPlain (p : Path) : Prop := p.anchor = .root ∧ p.parts ≠ [] ∧ ∀ name ∈ p.parts, Store.separator ∉ name

theorem toText_of_isPlain {p : Path} (h : p.IsPlain) :
    p.toText = Store.separator :: Text.join [Store.separator] p.parts := by
  rw [toText, h.1]
  rfl

/-- The text of a path gives back its names. -/
theorem eq_of_toText_eq {p q : Path} (hp : p.IsPlain) (hq : q.IsPlain) (h : p.toText = q.toText) : p = q := by
  rw [toText_of_isPlain hp, toText_of_isPlain hq] at h
  have parts := congrArg (Text.split Store.separator) (List.cons.inj h).2
  rw [Text.split_join hp.2.1 hp.2.2, Text.split_join hq.2.1 hq.2.2] at parts
  obtain ⟨anchor, names⟩ := p
  rw [Path.mk.injEq]
  exact ⟨hp.1.trans hq.1.symm, parts⟩

/-- The stored form of a path gives back its names up to the spelling of surrogates. -/
theorem map_spell_eq_of_storageKey_eq {p q : Path} (hp : p.IsPlain) (hq : q.IsPlain)
    (h : Store.storageKey p.toText = Store.storageKey q.toText) :
    p.parts.map Utf8.spellSurrogates = q.parts.map Utf8.spellSurrogates := by
  have plain : Store.separator.isSurrogate = false := by decide
  have spelt : ∀ names : List Text, Utf8.spellSurrogates (Store.separator :: Text.join [Store.separator] names)
      = Store.separator :: Text.join [Store.separator] (names.map Utf8.spellSurrogates) := by
    intro names
    rw [← List.singleton_append, Utf8.spellSurrogates_append, Utf8.spellSurrogates_singleton plain,
      Utf8.spellSurrogates_join plain, List.singleton_append]
  -- spelling brings in no separators, so that the names can be split again
  have free : ∀ {names : List Text}, (∀ name ∈ names, Store.separator ∉ name) →
      ∀ name ∈ names.map Utf8.spellSurrogates, Store.separator ∉ name := by
    intro names hnames name hname
    obtain ⟨other, hother, rfl⟩ := List.mem_map.1 hname
    exact Utf8.not_mem_spellSurrogates (by decide) (hnames other hother)
  rw [Store.storageKey, Store.storageKey, toText_of_isPlain hp, toText_of_isPlain hq, spelt, spelt] at h
  have parts := congrArg (Text.split Store.separator) (List.cons.inj h).2
  rwa [Text.split_join (by simpa using hp.2.1) (free hp.2.2),
    Text.split_join (by simpa using hq.2.1) (free hq.2.2)] at parts

/-! ## Collapsing -/

theorem foldl_collapseOne_of_forall {absolute : Bool} {names done : List Text}
    (h : ∀ name ∈ names, name ≠ above) : names.foldl (collapseOne absolute) done = names.reverse ++ done := by
  induction names generalizing done with
  | nil => rfl
  | cons name rest ih =>
    rw [List.forall_mem_cons] at h
    have first : collapseOne absolute done name = name :: done := if_pos h.1
    rw [List.foldl_cons, first, ih h.2, List.reverse_cons, List.append_assoc, List.singleton_append]

/-- Names without two dots are left as they are. -/
theorem collapse_of_forall {absolute : Bool} {names : List Text} (h : ∀ name ∈ names, name ≠ above) :
    collapse absolute names = names := by
  rw [collapse, foldl_collapseOne_of_forall h, List.append_nil, List.reverse_reverse]

theorem mem_collapseOne {done : List Text} {name other : Text} (hdone : ∀ other ∈ done, other ≠ above)
    (h : other ∈ collapseOne true done name) : (other = name ∨ other ∈ done) ∧ other ≠ above := by
  unfold collapseOne at h
  split at h
  · next hname =>
    rcases List.mem_cons.1 h with rfl | h
    · exact ⟨.inl rfl, hname⟩
    · exact ⟨.inr h, hdone other h⟩
  · split at h
    · simp at h
    · next last rest =>
      rw [if_neg (hdone last List.mem_cons_self)] at h
      have hmem : other ∈ last :: rest := List.mem_cons_of_mem last h
      exact ⟨.inr hmem, hdone other hmem⟩

theorem mem_foldl_collapseOne {names done : List Text} {other : Text} (hdone : ∀ other ∈ done, other ≠ above)
    (h : other ∈ names.foldl (collapseOne true) done) : (other ∈ names ∨ other ∈ done) ∧ other ≠ above := by
  induction names generalizing done with
  | nil => exact ⟨.inr h, hdone other h⟩
  | cons name rest ih =>
    rw [List.foldl_cons] at h
    obtain ⟨hmem, hne⟩ := ih (fun other ho => (mem_collapseOne hdone ho).2) h
    refine ⟨?_, hne⟩
    rcases hmem with hmem | hmem
    · exact .inl (List.mem_cons_of_mem name hmem)
    · rcases (mem_collapseOne hdone hmem).1 with rfl | hmem
      · exact .inl List.mem_cons_self
      · exact .inr hmem

/-- Of an absolute path no two dots are left. -/
theorem mem_collapse {names : List Text} {name : Text} (h : name ∈ collapse true names) :
    name ∈ names ∧ name ≠ above := by
  rw [collapse, List.mem_reverse] at h
  simpa using mem_foldl_collapseOne (by simp) h

theorem dropCommon_append (front back : List Text) : dropCommon front (front ++ back) = ([], back) := by
  induction front with
  | nil => cases back <;> rfl
  | cons name rest ih => rw [List.cons_append, dropCommon, if_pos rfl, ih]

/-- A path below a directory is seen from there by the names that it adds. -/
theorem relativeTo_append {directory : Path} {names : List Text} {anchor : Anchor}
    (h : ∀ name ∈ directory.parts ++ names, name ≠ above) :
    relativeTo directory ⟨anchor, directory.parts ++ names⟩ = ⟨.relative, names⟩ := by
  rw [relativeTo, collapse_of_forall h,
    collapse_of_forall fun name hname => h name (List.mem_append_left names hname), dropCommon_append]
  rfl

end Path

/-! ## Suffixes -/

namespace Unicode

theorem lowerAfter_eq_self {n : Nat} {runs : List CaseRun} (h : ∀ run ∈ runs, n < run.first ∨ run.last < n) :
    lowerAfter n runs = n := by
  induction runs with
  | nil => rfl
  | cons run rest ih =>
    rw [List.forall_mem_cons] at h
    rw [lowerAfter, ih h.2]
    -- a run that begins behind `n` ends the search, and one that ends before it changes nothing
    have outside : ¬ n < run.first → ¬ n ≤ run.last := by omega
    split
    · rfl
    · next hfirst => simp [outside hfirst]

/-- No surrogate has another lower-case form. -/
theorem lower_of_surrogate {c : CodePoint} (h : c.isSurrogate = true) : lower c = c := by
  have runs : ∀ run ∈ caseRuns, 0xDFFF < run.first ∨ run.last < 0xD800 := by decide +kernel
  have bounds : 0xD800 ≤ c.val ∧ c.val ≤ 0xDFFF := by simpa [CodePoint.isSurrogate] using h
  have outside : ∀ run ∈ caseRuns, c.val < run.first ∨ run.last < c.val := by
    intro run hrun
    have := runs run hrun
    omega
  rw [lower, if_neg (by omega), lowerAfter_eq_self outside]
  exact Fin.ext (Nat.mod_eq_of_lt c.isLt)

/-- The lower-case form of one character of a text. -/
def lowerOne (c : CodePoint) : Text := if c.val = 0x130 then ['i', CodePoint.ofNat 0x307] else [lower c]

theorem mem_lowerText {t : Text} {c d : CodePoint} (hc : c ∈ t) (hd : d ∈ lowerOne c) : d ∈ lowerText t :=
  List.mem_flatMap.2 ⟨c, hc, hd⟩

theorem lowerOne_of_lower_eq {c : CodePoint} (h : lower c = c) (hdot : c.val ≠ 0x130) : lowerOne c = [c] := by
  rw [lowerOne, if_neg hdot, h]

/-- What is ASCII and no capital letter is in lower case. -/
theorem lower_of_ascii {c : CodePoint} (hc : c.val < 128) (h : c.val < 65 ∨ 90 < c.val) : lower c = c := by
  have none : ¬ (decide (65 ≤ c.val) && decide (c.val ≤ 90)) = true := by
    rw [Bool.and_eq_true, decide_eq_true_iff, decide_eq_true_iff]
    omega
  rw [lower, if_pos hc, CodePoint.asciiLower, if_neg none]

/-- A text whose lower-case form has no characters that spelling changes or brings in has none itself. -/
theorem isUnspelt_of_lowerText {t : Text} (h : ∀ c ∈ lowerText t, Utf8.isUnspelt c = true) :
    ∀ c ∈ t, Utf8.isUnspelt c = true := by
  intro c hc
  -- a surrogate or a character of the alphabet is its own lower-case form, and would show there
  have same : lower c = c → c.val ≠ 0x130 → Utf8.isUnspelt c = true := fun hlower hdot =>
    h c (mem_lowerText hc ((lowerOne_of_lower_eq hlower hdot) ▸ List.mem_singleton.2 rfl))
  rw [Utf8.isUnspelt_iff]
  constructor
  · by_contra hs
    rw [Bool.not_eq_false] at hs
    have bounds : 0xD800 ≤ c.val ∧ c.val ≤ 0xDFFF := by simpa [CodePoint.isSurrogate] using hs
    have unspelt := Utf8.isUnspelt_iff.1 (same (lower_of_surrogate hs) (by omega))
    rw [unspelt.1] at hs
    exact Bool.noConfusion hs
  · intro hmem
    have alphabet : (Utf8.spellingAlphabet.all fun d => d.val < 128 ∧ (d.val < 65 ∨ 90 < d.val)) = true := by
      decide
    obtain ⟨hascii, hcase⟩ := of_decide_eq_true (List.all_eq_true.1 alphabet c hmem)
    exact (Utf8.isUnspelt_iff.1 (same (lower_of_ascii hascii hcase) (by omega))).2 hmem

end Unicode

namespace Path

/-- A name ends in a dot and a word, in letters of either case, and has something before the dot. -/
def EndsIn (word name : Text) : Prop :=
  ∃ stem tail, name = stem ++ ('.' : CodePoint) :: tail ∧ stem ≠ [] ∧ Unicode.lowerText tail = word

theorem lowerText_dot_cons (t : Text) :
    Unicode.lowerText (('.' : CodePoint) :: t) = ('.' : CodePoint) :: Unicode.lowerText t := rfl

theorem suffixOf_eq_of_last_dot {stem tail : Text} (hstem : stem ≠ []) (htail : tail ≠ [])
    (hdot : ('.' : CodePoint) ∉ tail) :
    suffixOf (stem ++ ('.' : CodePoint) :: tail) = ('.' : CodePoint) :: tail := by
  have reversed : (stem ++ ('.' : CodePoint) :: tail).reverse
      = tail.reverse ++ ('.' : CodePoint) :: stem.reverse := by simp
  have back : (stem ++ ('.' : CodePoint) :: tail).reverse.takeWhile (fun c : CodePoint => c != '.')
      = tail.reverse := by
    rw [reversed, List.takeWhile_append_of_pos, List.takeWhile_cons_of_neg (by simp), List.append_nil]
    intro c hc
    rw [bne_iff_ne]
    rintro rfl
    exact hdot (List.mem_reverse.1 hc)
  have long : ¬ (stem ++ ('.' : CodePoint) :: tail).length ≤ tail.reverse.length + 1 := by
    have := List.length_pos_iff.2 hstem
    simp only [List.length_append, List.length_cons, List.length_reverse]
    omega
  rw [suffixOf, back, List.reverse_reverse]
  exact if_neg (by simpa [htail] using long)

/-- A name with a suffix goes on before the last dot. -/
theorem exists_eq_append_suffixOf {name : Text} (h : suffixOf name ≠ []) :
    ∃ stem tail, name = stem ++ ('.' : CodePoint) :: tail ∧ stem ≠ []
      ∧ suffixOf name = ('.' : CodePoint) :: tail := by
  let back := name.reverse.takeWhile fun c : CodePoint => c != '.'
  have cut : ¬ (back.isEmpty || decide (name.length ≤ back.length + 1)) = true := by
    intro hcut
    exact h (if_pos hcut)
  have value : suffixOf name = ('.' : CodePoint) :: back.reverse := if_neg cut
  have parts : name.reverse = back ++ name.reverse.dropWhile fun c : CodePoint => c != '.' :=
    List.takeWhile_append_dropWhile.symm
  have length := congrArg List.length parts
  have long : back.length + 1 < name.length := by
    simp only [Bool.or_eq_true, decide_eq_true_eq, not_or] at cut
    omega
  rw [List.length_reverse, List.length_append] at length
  -- what is left of the name behind the suffix is a dot and what stands before it
  cases hrest : name.reverse.dropWhile (fun c : CodePoint => c != '.') with
  | nil =>
    rw [hrest, List.length_nil] at length
    omega
  | cons dot front =>
    rw [hrest, List.length_cons] at length
    have hdot : dot = '.' := by
      have := List.head_dropWhile_not (fun c : CodePoint => c != '.') (l := name.reverse) (by simp [hrest])
      simpa [hrest] using this
    refine ⟨front.reverse, back.reverse, ?_, ?_, value⟩
    · rw [← List.reverse_reverse name, parts, hrest, hdot]
      simp
    · intro hnil
      rw [List.reverse_eq_nil_iff] at hnil
      rw [hnil, List.length_nil] at length
      omega

/-- The suffix of a name in lower case. -/
theorem lowerText_suffixOf_eq_iff {word name : Text} (hne : word ≠ []) (hdot : ('.' : CodePoint) ∉ word) :
    Unicode.lowerText (suffixOf name) = ('.' : CodePoint) :: word ↔ EndsIn word name := by
  constructor
  · intro h
    have hsuffix : suffixOf name ≠ [] := by
      intro hnil
      rw [hnil] at h
      cases h
    obtain ⟨stem, tail, hname, hstem, htail⟩ := exists_eq_append_suffixOf hsuffix
    rw [htail, lowerText_dot_cons] at h
    exact ⟨stem, tail, hname, hstem, (List.cons.inj h).2⟩
  · rintro ⟨stem, tail, rfl, hstem, htail⟩
    have hempty : tail ≠ [] := by
      rintro rfl
      exact hne htail.symm
    have hnot : ('.' : CodePoint) ∉ tail := by
      intro hmem
      exact hdot (htail ▸ Unicode.mem_lowerText hmem (List.mem_singleton.2 rfl))
    rw [suffixOf_eq_of_last_dot hstem hempty hnot, lowerText_dot_cons, htail]

theorem endsIn_of_spell_eq {word a b : Text} (hword : ∀ c ∈ word, Utf8.isUnspelt c = true)
    (h : Utf8.spellSurrogates a = Utf8.spellSurrogates b) (ha : EndsIn word a) : EndsIn word b := by
  obtain ⟨stem, tail, rfl, hstem, rfl⟩ := ha
  have plain : ∀ c ∈ ('.' : CodePoint) :: tail, Utf8.isUnspelt c = true := by
    rw [List.forall_mem_cons]
    exact ⟨by decide, Unicode.isUnspelt_of_lowerText hword⟩
  rw [Utf8.spellSurrogates_append,
    Utf8.spellSurrogates_of_forall fun c hc => (Utf8.isUnspelt_iff.1 (plain c hc)).1] at h
  obtain ⟨start, rfl, hstart⟩ := Utf8.exists_eq_append_of_spellSurrogates h.symm plain
  refine ⟨start, tail, rfl, ?_, rfl⟩
  intro hnil
  rw [hnil] at hstart
  exact hstem (Utf8.spellSurrogates_eq_nil_iff.1 hstart.symm)

end Path

/-- No null character is in a path whose names files can have. -/
theorem Path.hasNull_of_isSound {p : Path} (h : p.isSound = true) : p.hasNull = false := by
  rw [isSound, List.all_eq_true] at h
  rw [hasNull, List.any_eq_false]
  intro name hname hnull
  obtain ⟨c, hc, hzero⟩ := List.any_eq_true.1 hnull
  have sound := h name hname
  rw [isSoundName, Bool.not_eq_true', List.any_eq_false] at sound
  exact sound c hc (by simp [of_decide_eq_true hzero])

/-- Whether a file is read is said by how its last name ends. -/
theorem isRead_iff {p : Path} (h : p.hasNull = false) :
    isRead p = true ↔ Path.EndsIn "py" p.name ∨ Path.EndsIn "pyi" p.name := by
  have py : _ ↔ Path.EndsIn "py" p.name := Path.lowerText_suffixOf_eq_iff (by decide) (by decide)
  have pyi : _ ↔ Path.EndsIn "pyi" p.name := Path.lowerText_suffixOf_eq_iff (by decide) (by decide)
  rw [← py, ← pyi, isRead, h, Bool.not_false, Bool.and_true, List.contains_iff_mem, readSuffixes, List.mem_cons,
    List.mem_singleton]
  rfl

/-- Files whose last names are spelt alike are both read or both not. -/
theorem isRead_eq_of_spell_eq {p q : Path} (hp : p.hasNull = false) (hq : q.hasNull = false)
    (h : Utf8.spellSurrogates p.name = Utf8.spellSurrogates q.name) : isRead p = isRead q := by
  have py := List.all_eq_true.1 (by decide : (("py" : Text).all Utf8.isUnspelt) = true)
  have pyi := List.all_eq_true.1 (by decide : (("pyi" : Text).all Utf8.isUnspelt) = true)
  rw [Bool.eq_iff_iff, isRead_iff hp, isRead_iff hq]
  exact or_congr ⟨Path.endsIn_of_spell_eq py h, Path.endsIn_of_spell_eq py h.symm⟩
    ⟨Path.endsIn_of_spell_eq pyi h, Path.endsIn_of_spell_eq pyi h.symm⟩

/-- Extraction depends on the path of a file only through whether it is read. -/
theorem extract_eq_of_isRead_eq {p q : Path} (h : isRead p = isRead q) (policy : Policy) (source : Text) :
    extract policy p source = extract policy q source := by
  rw [extract, extract, h]

end SourceAtlas
