import SourceAtlas.Text.Lines

/-!
How texts are cut into lines. Line ends need not be unified before: every one of them is an end as it stands. Where a
line has ended, the lines of a text are those of what comes before and those of what follows.

Main statements: `lines_unifyLineEnds`, `lines_append`.
-/

namespace SourceAtlas.Text

variable {c : CodePoint} {t front back : Text}

/-! ## The first line -/

/-- A carriage return ends a line. -/
theorem ne_return_of_not_endsLine (h : endsLine c = false) : c ≠ '\r' := by
  rintro rfl
  cases h

/-- A character that ends a line cuts off an empty one, unless it is a carriage return before a line feed. -/
theorem lines_cons_of_endsLine (h : endsLine c = true) (hc : ¬ (c = '\r' ∧ t.head? = some ('\n' : CodePoint))) :
    lines (c :: t) = [] :: lines t := by
  cases t with
  | nil => exact if_pos h
  | cons d rest =>
    have apart : ¬ (c = '\r' && d = '\n') = true := by simpa using hc
    rw [lines, if_neg apart, if_pos h]

/-- A line feed in front is an empty line. -/
theorem lines_feed (t : Text) : lines ('\n' :: t) = [] :: lines t :=
  lines_cons_of_endsLine rfl fun h => absurd h.1 (by decide)

/-- A carriage return before a line feed says nothing. -/
theorem lines_return (t : Text) : lines ('\r' :: '\n' :: t) = lines ('\n' :: t) := (lines_feed t).symm

/-- Any other character belongs to the first line. -/
theorem lines_cons_of_not_endsLine (h : endsLine c = false) :
    lines (c :: t) = (c :: (lines t).headD []) :: (lines t).tail := by
  cases t with
  | nil => exact if_neg (by simp [h])
  | cons d rest =>
    rw [lines, if_neg (by simp [ne_return_of_not_endsLine h]), if_neg (by simp [h])]
    cases lines (d :: rest) with
    | nil => rfl
    | cons line more => rfl

/-- A text that is not empty has lines. -/
theorem lines_ne_nil (h : t ≠ []) : lines t ≠ [] := by
  obtain ⟨c, rest, rfl⟩ := List.exists_cons_of_ne_nil h
  cases hc : endsLine c with
  | false =>
    rw [lines_cons_of_not_endsLine hc]
    exact List.cons_ne_nil _ _
  | true =>
    by_cases hpair : c = '\r' ∧ rest.head? = some ('\n' : CodePoint)
    · obtain ⟨rfl, hhead⟩ := hpair
      obtain ⟨more, rfl⟩ := List.head?_eq_some_iff.1 hhead
      exact List.cons_ne_nil _ _
    · rw [lines_cons_of_endsLine hc hpair]
      exact List.cons_ne_nil _ _

/-! ## Line ends -/

/-- Unified line ends cut a text where its own do. -/
theorem lines_unifyLineEnds (t : Text) : lines (unifyLineEnds t) = lines t := by
  induction t using unifyLineEnds.induct with
  | case1 => rfl
  | case2 c =>
    rw [unifyLineEnds]
    split
    · next hc => rw [hc]; rfl
    · rfl
  | case3 rest ih =>
    rw [unifyLineEnds, if_pos rfl, if_pos rfl, lines_feed, ih, lines_return, lines_feed]
  | case4 d rest hd ih =>
    have alone : lines ('\r' :: d :: rest) = [] :: lines (d :: rest) := lines_cons_of_endsLine rfl (by simpa using hd)
    rw [unifyLineEnds, if_pos rfl, if_neg hd, lines_feed, ih, alone]
  | case5 c d rest hc ih =>
    rw [unifyLineEnds, if_neg hc]
    cases hend : endsLine c with
    | true =>
      have alone : ∀ t : Text, ¬ (c = '\r' ∧ t.head? = some ('\n' : CodePoint)) := fun t h => hc h.1
      rw [lines_cons_of_endsLine hend (alone _), lines_cons_of_endsLine hend (alone _), ih]
    | false => rw [lines_cons_of_not_endsLine hend, lines_cons_of_not_endsLine hend, ih]

/-! ## Texts put together -/

/-- A line ends between two texts, if the first is not empty: it does not leave off in the middle of a line, or between
a carriage return and its line feed. -/
def PartsLines (front back : Text) : Prop := ∀ c, front.getLast? = some c →
  endsLine c = true ∧ ¬ (c = '\r' ∧ back.head? = some ('\n' : CodePoint))

theorem partsLines_nil (back : Text) : PartsLines [] back := nofun

/-- Behind a line feed a new line begins. -/
theorem partsLines_feed (front back : Text) : PartsLines (front ++ [('\n' : CodePoint)]) back := by
  intro c hc
  rw [List.getLast?_concat] at hc
  obtain rfl := Option.some.inj hc
  exact ⟨rfl, fun h => absurd h.1 (by decide)⟩

/-- Two texts that part at a line break do so without the first character. -/
theorem PartsLines.tail (h : PartsLines (c :: front) back) : PartsLines front back := by
  cases front with
  | nil => exact partsLines_nil back
  | cons d rest => exact fun e he => h e (by rwa [List.getLast?_cons_cons])

/-- Texts that part at a line break have the lines of both. -/
theorem lines_append (h : PartsLines front back) : lines (front ++ back) = lines front ++ lines back := by
  induction front with
  | nil => rfl
  | cons c rest ih =>
    have ih := ih h.tail
    rw [List.cons_append]
    cases hc : endsLine c with
    | false =>
      have hrest : lines rest ≠ [] := lines_ne_nil fun hnil => by
        subst hnil
        rw [(h c rfl).1] at hc
        cases hc
      obtain ⟨line, more, hlines⟩ := List.exists_cons_of_ne_nil hrest
      rw [lines_cons_of_not_endsLine hc, lines_cons_of_not_endsLine hc, ih, hlines]
      rfl
    | true =>
      by_cases hpair : c = '\r' ∧ (rest ++ back).head? = some ('\n' : CodePoint)
      · obtain ⟨rfl, hhead⟩ := hpair
        cases rest with
        | nil => exact absurd ⟨rfl, hhead⟩ (h _ rfl).2
        | cons d more =>
          obtain rfl : d = '\n' := Option.some.inj hhead
          rw [List.cons_append, lines_return, lines_return, ← List.cons_append, ih]
      · have alone : ¬ (c = '\r' ∧ rest.head? = some ('\n' : CodePoint)) := by
          rintro ⟨hreturn, hhead⟩
          obtain ⟨more, rfl⟩ := List.head?_eq_some_iff.1 hhead
          exact hpair ⟨hreturn, rfl⟩
        rw [lines_cons_of_endsLine hc hpair, lines_cons_of_endsLine hc alone, ih]
        rfl

end SourceAtlas.Text
