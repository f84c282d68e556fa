import SourceAtlas.Source.Module

/-!
Rows. Tokens are read from a source whose line ends are unified, so that a row ends with a line feed, with a carriage
return, or with both. A stretch of a source goes over several rows exactly if one of these characters is in its text.

Main statement: `spansRows_iff`.
-/

namespace SourceAtlas.Source

/-- The row of a place, counted from nought: so many line ends are before it. -/
def rowOf (source : Text) (place : Nat) : Nat := ((Text.unifyLineEnds source).take place).count ('\n' : CodePoint)

/-- A stretch begins in one row and stops in a later one. -/
def SpansRows (source : Text) (span : Span) : Prop := rowOf source span.start < rowOf source span.stop

instance (source : Text) (span : Span) : Decidable (SpansRows source span) := by unfold SpansRows; infer_instance

/-! ## Items -/

/-- The character that an item becomes when line ends are unified. -/
def unified (item : Text) : CodePoint := if ('\r' : CodePoint) ∈ item then '\n' else item.headD '\n'

theorem unifyLineEnds_eq_map (t : Text) : Text.unifyLineEnds t = (items t).map unified := by
  fun_induction items t with
  | case1 => rfl
  | case2 c => simp [Text.unifyLineEnds, unified, eq_comm]
  | case3 c d rest hends ih =>
    obtain ⟨rfl, rfl⟩ : c = '\r' ∧ d = '\n' := by simpa using hends
    rw [Text.unifyLineEnds, if_pos rfl, if_pos rfl, ih]
    rfl
  | case4 c d rest hends ih =>
    rw [List.map_cons, ← ih, Text.unifyLineEnds]
    by_cases hc : c = '\r'
    · simp_all [unified]
    · simp [hc, unified, Ne.symm hc]

/-- An item is one character, or a carriage return with the line feed behind it. -/
theorem eq_of_mem_items {t item : Text} (h : item ∈ items t) :
    item = [('\r' : CodePoint), ('\n' : CodePoint)] ∨ ∃ c, item = [c] := by
  fun_induction items t with
  | case1 => cases h
  | case2 c => exact .inr ⟨c, List.mem_singleton.1 h⟩
  | case3 c d rest hends ih =>
    obtain ⟨rfl, rfl⟩ : c = '\r' ∧ d = '\n' := by simpa using hends
    exact (List.mem_cons.1 h).elim .inl ih
  | case4 c d rest hends ih => exact (List.mem_cons.1 h).elim (fun heq => .inr ⟨c, heq⟩) ih

/-- The items that become line feeds are those with a carriage return or a line feed in them. -/
theorem unified_eq_feed_iff {t item : Text} (h : item ∈ items t) :
    unified item = '\n' ↔ ('\r' : CodePoint) ∈ item ∨ ('\n' : CodePoint) ∈ item := by
  rcases eq_of_mem_items h with rfl | ⟨c, rfl⟩
  · decide
  · by_cases hc : ('\r' : CodePoint) = c
    · simp [unified, hc]
    · simp [unified, hc, eq_comm]

/-! ## Spans -/

/-- Between two places there is a line end if it is in the text between them. -/
theorem feed_mem_iff {source : Text} {span : Span} :
    ('\n' : CodePoint) ∈ ((Text.unifyLineEnds source).drop span.start).take (span.stop - span.start)
      ↔ ('\r' : CodePoint) ∈ slice source span ∨ ('\n' : CodePoint) ∈ slice source span := by
  have item : ∀ x ∈ ((items source).drop span.start).take (span.stop - span.start),
      (unified x = '\n' ↔ ('\r' : CodePoint) ∈ x ∨ ('\n' : CodePoint) ∈ x) := fun x hx =>
    unified_eq_feed_iff (List.mem_of_mem_drop (List.mem_of_mem_take hx))
  rw [unifyLineEnds_eq_map, ← List.map_drop, ← List.map_take, List.mem_map, slice, List.mem_flatten, List.mem_flatten,
    ← exists_or]
  refine exists_congr fun x => ?_
  rw [← and_or_left]
  exact and_congr_right (item x)

/-- A stretch goes over several rows exactly if there is a carriage return or a line feed in its text. -/
theorem spansRows_iff {source : Text} {span : Span} (h : span.start ≤ span.stop) :
    SpansRows source span ↔ ('\r' : CodePoint) ∈ slice source span ∨ ('\n' : CodePoint) ∈ slice source span := by
  have stop : span.stop = span.start + (span.stop - span.start) := by omega
  have grows : rowOf source span.stop = rowOf source span.start
      + (((Text.unifyLineEnds source).drop span.start).take (span.stop - span.start)).count ('\n' : CodePoint) := by
    rw [rowOf, stop, List.take_add, List.count_append, ← stop]
    rfl
  rw [SpansRows, grows, Nat.lt_add_right_iff_pos, List.count_pos_iff, feed_mem_iff]

end SourceAtlas.Source
