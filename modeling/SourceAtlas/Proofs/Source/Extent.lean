import Mathlib.Order.Monotone.Basic
import SourceAtlas.Source.Tree

/-!
Places in a source: what lies between two places, and what lies there one after the other.

Main statements: `InTurn.of_getElem?`, `InTurn.exists_between`.
-/

namespace SourceAtlas.Source

/-! ## Spans -/

namespace Span

/-- A span lies between two places and holds at least the two characters of the shortest keyword. -/
def Within (lo hi : Nat) (span : Span) : Prop := lo ≤ span.start ∧ span.start + 1 < span.stop ∧ span.stop ≤ hi

/-- A span holds another one and starts before it. -/
def Encloses (outer inner : Span) : Prop := outer.start < inner.start ∧ inner.stop ≤ outer.stop

/-- Two spans have nothing in common. -/
def Apart (s t : Span) : Prop := s.stop ≤ t.start ∨ t.stop ≤ s.start

/-- A span within a stretch is within every larger one. -/
theorem Within.mono {lo hi lo' hi' : Nat} {span : Span} (h : span.Within lo hi) (hlo : lo' ≤ lo) (hhi : hi ≤ hi') :
    span.Within lo' hi' := by
  unfold Within at *
  omega

end Span

/-! ## Items in turn -/

section

variable {α : Type} {lies : Nat → Nat → α → Prop} {lo hi : Nat} {items : List α} {x y : α}

/-- Items lie between two places one after the other. -/
def InTurn (lies : Nat → Nat → α → Prop) (lo hi : Nat) : List α → Prop
  | [] => lo ≤ hi
  | x :: rest => ∃ mid, lies lo mid x ∧ InTurn lies mid hi rest

/-- To lie between two places is to lie between wider ones too, and the places are in order. -/
structure IsExtent (lies : Nat → Nat → α → Prop) : Prop where
  mono : ∀ {lo hi lo' hi' x}, lies lo hi x → lo' ≤ lo → hi ≤ hi' → lies lo' hi' x
  le : ∀ {lo hi x}, lies lo hi x → lo ≤ hi

/-- Things in turn end no sooner than they start. -/
theorem InTurn.le (hlies : IsExtent lies) (h : InTurn lies lo hi items) : lo ≤ hi := by
  induction items generalizing lo with
  | nil => exact h
  | cons x rest ih =>
    obtain ⟨mid, hx, hrest⟩ := h
    exact (hlies.le hx).trans (ih hrest)

/-- They lie in turn in every larger stretch. -/
theorem InTurn.mono {lo' hi' : Nat} (hlies : IsExtent lies) (h : InTurn lies lo hi items) (hlo : lo' ≤ lo)
    (hhi : hi ≤ hi') : InTurn lies lo' hi' items := by
  induction items generalizing lo lo' with
  | nil => exact hlo.trans (le_trans h hhi)
  | cons x rest ih =>
    obtain ⟨mid, hx, hrest⟩ := h
    exact ⟨mid, hlies.mono hx hlo le_rfl, ih hrest le_rfl⟩

/-- Things in turn may be followed by others. -/
theorem InTurn.append {mid : Nat} {more : List α} (hlies : IsExtent lies) (h : InTurn lies lo mid items)
    (hmore : InTurn lies mid hi more) : InTurn lies lo hi (items ++ more) := by
  induction items generalizing lo with
  | nil => exact hmore.mono hlies h le_rfl
  | cons x rest ih =>
    obtain ⟨next, hx, hrest⟩ := h
    exact ⟨next, hx, ih hrest⟩

/-- Each of them lies in the stretch of all. -/
theorem InTurn.of_getElem? (hlies : IsExtent lies) (h : InTurn lies lo hi items) {i : Nat}
    (hx : items[i]? = some x) : lies lo hi x := by
  induction items generalizing lo i with
  | nil => simp at hx
  | cons first rest ih =>
    obtain ⟨mid, hfirst, hrest⟩ := h
    cases i with
    | zero =>
      obtain rfl : first = x := by simpa using hx
      exact hlies.mono hfirst le_rfl (hrest.le hlies)
    | succ i => exact hlies.mono (ih hrest (by simpa using hx)) (hlies.le hfirst) le_rfl

/-- Of two items the one with the smaller index lies before the other. -/
theorem InTurn.exists_between (hlies : IsExtent lies) (h : InTurn lies lo hi items) {i j : Nat}
    (hx : items[i]? = some x) (hy : items[j]? = some y) (hij : i < j) : ∃ mid, lies lo mid x ∧ lies mid hi y := by
  induction items generalizing lo i j with
  | nil => simp at hx
  | cons first rest ih =>
    obtain ⟨mid, hfirst, hrest⟩ := h
    obtain ⟨j, rfl⟩ := Nat.exists_eq_add_one_of_ne_zero (by omega : j ≠ 0)
    cases i with
    | zero =>
      obtain rfl : first = x := by simpa using hx
      exact ⟨mid, hfirst, hrest.of_getElem? hlies (by simpa using hy)⟩
    | succ i =>
      obtain ⟨between, hx, hy⟩ := ih hrest (by simpa using hx) (by simpa using hy) (by omega)
      exact ⟨between, hlies.mono hx (hlies.le hfirst) le_rfl, hy⟩

end

end SourceAtlas.Source
