import SourceAtlas.Text.Basic

/-!
Sets of code points given by their runs.
-/

namespace SourceAtlas.Unicode

/-- The first and last code points of the maximal runs of a set, in ascending order. -/
abbrev Runs := List (Nat × Nat)

/-- Does `n` lie in one of the runs? -/
def Runs.has (n : Nat) : Runs → Bool
  | [] => false
  | (first, last) :: rest => if n < first then false else if n ≤ last then true else Runs.has n rest

/-- The white space of every script and the control characters that separate. -/
def blankRuns : Runs := [
  (0x0085, 0x0085), (0x00A0, 0x00A0), (0x1680, 0x1680), (0x2000, 0x200A), (0x2028, 0x2029),
  (0x202F, 0x202F), (0x205F, 0x205F), (0x3000, 0x3000)]

/-- White space, the information separators U+001C to U+001F included. -/
def isBlank (c : CodePoint) : Bool :=
  if c.val < 128 then (9 ≤ c.val && c.val ≤ 13) || (28 ≤ c.val && c.val ≤ 32) else Runs.has c.val blankRuns

end SourceAtlas.Unicode
