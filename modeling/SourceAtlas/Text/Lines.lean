import SourceAtlas.Text.Basic

/-!
Line ends. Source text ends its lines with a line feed, a carriage return or both; a list of rules is cut
at more characters than these.
-/

namespace SourceAtlas.Text

/-- Every carriage return, with the line feed after it if there is one, becomes a line feed. -/
def unifyLineEnds : Text → Text
  | [] => []
  | [c] => [if c = '\r' then '\n' else c]
  | c :: d :: rest =>
    if c = '\r' then
      if d = '\n' then '\n' :: unifyLineEnds rest else '\n' :: unifyLineEnds (d :: rest)
    else c :: unifyLineEnds (d :: rest)

/-- The characters that end a line of a list of rules. -/
def endsLine (c : CodePoint) : Bool :=
  (10 ≤ c.val && c.val ≤ 13) || (28 ≤ c.val && c.val ≤ 30) || c.val = 0x85 || c.val = 0x2028
    || c.val = 0x2029

/-- The lines of a text without their ends. A carriage return and the line feed after it end one line, and
an end that is the last character begins no further line. -/
def lines : Text → List Text
  | [] => []
  | [c] => if endsLine c then [[]] else [[c]]
  | c :: d :: rest =>
    if c = '\r' && d = '\n' then [] :: lines rest
    else if endsLine c then [] :: lines (d :: rest)
    else match lines (d :: rest) with
      | [] => [[c]]
      | line :: more => (c :: line) :: more

end SourceAtlas.Text
