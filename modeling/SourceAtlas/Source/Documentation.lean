import SourceAtlas.Unicode.Basic

/-!
Documentation strings and their layout: tabs are expanded, and all lines but the first lose the blanks
that they have in common.
-/

namespace SourceAtlas.Source.Documentation

/-- A tab goes to the next of these columns. -/
def tabWidth : Nat := 8

/-- The text with blanks for tabs, from a column on. -/
def expandTabs (column : Nat) : Text → Text
  | [] => []
  | c :: cs =>
    if c = '\t' then
      let width := tabWidth - column % tabWidth
      Text.times width " " ++ expandTabs (column + width) cs
    else if c = '\n' || c = '\r' then c :: expandTabs 0 cs
    else c :: expandTabs (column + 1) cs

/-- How many blanks a line starts with; a line of nothing but blanks does not count. -/
def indentation? (line : Text) : Option Nat :=
  let content := line.dropWhile Unicode.isBlank
  if content.isEmpty then none else some (line.length - content.length)

/-- The least of the numbers. -/
def least? : List Nat → Option Nat
  | [] => none
  | n :: rest => match least? rest with
    | none => some n
    | some m => some (min n m)

/-- The lines without the empty ones at either end. -/
def withoutEmptyEnds (lines : List Text) : List Text :=
  ((lines.reverse.dropWhile List.isEmpty).reverse).dropWhile List.isEmpty

/-- Documentation as it is shown. -/
def tidy (t : Text) : Text :=
  match Text.split '\n' (expandTabs 0 t) with
  | [] => []
  | first :: rest =>
    let margin := (least? (rest.filterMap indentation?)).getD 0
    Text.join "\n" (withoutEmptyEnds (first.dropWhile Unicode.isBlank :: rest.map (List.drop margin)))

end SourceAtlas.Source.Documentation
