import SourceAtlas.Unicode.Decimal

/-!
Whole numbers as users write them: blanks around, a sign, decimal digits of any script, single underscores
between digits.
-/

namespace SourceAtlas.Text

/-- No numeral may have more digits than this. -/
def maxDigits : Nat := 4300

/-- The blanks around a numeral. A text in ASCII alone has the six usual ones, any other text every blank. -/
def isNumeralBlank (asciiOnly : Bool) (c : CodePoint) : Bool :=
  if asciiOnly then (9 ≤ c.val && c.val ≤ 13) || c = ' ' else Unicode.isBlank c

/-- Reads digits up to the end. `afterDigit` allows an underscore, `count` is the number of digits read. -/
def readDigits (value count : Nat) (afterDigit : Bool) : Text → Option (Nat × Nat)
  | [] => if afterDigit then some (value, count) else none
  | c :: cs =>
    if c = '_' then if afterDigit then readDigits value count false cs else none
    else match Unicode.digitValue? c with
      | some d => readDigits (10 * value + d) (count + 1) true cs
      | none => none

/-- The whole number that a text spells, if it spells one. -/
def readInt? (t : Text) : Option Int :=
  let body := trim (isNumeralBlank (t.all CodePoint.isAscii)) t
  let (negative, digits) := match body with
    | c :: rest => if c = '-' then (true, rest) else if c = '+' then (false, rest) else (false, body)
    | [] => (false, [])
  match readDigits 0 0 false digits with
  | some (value, count) =>
    if count > maxDigits then none else some (if negative then -(value : Int) else value)
  | none => none

end SourceAtlas.Text
