import SourceAtlas.Unicode.Word
import SourceAtlas.Unicode.Decimal
import SourceAtlas.Unicode.Case

/-!
Regular expressions with captures, look-around, lazy and possessive repetition and conditionals, and the
sets of characters they are made of.
-/

namespace SourceAtlas

namespace Regex

/-! ## Characters -/

/-- How much of case a part of a pattern ignores. -/
inductive Folding where
  | exact
  | ascii
  | unicode
deriving DecidableEq, Repr

/-- The named classes of characters. -/
inductive Kind where
  | digit
  | space
  | word
deriving DecidableEq, Repr

/-- One item of a set. -/
inductive Item where
  | one (c : CodePoint)
  | range (low high : CodePoint)
  | kind (k : Kind) (ascii negated : Bool)
deriving DecidableEq, Repr

/-- A set of characters: those that match one of the items, or all others. -/
structure CharSet where
  negated : Bool
  items : List Item
  folding : Folding
deriving DecidableEq, Repr

/-- Is a character of a class? The narrow classes hold ASCII alone. -/
def Kind.has (ascii : Bool) (c : CodePoint) : Kind → Bool
  | .digit => if ascii then c.isAsciiDigit else Unicode.isDecimal c
  | .space => if ascii then c = ' ' || (9 ≤ c.val && c.val ≤ 13) else Unicode.isBlank c
  | .word => if ascii then c.isAsciiAlnum || c = '_' else Unicode.isWord c

/-- The form in which characters are compared. -/
def Folding.fold (c : CodePoint) : Folding → CodePoint
  | .exact => c
  | .ascii => c.asciiLower
  | .unicode => Unicode.lower c

/-- The folded forms that match a folded character: itself and those that share its upper-case form. -/
def Folding.alike (c : CodePoint) : Folding → List CodePoint
  | .unicode => c :: Unicode.twins c
  | _ => [c]

/-- The characters that fold to a given one. -/
def Folding.sources (c : CodePoint) (f : Folding) : List CodePoint :=
  match f with
  | .exact => [c]
  | .ascii => c :: (if 97 ≤ c.val && c.val ≤ 122 then [CodePoint.ofNat (c.val - 32)] else [])
  | .unicode => c :: Unicode.raised c

/-- Does a character match another one that stands in a pattern? -/
def Folding.agrees (f : Folding) (pattern c : CodePoint) : Bool :=
  (f.alike (f.fold pattern)).contains (f.fold c)

/-- Is a folded character among the items? -/
def Item.has (f : Folding) (c : CodePoint) : Item → Bool
  | .one d => f.agrees d c
  | .range low high => ((f.alike c).flatMap f.sources).any fun d => low ≤ d && d ≤ high && f.agrees d c
  | .kind k ascii negated => k.has ascii c != negated

/-- Does a set hold a character? -/
def CharSet.has (s : CharSet) (c : CodePoint) : Bool :=
  (s.items.any fun item => item.has s.folding (s.folding.fold c)) != s.negated

/-! ## Expressions -/

/-- The positions that match without taking a character. -/
inductive Anchor where
  | textStart
  | lineStart
  | textEnd
  | lastLineEnd
  | lineEnd
  | wordEdge (ascii negated : Bool)
deriving DecidableEq, Repr

/-- What a repetition tries first, and whether it ever gives back what it took. -/
inductive Greed where
  | greedy
  | lazy
  | possessive
deriving DecidableEq, Repr

end Regex

/-- A regular expression. Groups are numbered from 1. A look-behind has the least and the most characters that its body
can take. -/
inductive Regex where
  | fail
  | empty
  | char (c : CodePoint) (folding : Regex.Folding)
  | set (s : Regex.CharSet)
  | any (newlines : Bool)
  | anchor (a : Regex.Anchor)
  | seq (first second : Regex)
  | alt (first second : Regex)
  | group (index : Nat) (body : Regex)
  | same (index : Nat) (folding : Regex.Folding)
  | many (least : Nat) (most : Option Nat) (greed : Regex.Greed) (body : Regex)
  | ahead (negated : Bool) (body : Regex)
  | behind (negated : Bool) (least most : Nat) (body : Regex)
  | atomic (body : Regex)
  | whether (index : Nat) (yes no : Regex)
deriving DecidableEq, Repr

namespace Regex

/-- One expression after the other. -/
def sequence : List Regex → Regex
  | [] => .empty
  | [r] => r
  | r :: rs => .seq r (sequence rs)

/-- One of several expressions, the first that leads to a match. -/
def choice : List Regex → Regex
  | [] => .fail
  | [r] => r
  | r :: rs => .alt r (choice rs)

/-- The characters of a text, one after the other. -/
def literal (t : Text) : Regex := sequence (t.map fun c => .char c .exact)

end Regex

end SourceAtlas
