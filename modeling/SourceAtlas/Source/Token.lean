import SourceAtlas.Unicode.Identifier

/-!
Tokens of Python source: what the layout and the characters of a source amount to, each with the place
where it starts and the place where it stops, counted in characters once all line ends are single
characters.
-/

namespace SourceAtlas.Source

/-- A string literal: the marks before its quotes and what stands between them. -/
structure StringLiteral where
  raw : Bool
  bytes : Bool
  formatted : Bool
  body : Text
deriving DecidableEq, Repr

/-- What a token is. A name is kept as it is spelt. -/
inductive TokenKind where
  | name (t : Text)
  | keyword (t : Text)
  | mark (t : Text)
  | number (imaginary : Bool)
  | string (literal : StringLiteral)
  | newline
  | indent
  | dedent
  | finish
deriving DecidableEq, Repr

/-- A token and its place. -/
structure Token where
  kind : TokenKind
  start : Nat
  stop : Nat
deriving DecidableEq, Repr

/-- Does a token have text of its own, rather than stand for the end of a line or a change of depth? -/
def TokenKind.isSolid : TokenKind → Bool
  | .newline | .indent | .dedent | .finish => false
  | _ => true

/-! ## Names -/

/-- A character that a name may start with as far as its spelling goes; which characters beyond ASCII are
right is decided for the whole name. -/
def startsName (c : CodePoint) : Bool := c.isAsciiLetter || c = '_' || 128 ≤ c.val

/-- A character that a name may go on with. -/
def continuesName (c : CodePoint) : Bool := c.isAsciiAlnum || c = '_' || 128 ≤ c.val

/-- The words that are no names. -/
def keywords : List Text :=
  ["False", "None", "True", "and", "as", "assert", "async", "await", "break", "class", "continue", "def",
    "del", "elif", "else", "except", "finally", "for", "from", "global", "if", "import", "in", "is",
    "lambda", "nonlocal", "not", "or", "pass", "raise", "return", "try", "while", "with",
    "yield"].map Text.ofString

/-- The token of a word; a word with other than identifier characters is none. -/
def ofWord? (t : Text) : Option TokenKind :=
  if keywords.contains t then some (.keyword t)
  else if t.all CodePoint.isAscii || Unicode.isIdentifier t then some (.name t)
  else none

/-! ## Marks -/

/-- The operators and delimiters of three, two and one characters. -/
def marksOf : Nat → List Text
  | 3 => ["**=", "...", "//=", "<<=", ">>="].map Text.ofString
  | 2 => ["!=", "%=", "&=", "**", "*=", "+=", "-=", "->", "//", "/=", ":=", "<<", "<=", "==", ">=", ">>",
      "@=", "^=", "|="].map Text.ofString
  | 1 => ["%", "&", "(", ")", "*", "+", ",", "-", ".", "/", ":", ";", "<", "=", ">", "@", "[", "]", "^",
      "\x7b", "|", "\x7d", "~"].map Text.ofString
  | _ => []

/-- The longest mark at the start of a text. The two angle brackets that once meant inequality are none. -/
def mark? (t : Text) : Option Text :=
  if marksOf 3 |>.contains (t.take 3) then some (t.take 3)
  else if t.take 2 = "<>" then none
  else if marksOf 2 |>.contains (t.take 2) then some (t.take 2)
  else if marksOf 1 |>.contains (t.take 1) then some (t.take 1)
  else none

/-- The bracket that closes what a mark opens. -/
def closing? (mark : Text) : Option Text :=
  if mark = "(" then some ")"
  else if mark = "[" then some "]"
  else if mark = "\x7b" then some "\x7d"
  else none

/-- Is a mark a closing bracket? -/
def isClosing (mark : Text) : Bool := mark = ")" || mark = "]" || mark = "\x7d"

end SourceAtlas.Source
