import SourceAtlas.Unicode.Printable

/-!
Quoted texts, as messages show them. Single quotes are used unless the text holds one and no double quote;
the quote, the backslash and everything that does not print is escaped.
-/

namespace SourceAtlas.Text

/-- One character of a quoted text. -/
def quoteOne (mark c : CodePoint) : Text :=
  if c = mark || c = '\\' then ['\\', c]
  else if c = '\n' then "\\n"
  else if c = '\r' then "\\r"
  else if c = '\t' then "\\t"
  else if Unicode.isPrintable c then [c]
  else if c.val < 0x100 then "\\x" ++ hex 2 c.val
  else if c.val < 0x10000 then "\\u" ++ hex 4 c.val
  else "\\U" ++ hex 8 c.val

/-- The mark that a text is quoted with. -/
def quoteMark (t : Text) : CodePoint :=
  if t.contains '\'' && !t.contains '"' then '"' else '\''

/-- The text in quotes. -/
def quoted (t : Text) : Text :=
  let mark := quoteMark t
  mark :: (t.flatMap (quoteOne mark) ++ [mark])

end SourceAtlas.Text
