/-!
Rows of the table of names.
-/

namespace SourceAtlas.Unicode

/-- The names of consecutive code points from a first one on: what all of them begin with, and how each goes on, with
semicolons between. -/
abbrev NameRow := Nat × String × String

end SourceAtlas.Unicode
