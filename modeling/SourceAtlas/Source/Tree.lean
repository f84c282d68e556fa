import SourceAtlas.Text.Basic

/-!
Syntax trees as far as outlines need them: imports, classes and functions with their places in the source,
statements that consist of one string, and the blocks of every other compound statement.
-/

namespace SourceAtlas.Source

/-- A stretch of source, from one place up to another, counted in characters with every line end as one. -/
structure Span where
  start : Nat
  stop : Nat
deriving DecidableEq, Repr

/-- Definitions are classes or functions. -/
inductive Definition where
  | classDefinition
  | functionDefinition
deriving DecidableEq, Repr

/-- A statement. The parts of a compound statement are its body, what follows an `else`, what follows a
`finally`, its handlers and its cases; `elif` stands for a compound statement in the `else` part. -/
inductive Statement where
  | imports (fromModule : Bool) (span : Span)
  | definition (form : Definition) (name : Text) (span : Span) (body : List Statement)
  | compound (body orElse finally_ : List Statement) (handlers cases : List (List Statement))
  | textual (value : Text)
  | other
deriving Repr

end SourceAtlas.Source
