import SourceAtlas.Chunk
import SourceAtlas.Policy
import SourceAtlas.Path
import SourceAtlas.Source.Module
import SourceAtlas.Source.Documentation

/-!
Entities: the imports, classes, functions and methods of a source, outer ones before inner ones. Compound
statements are passed through: what they hold stands at their own depth.
-/

namespace SourceAtlas

open Source

/-- The kinds of entities. A function whose innermost surrounding definition is a class is a method. -/
inductive EntityKind where
  | importing
  | importingFrom
  | classKind
  | function
  | method
deriving DecidableEq, Repr

/-- The name of a kind, as chunks show it. -/
def EntityKind.name : EntityKind → Text
  | .importing => "import"
  | .importingFrom => "import_from"
  | .classKind => "class"
  | .function => "function"
  | .method => "method"

/-- An entity: its kind, its place in the source, its documentation and the names around it. -/
structure Entity where
  kind : EntityKind
  span : Span
  docs : Option Text
  parents : List Text
deriving DecidableEq, Repr

namespace Entity

/-- Where statements stand: the names around them, and whether the innermost is that of a class. -/
structure Surroundings where
  parents : List Text
  inClass : Bool

/-- The top level of a source. -/
def Surroundings.top : Surroundings := ⟨[], false⟩

/-- The surroundings of the body of a definition. -/
def Surroundings.within (s : Surroundings) (form : Definition) (name : Text) : Surroundings :=
  ⟨s.parents ++ [name], form = .classDefinition⟩

/-- The kind of a definition by where it stands. -/
def kindOf (s : Surroundings) : Definition → EntityKind
  | .classDefinition => .classKind
  | .functionDefinition => if s.inClass then .method else .function

/-- The documentation of a definition: the string that its body starts with. -/
def docsOf : List Statement → Option Text
  | .textual value :: _ => some (Documentation.tidy value)
  | _ => none

/-- The chunk of an entity. -/
def toChunk (source : Text) (e : Entity) : Chunk :=
  .ofEntity (slice source e.span) e.kind.name e.docs e.parents

end Entity

/-! ## Extraction -/

namespace Extraction

open Entity

/-- Puts out the chunk of an entity, unless the policy leaves entities of its kind out or there is no text at its
place. -/
def emit (policy : Policy) (source : Text) (e : Entity) : List Chunk :=
  if !policy.includes e.kind.name || (slice source e.span).isEmpty then [] else [e.toChunk source]

mutual

/-- The chunks of a statement. -/
def ofStatement (policy : Policy) (source : Text) (s : Surroundings) : Statement → List Chunk
  | .imports fromModule span =>
    emit policy source ⟨if fromModule then .importingFrom else .importing, span, none, s.parents⟩
  | .definition form name span body =>
    emit policy source ⟨kindOf s form, span, docsOf body, s.parents⟩
      ++ ofStatements policy source (s.within form name) body
  | .compound body orElse finally_ handlers cases =>
    ofStatements policy source s body ++ ofStatements policy source s orElse
      ++ ofStatements policy source s finally_ ++ ofBlocks policy source s handlers
      ++ ofBlocks policy source s cases
  | .textual _ => []
  | .other => []

/-- The chunks of statements, in their order. -/
def ofStatements (policy : Policy) (source : Text) (s : Surroundings) : List Statement → List Chunk
  | [] => []
  | statement :: rest => ofStatement policy source s statement ++ ofStatements policy source s rest

/-- The chunks of several blocks, in their order. -/
def ofBlocks (policy : Policy) (source : Text) (s : Surroundings) : List (List Statement) → List Chunk
  | [] => []
  | block :: rest => ofStatements policy source s block ++ ofBlocks policy source s rest

end

end Extraction

/-- The suffixes of the files that are read. -/
def readSuffixes : List Text := [".py", ".pyi"]

/-- Is a file of this path read? The case of its suffix does not matter; a path with a null character
names no file. -/
def isRead (path : Path) : Bool :=
  readSuffixes.contains (Unicode.lowerText path.suffix) && !path.hasNull

/-- The chunks of a file, by its path, its content and what is to be kept. A source with an error has none. -/
def extract (policy : Policy) (path : Path) (source : Text) : List Chunk :=
  if isRead path then
    match parse? source with
    | some statements => Extraction.ofStatements policy source .top statements
    | none => []
  else []

end SourceAtlas
