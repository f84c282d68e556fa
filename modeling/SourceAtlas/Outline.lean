import SourceAtlas.Chunk
import SourceAtlas.Regex.Reader
import SourceAtlas.Regex.Matcher

/-!
Outlines: what an analysis found, as lines of text. Each file becomes a blank line, a header and one line
per entity, indented by its depth; the full form adds documentation and a marker for entities of several
lines. A query keeps the entities whose content or documentation it finds.
-/

namespace SourceAtlas

/-- The chunks found, by file, in the order of discovery. -/
abbrev Findings := List (Text × List Chunk)

/-- How findings are shown: which entities, and whether only their first lines. -/
structure Outline where
  query : Option Regex
  compress : Bool

namespace Outline

/-- A chunk that cannot be shown: a value that is searched or split into lines is no text. -/
inductive Fault where
  | notSearchable (kind : Text)
  | notSplittable (kind : Text)
deriving DecidableEq, Repr

/-- The wording of a fault. -/
def Fault.message : Fault → Text
  | .notSearchable kind => "expected string or bytes-like object, got '" ++ kind ++ "'"
  | .notSplittable kind => "'" ++ kind ++ "' object has no attribute 'split'"

/-- The outline of a query as it was asked for; an empty query asks for nothing. -/
def ofQuery (query : Option Text) (ignoreCase compress : Bool) : Except Regex.Fault Outline :=
  match query with
  | none => .ok ⟨none, compress⟩
  | some q =>
    if q.isEmpty then .ok ⟨none, compress⟩
    else (Regex.read ignoreCase q).map fun r => ⟨some r, compress⟩

/-! ## Selection -/

/-- Is an expression found in a value? -/
def found (r : Regex) : Json → Except Fault Bool
  | .string t => .ok (r.occursIn t)
  | v => .error (.notSearchable v.kindName)

/-- Does the outline show a chunk? The documentation is searched only if the content does not match. -/
def selects (o : Outline) (c : Chunk) : Except Fault Bool :=
  match o.query with
  | none => .ok true
  | some r => do
    if ← found r c.content then return true
    else if c.docs.isBlank then return false
    else found r c.docs

/-- The chunks of a list that the outline shows. -/
def selected (o : Outline) : List Chunk → Except Fault (List Chunk)
  | [] => .ok []
  | c :: rest => do
    let keep ← o.selects c
    let more ← selected o rest
    return if keep then c :: more else more

/-! ## Lines -/

/-- What every line below a header begins with. -/
def bar : Text := "|"

/-- The indentation of an entity: two blanks for each one around it. -/
def indentation (depth : Nat) : Text := Text.times depth "  "

/-- The lines of a value. -/
def linesOf : Json → Except Fault (List Text)
  | .string t => .ok (Text.split '\n' t)
  | v => .error (.notSplittable v.kindName)

/-- The lines of documentation. The first is indented like its entity, the others are kept as they are. -/
def docLines (indent : Text) : List Text → List Text
  | [] => []
  | first :: rest => (bar ++ indent ++ first) :: rest.map (bar ++ ·)

/-- The lines of one chunk. -/
def chunkLines (o : Outline) (c : Chunk) : Except Fault (List Text) := do
  let indent := indentation c.depth
  let content ← linesOf c.content
  let docs ← if o.compress || c.docs.isBlank then pure [] else linesOf c.docs
  let marker := if !o.compress && 1 < content.length then [bar ++ indent ++ "..."] else []
  return docLines indent docs ++ (bar ++ indent ++ content.headD []) :: marker

/-- The lines of several chunks. -/
def chunksLines (o : Outline) : List Chunk → Except Fault (List Text)
  | [] => .ok []
  | c :: rest => do
    let lines ← o.chunkLines c
    let more ← chunksLines o rest
    return lines ++ more

/-- The lines of one file; a file without chunks to show has none. -/
def fileLines (o : Outline) (file : Text × List Chunk) : Except Fault (List Text) := do
  let chunks ← o.selected file.2
  if chunks.isEmpty then return []
  else
    let lines ← o.chunksLines chunks
    let header : List Text := [[], file.1 ++ ":"]
    return header ++ (if o.compress then [] else [bar ++ "..."]) ++ lines

/-- The lines of all files, up to the first chunk that cannot be shown. -/
def lines (o : Outline) : Findings → Except Fault (List Text)
  | [] => .ok []
  | file :: rest => do
    let these ← o.fileLines file
    let more ← lines o rest
    return these ++ more

/-- The outline as one text. -/
def render (o : Outline) (findings : Findings) : Except Fault Text :=
  (o.lines findings).map (Text.join ['\n'])

end Outline

end SourceAtlas
