import SourceAtlas.Json.Basic

/-!
Chunks: the entities of an outline, each with its source text, its kind, its documentation and the names
of the entities around it. Chunks travel as JSON objects and come back with whatever types those objects
have, so every field is a JSON value; `Chunk.WellTyped` says that they are what an extractor makes them.
-/

namespace SourceAtlas

/-- One entity. The parents are the names around it, outermost first. -/
structure Chunk where
  content : Json
  kind : Json
  docs : Json
  parents : List Json

namespace Chunk

/-- How many entities stand around this one. -/
def depth (c : Chunk) : Nat := c.parents.length

/-- The chunk of an entity that was read from source text. -/
def ofEntity (content kind : Text) (docs : Option Text) (parents : List Text) : Chunk :=
  ⟨.string content, .string kind, match docs with | some t => .string t | none => .null,
    parents.map .string⟩

/-- Is a value a string? -/
def isString : Json → Bool
  | .string _ => true
  | _ => false

/-- Is a value a string or nothing at all? -/
def isStringOrNull : Json → Bool
  | .string _ => true
  | .null => true
  | _ => false

/-- Content, kind and parents are strings, the documentation is one or is missing. -/
def WellTyped (c : Chunk) : Prop :=
  isString c.content = true ∧ isString c.kind = true ∧ isStringOrNull c.docs = true
    ∧ ∀ p ∈ c.parents, isString p = true

instance (c : Chunk) : Decidable c.WellTyped := by unfold WellTyped; infer_instance

/-! ## As JSON -/

/-- The JSON object of a chunk. -/
def toJson (c : Chunk) : Json :=
  .object [
    ("content", c.content),
    ("kind", c.kind),
    ("boundary", .object [("docs", c.docs), ("parent", .array c.parents)])]

/-- Why a JSON value is no chunk: it or its boundary is no object, it has no content, or its parents cannot
be listed. The text is the kind of the value at fault. -/
inductive Fault where
  | notAnObject (kind : Text)
  | noContent
  | parentsNotListed (kind : Text)
deriving DecidableEq, Repr

/-- The wording of a fault. -/
def Fault.message : Fault → Text
  | .notAnObject kind => "'" ++ kind ++ "' object has no attribute 'get'"
  | .noContent => "'content'"
  | .parentsNotListed kind => "'" ++ kind ++ "' object is not iterable"

/-- The members of the boundary of a chunk; a blank boundary has none. -/
def boundaryMembers (boundary : Json) : Except Fault (List (Text × Json)) :=
  if boundary.isBlank then .ok []
  else match boundary with
    | .object members => .ok members
    | other => .error (.notAnObject other.kindName)

/-- The items that a value lists: those of an array, the characters of a string, the names in an object.
A blank value lists nothing. -/
def listed (v : Json) : Except Fault (List Json) :=
  if v.isBlank then .ok []
  else match v with
    | .array items => .ok items
    | .string t => .ok (t.map fun c => .string [c])
    | .object members => .ok (members.map fun m => .string m.1)
    | other => .error (.parentsNotListed other.kindName)

/-- The chunk of a JSON value. Missing content is reported before a bad boundary, and that before parents
that cannot be listed. -/
def ofJson : Json → Except Fault Chunk
  | .object members =>
    match Json.member? "content" members with
    | none => .error .noContent
    | some content => do
      let boundary ← boundaryMembers ((Json.member? "boundary" members).getD .null)
      let parents ← listed ((Json.member? "parent" boundary).getD .null)
      return ⟨content, (Json.member? "kind" members).getD (.string []),
        (Json.member? "docs" boundary).getD .null, parents⟩
  | other => .error (.notAnObject other.kindName)

end Chunk

end SourceAtlas
