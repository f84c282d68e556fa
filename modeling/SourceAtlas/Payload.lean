import SourceAtlas.Chunk
import SourceAtlas.Json.Reader
import SourceAtlas.Json.Writer

/-!
Payloads: lists of chunks as stored text.
-/

namespace SourceAtlas.Payload

/-- Why a stored text holds no list of chunks: it is no JSON, its value lists nothing, or one of the values
it lists is no chunk. -/
inductive Fault where
  | json (fault : Json.Fault)
  | notListed (kind : Text)
  | chunk (fault : Chunk.Fault)

/-- The wording of a fault in a stored text. -/
def Fault.message (source : Text) : Fault → Text
  | .json fault => fault.message source
  | .notListed kind => "'" ++ kind ++ "' object is not iterable"
  | .chunk fault => fault.message

/-- The stored text of a list of chunks. -/
def write (chunks : List Chunk) : Text := Json.write (.array (chunks.map Chunk.toJson))

/-- The values that the top level of a stored text lists. Names and characters are listed too, but are no
chunks. -/
def items : Json → Except Fault (List Json)
  | .array items => .ok items
  | .string t => .ok (t.map fun c => .string [c])
  | .object members => .ok (members.map fun m => .string m.1)
  | other => .error (.notListed other.kindName)

/-- The chunks of a list of values, up to the first that is none. -/
def chunks : List Json → Except Fault (List Chunk)
  | [] => .ok []
  | v :: rest =>
    match Chunk.ofJson v with
    | .error fault => .error (.chunk fault)
    | .ok c => (chunks rest).map (c :: ·)

/-- The chunks that a stored text holds. -/
def read (source : Text) : Except Fault (List Chunk) :=
  match Json.read source with
  | .error fault => .error (.json fault)
  | .ok v => items v >>= chunks

end SourceAtlas.Payload
