import SourceAtlas.Command.Run
import SourceAtlas.Disk.Snapshot
import SourceAtlas.Json.Reader
import SourceAtlas.Json.Writer

/-!
The command line. The arguments are those of the program; the world it runs in is read from standard input
as one line of JSON with the members `disk`, `current`, `environment` and `users`. The answer is one line of JSON:
the disk afterwards, and either the exit status with both outputs or the words for what ended the run.
-/

namespace SourceAtlas.Command

/-- The value of a member of an object. -/
def memberOf (name : Text) : Json → Json
  | .object members => (Json.member? name members).getD .null
  | _ => .null

/-- The text of a string, empty for anything else. -/
def textOf : Json → Text
  | .string t => t
  | _ => []

/-- The texts in the members of an object. -/
def textsOf : Json → List (Text × Text)
  | .object members => members.map fun m => (m.1, textOf m.2)
  | _ => []

/-- The users in a JSON value. -/
def usersOf (v : Json) : Users where
  own := match memberOf "own" v with
    | .string t => some t
    | _ => none
  named := textsOf (memberOf "named" v)

/-- The world of a JSON value. -/
def worldOf (v : Json) : World where
  disk := Disk.ofJson (memberOf "disk" v)
  current := Path.ofText (textOf (memberOf "current" v))
  environment := ⟨textsOf (memberOf "environment" v), usersOf (memberOf "users" v)⟩

/-- What a run shows as JSON, without the disk. -/
def shown : Except Escape Report → List (Text × Json)
  | .ok r => [("status", .number (.int r.status)), ("out", .string r.out), ("err", .string r.err)]
  | .error e => [("escape", .string e.message)]

/-- The answer to a line that holds the world, for the arguments of the program. -/
def answer (arguments : List String) (line : Text) : Text :=
  match Json.read line with
  | .error fault => Json.write (.object [("unreadable", .string (fault.message line))])
  | .ok v =>
    let (disk, result) := run "0.0" (worldOf v) (arguments.map Text.ofString)
    Json.write (.object (("disk", Disk.toJson disk) :: shown result))

end SourceAtlas.Command

/-- Runs the program in the world that standard input holds. -/
def main (arguments : List String) : IO Unit := do
  let line ← (← IO.getStdin).getLine
  IO.println (SourceAtlas.Text.toString (SourceAtlas.Command.answer arguments (SourceAtlas.Text.ofString line)))
