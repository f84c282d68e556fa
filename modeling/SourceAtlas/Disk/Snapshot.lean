import SourceAtlas.Disk.Basic
import SourceAtlas.Json.Basic

/-!
Disks as JSON. An object with one member stands for each thing on a disk: the bytes of a file in
hexadecimal digits, the entries of a directory, the target of a link, or the rows of a cache database.
-/

namespace SourceAtlas.Disk

/-! ## Writing -/

/-- The digits of bytes. -/
def hexOfBytes (bytes : Bytes) : Text := bytes.flatMap fun b => Text.hex 2 b.toNat

/-- The row of a table as JSON. -/
def rowToJson (row : Row) : Json := .array [.string row.key, .string row.fingerprint, .string row.payload]

mutual

/-- A disk as JSON. -/
def toJson : Node → Json
  | .file content => .object [("file", .string (hexOfBytes content))]
  | .directory entries => .object [("directory", .object (entriesToJson entries))]
  | .link target => .object [("link", .string target)]
  | .database table => .object [("database", .array (table.rows.map rowToJson))]
  | .special => .object [("special", .null)]

/-- The entries of a directory as members of an object. -/
def entriesToJson : List (Text × Node) → List (Text × Json)
  | [] => []
  | (name, node) :: rest => (name, toJson node) :: entriesToJson rest

end

/-! ## Reading -/

/-- The bytes that digits spell. -/
def bytesOfHex : Text → Bytes
  | a :: b :: rest => UInt8.ofNat (16 * (a.digit? 16).getD 0 + (b.digit? 16).getD 0) :: bytesOfHex rest
  | _ => []

/-- Puts a row of JSON into a table. -/
def insertJson (table : Store) : Json → Store
  | .array [.string key, .string fingerprint, .string payload] => table.insert ⟨key, fingerprint, payload⟩
  | _ => table

mutual

/-- The disk of a JSON value; what is of no known kind is special. -/
def ofJson : Json → Node
  | .object [(kind, v)] =>
    if kind = ("file" : Text) then
      match v with
      | .string digits => .file (bytesOfHex digits)
      | _ => .special
    else if kind = ("directory" : Text) then
      match v with
      | .object members => .directory (entriesOfJson members)
      | _ => .special
    else if kind = ("link" : Text) then
      match v with
      | .string target => .link target
      | _ => .special
    else if kind = ("database" : Text) then
      match v with
      | .array rows => .database (rows.foldl insertJson .empty)
      | _ => .special
    else .special
  | _ => .special

/-- The entries of the members of an object. -/
def entriesOfJson : List (Text × Json) → List (Text × Node)
  | [] => []
  | (name, v) :: rest => (name, ofJson v) :: entriesOfJson rest

end

end SourceAtlas.Disk
