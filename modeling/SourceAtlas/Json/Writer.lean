import SourceAtlas.Json.Basic

/-!
The written form of JSON values: ASCII alone, one blank after every comma and colon, control characters and
everything beyond ASCII escaped, code points beyond U+FFFF as a pair of surrogates.
-/

namespace SourceAtlas.Json

/-! ## Strings -/

/-- A `\u` escape of a number below 2^16. -/
def escapeUnit (n : Nat) : Text := "\\u" ++ Text.hex 4 n

/-- One character of a string. -/
def writeChar (c : CodePoint) : Text :=
  if c = '"' then "\\\""
  else if c = '\\' then "\\\\"
  else if c = '\n' then "\\n"
  else if c = '\r' then "\\r"
  else if c = '\t' then "\\t"
  else if c.val = 8 then "\\b"
  else if c.val = 12 then "\\f"
  else if 32 ≤ c.val && c.val < 127 then [c]
  else if c.val < 0x10000 then escapeUnit c.val
  else escapeUnit (0xD800 + (c.val - 0x10000) / 0x400) ++ escapeUnit (0xDC00 + (c.val - 0x10000) % 0x400)

/-- A string in quotes. -/
def writeString (t : Text) : Text := ('"' : CodePoint) :: (t.flatMap writeChar ++ "\"")

/-! ## Values -/

/-- A number. A decimal fraction is written with the digits and the power it was read with. -/
def writeNumber : Number → Text
  | .int n => Text.ofInt n
  | .decimal d =>
    (if d.negative then ("-" : Text) else []) ++ Text.ofNat d.digits ++ "e" ++ Text.ofInt d.exponent
  | .infinity negative => if negative then "-Infinity" else "Infinity"
  | .undefined => "NaN"

mutual

/-- A value. -/
def write : Json → Text
  | .null => "null"
  | .bool b => if b then "true" else "false"
  | .number n => writeNumber n
  | .string t => writeString t
  | .array items => ('[' : CodePoint) :: (writeItems items ++ "]")
  | .object members => ('\x7b' : CodePoint) :: (writeMembers members ++ "\x7d")

/-- Items with commas between them. -/
def writeItems : List Json → Text
  | [] => []
  | v :: rest => match rest with
    | [] => write v
    | _ :: _ => write v ++ ", " ++ writeItems rest

/-- Members with commas between them. -/
def writeMembers : List (Text × Json) → Text
  | [] => []
  | (k, v) :: rest => match rest with
    | [] => writeString k ++ ": " ++ write v
    | _ :: _ => writeString k ++ ": " ++ write v ++ ", " ++ writeMembers rest

end

end SourceAtlas.Json
