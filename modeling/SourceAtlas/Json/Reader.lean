import SourceAtlas.Json.Basic

/-!
Reading JSON. The reader is strict about control characters, commas and quotes and lenient in three
points: the words `NaN`, `Infinity` and `-Infinity` are numbers, the last of several members of one name
counts, and escapes may spell surrogates, of which a high one directly before a low one becomes one
supplementary character.
-/

namespace SourceAtlas.Json

/-! ## Faults -/

/-- What a text that is no JSON lacks or has too much of. -/
inductive Fault.Cause where
  | noValue
  | noName
  | noColon
  | noComma
  | unterminated
  | control
  | badEscape
  | badUnicodeEscape
  | extra
  | byteOrderMark
  | tooLong (digits : Nat)
deriving DecidableEq, Repr

/-- A fault and the index at which it is reported. -/
structure Fault where
  cause : Fault.Cause
  position : Nat
deriving DecidableEq, Repr

/-- The wording of a fault without its place. -/
def Fault.Cause.message : Fault.Cause → Text
  | .noValue => "Expecting value"
  | .noName => "Expecting property name enclosed in double quotes"
  | .noColon => "Expecting ':' delimiter"
  | .noComma => "Expecting ',' delimiter"
  | .unterminated => "Unterminated string starting at"
  | .control => "Invalid control character at"
  | .badEscape => "Invalid \\escape"
  | .badUnicodeEscape => "Invalid \\uXXXX escape"
  | .extra => "Extra data"
  | .byteOrderMark => "Unexpected UTF-8 BOM (decode using utf-8-sig)"
  | .tooLong digits => "Exceeds the limit (4300 digits) for integer string conversion: value has "
      ++ Text.ofNat digits ++ " digits; use sys.set_int_max_str_digits() to increase the limit"

/-- The wording of a fault in `source`, with line, column and index; the length of a numeral has no place. -/
def Fault.message (source : Text) (f : Fault) : Text :=
  match f.cause with
  | .tooLong _ => f.cause.message
  | _ =>
    let before := source.take f.position
    let column := (before.reverse.takeWhile fun c : CodePoint => c != '\n').length + 1
    f.cause.message ++ ": line " ++ Text.ofNat (before.count ('\n' : CodePoint) + 1) ++ " column " ++ Text.ofNat column
      ++ " (char " ++ Text.ofNat f.position ++ ")"

/-! ## Cursors -/

/-- What is left of a text, and the index at which it starts. -/
structure Cursor where
  position : Nat
  rest : Text

/-- The cursor `n` characters further on. -/
def Cursor.skip (n : Nat) (c : Cursor) : Cursor := ⟨c.position + n, c.rest.drop n⟩

/-- A fault at the cursor. -/
def Cursor.fault {α : Type} (cause : Fault.Cause) (c : Cursor) : Except Fault α := .error ⟨cause, c.position⟩

/-- The blanks that may stand between the parts of a value. -/
def isSpace (c : CodePoint) : Bool := c = ' ' || c = '\t' || c = '\n' || c = '\r'

/-- The cursor behind any blanks. -/
def Cursor.skipSpace (c : Cursor) : Cursor := c.skip (c.rest.takeWhile isSpace).length

/-! ## Strings -/

/-- What a one-letter escape stands for. -/
def unescape? (c : CodePoint) : Option CodePoint :=
  if c = '"' || c = '\\' || c = '/' then some c
  else if c = 'n' then some '\n'
  else if c = 'r' then some '\r'
  else if c = 't' then some '\t'
  else if c = 'b' then some (CodePoint.ofNat 8)
  else if c = 'f' then some (CodePoint.ofNat 12)
  else none

/-- The number that four hexadecimal digits spell. -/
def hexUnit? (a b c d : CodePoint) : Option Nat := do
  return (((← a.digit? 16) * 16 + (← b.digit? 16)) * 16 + (← c.digit? 16)) * 16 + (← d.digit? 16)

/-- Each high surrogate directly before a low one becomes, with it, one supplementary character. -/
def joinPairs : Text → Text
  | [] => []
  | [c] => [c]
  | c :: d :: rest =>
    if c.isHighSurrogate && d.isLowSurrogate then CodePoint.ofPair c d :: joinPairs rest
    else c :: joinPairs (d :: rest)

/-- Reads up to the closing quote. `start` is the index of the opening quote, `done` holds in reverse what
has been read. -/
def readChars (start position : Nat) (done : Text) : Text → Except Fault (Text × Cursor)
  | [] => .error ⟨.unterminated, start⟩
  | c :: rest =>
    if c = '"' then .ok (joinPairs done.reverse, ⟨position + 1, rest⟩)
    else if c.val < 32 then .error ⟨.control, position⟩
    else if c = '\\' then
      match rest with
      | [] => .error ⟨.unterminated, start⟩
      | e :: rest =>
        if e = 'u' then
          match rest with
          | h₁ :: h₂ :: h₃ :: h₄ :: next :: rest =>
            match hexUnit? h₁ h₂ h₃ h₄ with
            | some n => readChars start (position + 6) (CodePoint.ofNat n :: done) (next :: rest)
            | none => .error ⟨.badUnicodeEscape, position + 1⟩
          | _ => .error ⟨.badUnicodeEscape, position + 1⟩
        else match unescape? e with
          | some d => readChars start (position + 2) (d :: done) rest
          | none => .error ⟨.badEscape, position⟩
    else readChars start (position + 1) (c :: done) rest

/-- Reads a string whose opening quote has been seen at `start`. -/
def readString (start : Nat) (rest : Text) : Except Fault (Text × Cursor) :=
  readChars start (start + 1) [] rest

/-! ## Numbers -/

/-- The value of a sequence of decimal digits. -/
def digitsValue (t : Text) : Nat := t.foldl (fun n c => 10 * n + (c.val - 48)) 0

/-- The digits after a point, if a point and a digit come next. -/
def fraction? : Text → Option Text
  | point :: d :: rest =>
    if point = '.' && d.isAsciiDigit then some ((d :: rest).takeWhile CodePoint.isAsciiDigit) else none
  | _ => none

/-- The value and the length of an exponent, if one with a digit comes next. -/
def exponent? : Text → Option (Int × Nat)
  | [] => none
  | e :: rest =>
    if e = 'e' || e = 'E' then
      let (negative, signs, rest) := match rest with
        | s :: more =>
          if s = '-' then (true, 1, more) else if s = '+' then (false, 1, more) else (false, 0, rest)
        | [] => (false, 0, rest)
      let digits := rest.takeWhile CodePoint.isAsciiDigit
      if digits.isEmpty then none
      else
        let n : Int := digitsValue digits
        some (if negative then -n else n, 1 + signs + digits.length)
    else none

/-- Reads a number: a whole part without a leading zero, and a fraction and an exponent if they are
complete. -/
def readNumber (c : Cursor) : Except Fault (Number × Cursor) :=
  let negative := c.rest.head? = some '-'
  let body := if negative then c.skip 1 else c
  let digits := body.rest.takeWhile CodePoint.isAsciiDigit
  let whole := if digits.head? = some '0' then digits.take 1 else digits
  if whole.isEmpty then c.fault .noValue
  else
    let behind := body.skip whole.length
    let places := fraction? behind.rest
    let behind := match places with
      | some digits => behind.skip (digits.length + 1)
      | none => behind
    let power := exponent? behind.rest
    match places, power with
    | none, none =>
      if 4300 < whole.length then c.fault (.tooLong whole.length)
      else
        let n : Int := digitsValue whole
        .ok (.int (if negative then -n else n), behind)
    | _, _ =>
      let places := places.getD []
      let (n, length) := power.getD (0, 0)
      .ok (.decimal ⟨negative, digitsValue (whole ++ places), n - places.length⟩, behind.skip length)

/-! ## Values -/

/-- The words that are values by themselves. -/
def words : List (Text × Json) := [
  ("null", .null), ("true", .bool true), ("false", .bool false), ("NaN", .number .undefined),
  ("Infinity", .number (.infinity false)), ("-Infinity", .number (.infinity true))]

/-- The value of a word that comes next, and what follows it. -/
def readWord? (c : Cursor) : Option (Json × Cursor) :=
  words.findSome? fun (word, value) =>
    (Text.after? word c.rest).map fun rest => (value, ⟨c.position + word.length, rest⟩)

mutual

/-- Reads a value. Each call uses up one unit of fuel; a text has fewer than two calls per character. -/
def readValue : Nat → Cursor → Except Fault (Json × Cursor)
  | 0, c => c.fault .noValue
  | fuel + 1, c =>
    match c.rest with
    | [] => c.fault .noValue
    | first :: rest =>
      if first = '"' then do
        let (t, after) ← readString c.position rest
        return (.string t, after)
      else if first = '[' then
        let inside := (c.skip 1).skipSpace
        if inside.rest.head? = some ']' then .ok (.array [], inside.skip 1)
        else do
          let (items, after) ← readItems fuel [] inside
          return (.array items, after)
      else if first = '\x7b' then
        let inside := (c.skip 1).skipSpace
        if inside.rest.head? = some '\x7d' then .ok (.object [], inside.skip 1)
        else do
          let (members, after) ← readMembers fuel [] inside
          return (.object members, after)
      else match readWord? c with
        | some found => .ok found
        | none => do
          let (n, after) ← readNumber c
          return (.number n, after)

/-- Reads items up to the closing bracket; `done` holds in reverse those read before. -/
def readItems : Nat → List Json → Cursor → Except Fault (List Json × Cursor)
  | 0, _, c => c.fault .noValue
  | fuel + 1, done, c => do
    let (v, after) ← readValue fuel c
    let after := after.skipSpace
    if after.rest.head? = some ']' then return ((v :: done).reverse, after.skip 1)
    else if after.rest.head? = some ',' then readItems fuel (v :: done) (after.skip 1).skipSpace
    else after.fault .noComma

/-- Reads members up to the closing brace, adding them to those read before. -/
def readMembers : Nat → List (Text × Json) → Cursor → Except Fault (List (Text × Json) × Cursor)
  | 0, _, c => c.fault .noValue
  | fuel + 1, done, c =>
    if c.rest.head? = some '"' then do
      let (name, after) ← readString c.position (c.rest.drop 1)
      let after := after.skipSpace
      if after.rest.head? = some ':' then do
        let (v, after) ← readValue fuel (after.skip 1).skipSpace
        let after := after.skipSpace
        let members := Association.set name v done
        if after.rest.head? = some '\x7d' then return (members, after.skip 1)
        else if after.rest.head? = some ',' then readMembers fuel members (after.skip 1).skipSpace
        else after.fault .noComma
      else after.fault .noColon
    else c.fault .noName

end

/-- Reads a whole text as one value. -/
def read (source : Text) : Except Fault Json :=
  if source.head? = some (CodePoint.ofNat 0xFEFF) then .error ⟨.byteOrderMark, 0⟩
  else do
    let (v, after) ← readValue (2 * source.length + 2) (Cursor.skipSpace ⟨0, source⟩)
    let after := after.skipSpace
    if after.rest.isEmpty then return v else after.fault .extra

end SourceAtlas.Json
