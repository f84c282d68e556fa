import SourceAtlas.Source.Numeral
import SourceAtlas.Unicode.Names

/-!
The values of string literals: escapes in the body of a text, the form of a literal of bytes, and the
marks that may stand before the quotes.
-/

namespace SourceAtlas.Source

namespace StringLiteral

/-! ## Marks -/

/-- The marks before a quote, in lower case. -/
def markings : List Text := ["", "r", "u", "b", "f", "br", "rb", "fr", "rf"]

/-- The marks that a text starts with, provided that a quote comes next, and the text from the quote on. -/
def marking? (t : Text) : Option (Text × Text) :=
  let letters := t.takeWhile CodePoint.isAsciiLetter
  let rest := t.drop letters.length
  let lower := letters.map CodePoint.asciiLower
  if markings.contains lower && Numeral.startsWith (fun c => c = '"' || c = '\'') rest then some (lower, rest)
  else none

/-! ## Bodies -/

/-- The body of a literal in single quotes, from behind the first quote, and what follows the last. A line
ends in it only behind a backslash. -/
def shortBody? (quote : CodePoint) : Text → Option (Text × Text)
  | [] => none
  | c :: cs =>
    if c = quote then some ([], cs)
    else if c = '\n' then none
    else if c = '\\' then
      match cs with
      | d :: ds => (shortBody? quote ds).map fun (body, rest) => (c :: d :: body, rest)
      | [] => none
    else (shortBody? quote cs).map fun (body, rest) => (c :: body, rest)

/-- The body of a literal in triple quotes, from behind the first three, and what follows the last three. -/
def longBody? (quote : CodePoint) : Text → Option (Text × Text)
  | [] => none
  | c :: cs =>
    if c = '\\' then
      match cs with
      | d :: ds => (longBody? quote ds).map fun (body, rest) => (c :: d :: body, rest)
      | [] => none
    else
      match Text.after? [quote, quote, quote] (c :: cs) with
      | some rest => some ([], rest)
      | none => (longBody? quote cs).map fun (body, rest) => (c :: body, rest)

/-- The body of a literal from its first quote on, and what follows it. -/
def body? (t : Text) : Option (Text × Text) :=
  match t with
  | quote :: rest =>
    match Text.after? [quote, quote] rest with
    | some inner => longBody? quote inner
    | none => shortBody? quote rest
  | [] => none

/-- Reads the literal that a text starts with. -/
def read? (t : Text) : Option (StringLiteral × Text) := do
  let (marks, quoted) ← marking? t
  let (body, rest) ← body? quoted
  return (⟨marks.contains 'r', marks.contains 'b', marks.contains 'f', body⟩, rest)

/-! ## Escapes -/

/-- The number that digits spell in a base. -/
def valueIn (base : Nat) (digits : Text) : Nat :=
  digits.foldl (fun n c => base * n + (c.digit? base).getD 0) 0

/-- The character that one letter after a backslash stands for. -/
def control? (c : CodePoint) : Option CodePoint :=
  match c.toChar? with
  | some 'a' => some '\x07'
  | some 'b' => some '\x08'
  | some 'f' => some '\x0c'
  | some 'n' => some '\n'
  | some 'r' => some '\r'
  | some 't' => some '\t'
  | some 'v' => some '\x0b'
  | some '\\' => some '\\'
  | some '\'' => some '\''
  | some '"' => some '"'
  | _ => none

/-- How many hexadecimal digits a letter after a backslash asks for. -/
def hexCount? (c : CodePoint) : Option Nat :=
  match c.toChar? with
  | some 'x' => some 2
  | some 'u' => some 4
  | some 'U' => some 8
  | _ => none

/-- What an escape stands for, and how many characters it has behind the backslash. An escape that means
nothing stands for itself; one that is cut short is an error. -/
def escape? (t : Text) : Option (Text × Nat) :=
  match t with
  | [] => some ("\\", 0)
  | c :: rest =>
    if c = '\n' then some ([], 1)
    else match control? c with
    | some value => some ([value], 1)
    | none => match hexCount? c with
      | some count =>
        let digits := rest.take count
        let value := valueIn 16 digits
        if digits.length = count && digits.all (Numeral.isDigitOf 16) && value < 0x110000 then
          some ([CodePoint.ofNat value], count + 1)
        else none
      | none =>
        if Numeral.isDigitOf 8 c then
          let digits := (t.take 3).takeWhile (Numeral.isDigitOf 8)
          some ([CodePoint.ofNat (valueIn 8 digits)], digits.length)
        else if c = 'N' then
          match Text.after? "\x7b" rest with
          | none => none
          | some named =>
            let name := named.takeWhile fun d : CodePoint => d != '\x7d'
            if name.length = named.length then none
            else (Unicode.named? name).map fun value => ([value], name.length + 3)
        else some ("\\", 0)

/-- The value of a body with escapes; `skip` characters belong to the escape before. -/
def unescapeFrom : (skip : Nat) → Text → Option Text
  | _, [] => some []
  | skip + 1, _ :: cs => unescapeFrom skip cs
  | 0, c :: cs =>
    if c = '\\' then do
      let (value, length) ← escape? cs
      return value ++ (← unescapeFrom length cs)
    else (unescapeFrom 0 cs).map (c :: ·)

/-- The value of a body with escapes. -/
def unescape (body : Text) : Option Text := unescapeFrom 0 body

/-- Has every `x` escape of a body of bytes its two digits? The flag says that a backslash came before. -/
def hasWholeBytes : (escaped : Bool) → Text → Bool
  | _, [] => true
  | false, c :: cs => hasWholeBytes (c = '\\') cs
  | true, c :: cs =>
    (c ≠ 'x' || (cs.take 2).length = 2 && (cs.take 2).all (Numeral.isDigitOf 16)) && hasWholeBytes false cs

/-- Is a literal of bytes well formed? It is in ASCII, and its escapes are whole unless it is raw. -/
def isWellFormedBytes (s : StringLiteral) : Bool :=
  s.body.all CodePoint.isAscii && (s.raw || hasWholeBytes false s.body)

/-- The value of a plain literal of text. -/
def value? (s : StringLiteral) : Option Text := if s.raw then some s.body else unescape s.body

end StringLiteral

end SourceAtlas.Source
