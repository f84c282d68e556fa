import SourceAtlas.Source.Expression

/-!
Patterns of the cases of a match statement: values, captures, and patterns for sequences, mappings and the
instances of classes.
-/

namespace SourceAtlas.Source.Pattern

open Parse

/-- The name that captures nothing. -/
def wildcard : Text := "_"

/-! ## Values -/

/-- The rest of a number behind its first part: a real part may be followed by a sign and an imaginary
one. -/
def numberTail (imaginary : Bool) : Parse Unit := do
  if ← acceptAny [.mark "+", .mark "-"] then
    require (!imaginary)
    match ← next with
    | .number true => skip
    | _ => failure

/-- A number, which may be negative or complex. -/
def number : Parse Unit := do
  let _ ← acceptMark "-"
  match ← next with
  | .number imaginary =>
    skip
    numberTail imaginary
  | _ => failure

/-- Does a literal start here? -/
def startsLiteral : Parse Bool := do
  match ← next with
  | .number _ | .string _ => return true
  | .mark t => return t = "-"
  | .keyword t => return Atom.valueWords.contains t
  | _ => return false

/-- A literal. -/
def literal (r : Rules) : Parse Unit := do
  match ← next with
  | .string _ =>
    let _ ← Atom.strings r
  | .keyword t =>
    require (Atom.valueWords.contains t)
    skip
  | _ => number

/-- The attributes behind a name: are there any? -/
def attributes (r : Rules) : Parse Bool :=
  many (do
    if ← acceptMark "." then
      let _ ← name
      return true
    else return false) r.bound

/-- A name that a value is captured under. It does not go on as an attribute, a call or an argument. -/
def capture : Parse Unit := do
  require ((← name) ≠ wildcard)
  require (!((← seesMark ".") || (← seesMark "(") || (← seesMark "=")))

/-! ## Sequences -/

/-- A pattern in a sequence, which may be starred: is it? -/
def sequenceItem (r : Rules) : Parse Bool := do
  if ← acceptMark "*" then
    if (← next) = .name wildcard then skip else capture
    return true
  else
    r.pattern
    return false

/-- Does the sequence go on behind a comma? -/
def goesOn (closing : List TokenKind) : Parse Bool := do return !closing.contains (← next)

/-- Patterns between parentheses, from behind the first: none, one, or several of a sequence. -/
def parenthesized (r : Rules) : Parse Unit := do
  if ← acceptMark ")" then return
  else
    let (starred, trailing) ← items (goesOn [.mark ")"]) (sequenceItem r) r.bound
    require (starred ≠ [true] || trailing)
    mark ")"

/-- Patterns between brackets, from behind the first. -/
def bracketed (r : Rules) : Parse Unit := do
  if ← acceptMark "]" then return
  else
    let _ ← items (goesOn [.mark "]"]) (sequenceItem r) r.bound
    mark "]"

/-! ## Mappings -/

/-- An entry of a mapping pattern: its key is a literal or a name with attributes. -/
def entry (r : Rules) : Parse Unit := do
  if ← startsLiteral then literal r
  else
    let _ ← name
    require (← attributes r)
  mark ":"
  r.pattern

/-- The entries of a mapping pattern up to the closing brace. What is left over may be captured at the
end. -/
def entries (r : Rules) : (bound : Nat) → Parse Unit
  | 0 => failure
  | bound + 1 => do
    if ← acceptMark "\x7d" then return
    else if ← acceptMark "**" then
      capture
      let _ ← acceptMark ","
      mark "\x7d"
    else
      entry r
      if ← acceptMark "," then entries r bound
      else mark "\x7d"

/-! ## Classes -/

/-- The patterns for the attributes of an instance, from behind the opening parenthesis. Named ones come
last. -/
def arguments (r : Rules) (named : Bool) : (bound : Nat) → Parse Unit
  | 0 => failure
  | bound + 1 => do
    if ← acceptMark ")" then return
    else
      let isNamed ← Atom.seesNamed
      if isNamed then
        skip
        skip
      else require (!named)
      r.pattern
      if ← acceptMark "," then arguments r isNamed bound
      else mark ")"

/-! ## Patterns -/

/-- A pattern without alternatives. -/
def closed (r : Rules) : Parse Unit := do
  if ← startsLiteral then literal r
  else if ← acceptMark "(" then parenthesized r
  else if ← acceptMark "[" then bracketed r
  else if ← acceptMark "\x7b" then entries r r.bound
  else if (← name) ≠ wildcard then
    let _ ← attributes r
    if ← acceptMark "(" then arguments r false r.bound
    else require (!(← seesMark "="))

/-- Alternatives, which may be captured together. -/
def pattern (r : Rules) : Parse Unit := do
  closed r
  let alternative : Parse Bool := do
    if ← acceptMark "|" then
      closed r
      return true
    else return false
  let _ ← many alternative r.bound
  if ← acceptWord "as" then capture

/-- The patterns of a case: one, or several of a sequence. -/
def topLevel (r : Rules) : Parse Unit := do
  let (starred, trailing) ← items (goesOn [.mark ":", .keyword "if"]) (sequenceItem r) r.bound
  require (starred ≠ [true] || trailing)

end SourceAtlas.Source.Pattern
