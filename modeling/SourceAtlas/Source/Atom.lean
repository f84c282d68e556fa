import SourceAtlas.Source.Parse

/-!
Operands: names, literals and displays, and what may be appended to them, which are attributes, calls and
subscripts.
-/

namespace SourceAtlas.Source.Atom

open Parse

/-! ## Starts -/

/-- The marks that an expression may start with, a star apart. -/
def startMarks : List Text := ["(", "[", "\x7b", "+", "-", "~", "..."]

/-- The keywords that an expression may start with. -/
def startWords : List Text := ["None", "True", "False", "not", "lambda", "await"]

/-- Can an expression start with such a token? -/
def startsExpression : TokenKind → Bool
  | .name _ | .number _ | .string _ => true
  | .mark t => startMarks.contains t
  | .keyword t => startWords.contains t
  | _ => false

/-- Does an expression start here? -/
def starts : Parse Bool := do return startsExpression (← next)

/-- Does an expression or a starred one start here? -/
def startsItem : Parse Bool := do
  let kind ← next
  return kind = .mark "*" || startsExpression kind

/-! ## Items -/

/-- Does a name come next that is bound to a value by the expression it stands in? -/
def seesBinding : Parse Bool := do
  match ← next with
  | .name _ => return (← second) = .mark ":="
  | _ => return false

/-- An expression, which may bind a name. -/
def binding (r : Rules) : Parse Shape := do
  if ← seesBinding then
    skip
    skip
    let _ ← r.expression
    return .other
  else r.expression

/-- An item of a display: starred, or an expression that may bind a name. -/
def item (r : Rules) : Parse Shape := do
  if ← acceptMark "*" then return .starred (← r.operation)
  else binding r

/-- A yield expression, whose values may be starred. -/
def yielding (r : Rules) : Parse Unit := do
  word "yield"
  if ← acceptWord "from" then
    let _ ← r.expression
  else if ← startsItem then
    let value : Parse Shape := do
      if ← acceptMark "*" then r.operation else r.expression
    let _ ← items startsItem value r.bound

/-! ## Comprehensions -/

/-- A target: something that can be assigned to, with or without a star. -/
def target (r : Rules) : Parse Unit := do
  let _ ← acceptMark "*"
  require ((← r.primary).isTarget true)

/-- Targets, as many as there are up to `in`. -/
def targets (r : Rules) : Parse Unit := do
  let _ ← items (do return !(← seesWord "in")) (target r) r.bound

/-- Does a clause of a comprehension start here? -/
def startsClause : Parse Bool := do return (← seesWord "for") || (← seesWord "async")

/-- A clause of a comprehension with its conditions. -/
def clause (r : Rules) : Parse Unit := do
  let _ ← acceptWord "async"
  word "for"
  targets r
  word "in"
  let _ ← r.disjunction
  let condition : Parse Bool := do
    if ← acceptWord "if" then
      let _ ← r.disjunction
      return true
    else return false
  let _ ← many condition r.bound

/-- The clauses of a comprehension, if there are any. -/
def clauses? (r : Rules) : Parse Bool :=
  many (do
    if ← startsClause then
      clause r
      return true
    else return false) r.bound

/-! ## Displays -/

/-- What stands between parentheses, from behind the first: nothing, one expression, items of a tuple, or
a generator. A lone expression keeps its shape. -/
def parenthesized (r : Rules) : Parse Shape := do
  if ← acceptMark ")" then return .tuple []
  else if ← seesWord "yield" then
    yielding r
    mark ")"
    return .other
  else
    let (shapes, trailing) ← items startsItem (item r) r.bound
    match shapes, trailing with
    | [.starred _], false => failure
    | [shape], false =>
      if ← clauses? r then
        mark ")"
        return .other
      else
        mark ")"
        return shape
    | _, _ =>
      mark ")"
      return .tuple shapes

/-- What stands between brackets, from behind the first: items of a list, or a comprehension. -/
def bracketed (r : Rules) : Parse Shape := do
  if ← acceptMark "]" then return .list []
  else
    let (shapes, trailing) ← items startsItem (item r) r.bound
    match shapes, trailing with
    | [.starred _], false =>
      mark "]"
      return .list shapes
    | [_], false =>
      if ← clauses? r then
        mark "]"
        return .other
      else
        mark "]"
        return .list shapes
    | _, _ =>
      mark "]"
      return .list shapes

/-- An entry of a dictionary. -/
def entry (r : Rules) : Parse Unit := do
  if ← acceptMark "**" then
    let _ ← r.operation
  else
    let _ ← r.expression
    mark ":"
    let _ ← r.expression

/-- Does an entry of a dictionary start here? -/
def startsEntry : Parse Bool := do
  let kind ← next
  return kind = .mark "**" || startsExpression kind

/-- Further elements behind the first, up to the closing brace. -/
def rest {α : Type} (r : Rules) (starts : Parse Bool) (element : Parse α) : Parse Unit := do
  if ← acceptMark "," then
    if ← starts then
      let _ ← items starts element r.bound
  mark "\x7d"

/-- What stands between braces, from behind the first: a dictionary or a set, or a comprehension of
either. -/
def braced (r : Rules) : Parse Unit := do
  if ← acceptMark "\x7d" then return
  else if ← seesMark "**" then
    entry r
    rest r startsEntry (entry r)
  else if ← seesMark "*" then
    let _ ← item r
    rest r startsItem (item r)
  else
    let binds ← seesBinding
    let _ ← binding r
    let keyed ← if binds then pure false else acceptMark ":"
    if keyed then
      let _ ← r.expression
    if ← clauses? r then mark "\x7d"
    else if keyed then rest r startsEntry (entry r)
    else rest r startsItem (item r)

/-! ## Strings -/

/-- The string literals that come next, at most so many. -/
def literals : (bound : Nat) → Parse (List StringLiteral)
  | 0 => return []
  | bound + 1 => do
    match ← next with
    | .string literal =>
      skip
      return literal :: (← literals bound)
    | _ => return []

/-- The value of adjacent literals of text, if all of them can be read. -/
def join? (ls : List StringLiteral) : Option Text := (ls.mapM StringLiteral.value?).map List.flatten

/-- The shape of adjacent literals. Texts and bytes do not mix; a formatted literal makes all of them
formatted. -/
def shapeOf? (r : Rules) (ls : List StringLiteral) : Option Shape :=
  if ls.any StringLiteral.bytes then
    if ls.all fun l => l.bytes && l.isWellFormedBytes then some .other else none
  else if ls.any StringLiteral.formatted then
    let (formatted, plain) := ls.partition StringLiteral.formatted
    if formatted.all (Format.isWellFormed r.isExpression) && (join? plain).isSome then some .other else none
  else (join? ls).map .text

/-- Adjacent string literals. -/
def strings (r : Rules) : Parse Shape := do
  match shapeOf? r (← literals r.bound) with
  | some shape => return shape
  | none => failure

/-! ## Operands -/

/-- The keywords that are values. -/
def valueWords : List Text := ["None", "True", "False"]

/-- A name, a literal or a display. -/
def atom (r : Rules) : Parse Shape := do
  match ← next with
  | .name _ =>
    skip
    return .name
  | .number _ =>
    skip
    return .other
  | .string _ => strings r
  | .keyword t =>
    require (valueWords.contains t)
    skip
    return .other
  | .mark t =>
    skip
    if t = "(" then parenthesized r
    else if t = "[" then bracketed r
    else if t = "\x7b" then
      braced r
      return .other
    else
      require (t = "...")
      return .other
  | _ => failure

/-- How far the arguments of a call have come: positional ones may be followed by named and starred ones,
and those by named and doubly starred ones. -/
inductive Stage where
  | positional
  | named
  | doubled

/-- Does an argument with a name start here? -/
def seesNamed : Parse Bool := do
  match ← next with
  | .name _ => return (← second) = .mark "="
  | _ => return false

/-- One argument, and the stage behind it. -/
def argument (r : Rules) : Stage → Parse Stage
  | stage => do
    if ← acceptMark "**" then
      let _ ← r.expression
      return .doubled
    else if ← seesNamed then
      skip
      skip
      let _ ← r.expression
      match stage with
      | .doubled => return .doubled
      | _ => return .named
    else if ← acceptMark "*" then
      let _ ← r.expression
      match stage with
      | .doubled => failure
      | _ => return stage
    else
      match stage with
      | .positional =>
        let _ ← binding r
        return .positional
      | _ => failure

/-- Arguments from a stage on, up to the closing parenthesis, which is taken too. -/
def argumentsFrom (r : Rules) : (bound : Nat) → Stage → Parse Unit
  | 0, _ => failure
  | bound + 1, stage => do
    if ← acceptMark ")" then return
    else
      let stage ← argument r stage
      if ← acceptMark "," then argumentsFrom r bound stage
      else mark ")"

/-- The arguments of a class, from behind the opening parenthesis. -/
def arguments (r : Rules) : Parse Unit := argumentsFrom r r.bound .positional

/-- The arguments of a call, from behind the opening parenthesis. A generator may be the only one. -/
def callArguments (r : Rules) : Parse Unit := do
  if (← seesMark "*") || (← seesMark "**") || (← seesMark ")") || (← seesNamed) then arguments r
  else
    let _ ← binding r
    if ← clauses? r then mark ")"
    else if ← acceptMark "," then arguments r
    else mark ")"

/-- What follows the first colon of a slice: a bound, and a step behind a second colon. -/
def sliceTail (r : Rules) : Parse Unit := do
  mark ":"
  if ← starts then
    let _ ← r.expression
  if ← acceptMark ":" then
    if ← starts then
      let _ ← r.expression

/-- A subscript: a slice, an expression or a starred one. -/
def slice (r : Rules) : Parse Unit := do
  if ← acceptMark "*" then
    let _ ← r.expression
  else if ← seesMark ":" then sliceTail r
  else
    let binds ← seesBinding
    let _ ← binding r
    if !binds && (← seesMark ":") then sliceTail r

/-- Does a subscript start here? -/
def startsSlice : Parse Bool := do return (← startsItem) || (← seesMark ":")

/-- What may be appended to an operand, and the shape then. -/
def trailers (r : Rules) (shape : Shape) : (bound : Nat) → Parse Shape
  | 0 => return shape
  | bound + 1 => do
    if ← acceptMark "." then
      let _ ← name
      trailers r .attribute bound
    else if ← acceptMark "(" then
      callArguments r
      trailers r .other bound
    else if ← acceptMark "[" then
      let _ ← items startsSlice (slice r) r.bound
      mark "]"
      trailers r .subscript bound
    else return shape

/-- An operand with what is appended to it. -/
def primary (r : Rules) : Parse Shape := do trailers r (← atom r) r.bound

end SourceAtlas.Source.Atom
