import SourceAtlas.Source.Atom
import SourceAtlas.Source.Parameter

/-!
Expressions: operands with operators, comparisons, logic, choices between two values, and lambdas. How
strongly operators bind makes no difference to what is accepted, so equal kinds of operators are read as
flat chains.
-/

namespace SourceAtlas.Source.Expression

open Parse

/-- The operators before an operand. -/
def signs : List TokenKind := [.mark "+", .mark "-", .mark "~"]

/-- The operators between operands. -/
def operators : List TokenKind :=
  ["|", "^", "&", "<<", ">>", "+", "-", "*", "/", "//", "%", "@", "**"].map fun s => .mark (Text.ofString s)

/-- The marks between things that are compared. -/
def comparisons : List TokenKind :=
  ["==", "!=", "<", "<=", ">", ">="].map fun s => .mark (Text.ofString s)

/-- An operand with the operators before it. -/
def operand (r : Rules) : Parse Shape := do
  let signed ← many (acceptAny signs) r.bound
  let awaited ← acceptWord "await"
  let shape ← Atom.primary r
  return if signed || awaited then .other else shape

/-- Operands with operators between them. -/
def operation (r : Rules) : Parse Shape := do
  let shape ← operand r
  let step : Parse Bool := do
    if ← acceptAny operators then
      let _ ← operand r
      return true
    else return false
  return if ← many step r.bound then .other else shape

/-- Takes what stands between things that are compared, if it comes next. -/
def acceptComparison : Parse Bool := do
  if ← acceptAny comparisons then return true
  else if ← acceptWord "in" then return true
  else if ← acceptWord "is" then
    let _ ← acceptWord "not"
    return true
  else if (← seesWord "not") && (← second) = .keyword "in" then
    skip
    skip
    return true
  else return false

/-- Operations that are compared. -/
def comparison (r : Rules) : Parse Shape := do
  let shape ← operation r
  let step : Parse Bool := do
    if ← acceptComparison then
      let _ ← operation r
      return true
    else return false
  return if ← many step r.bound then .other else shape

/-- A comparison that may be negated. -/
def negation (r : Rules) : Parse Shape := do
  let negated ← many (acceptWord "not") r.bound
  let shape ← comparison r
  return if negated then .other else shape

/-- Negations with `and` and `or` between them. -/
def disjunction (r : Rules) : Parse Shape := do
  let shape ← negation r
  let step : Parse Bool := do
    if ← acceptAny [.keyword "and", .keyword "or"] then
      let _ ← negation r
      return true
    else return false
  return if ← many step r.bound then .other else shape

/-- An expression. -/
def expression (r : Rules) : Parse Shape := do
  if ← acceptWord "lambda" then
    Parameter.list r false ":"
    let _ ← r.expression
    return .other
  else
    let shape ← disjunction r
    if ← acceptWord "if" then
      let _ ← r.disjunction
      word "else"
      let _ ← r.expression
      return .other
    else return shape

/-! ## Lists of expressions -/

/-- An expression, or a starred one. -/
def starred (r : Rules) : Parse Shape := do
  if ← acceptMark "*" then return .starred (← r.operation)
  else r.expression

/-- Expressions with commas between them; a comma makes a tuple. -/
def list (r : Rules) : Parse Shape := do
  match ← items Atom.startsItem (starred r) r.bound with
  | ([shape], false) => return shape
  | (shapes, _) => return .tuple shapes

/-- A yield expression or a list of expressions. -/
def value (r : Rules) : Parse Unit := do
  if ← seesWord "yield" then Atom.yielding r
  else
    let _ ← list r

/-- Is a text an expression, once it is put in parentheses? -/
def isExpression (r : Rules) (t : Text) : Bool :=
  let accepted : Parse Unit := do
    let _ ← list r
    expect .newline
  match lex ("(" ++ t ++ ")\n") with
  | some tokens => ((accepted.run ⟨tokens, 0⟩).map Prod.fst).isSome
  | none => false

end SourceAtlas.Source.Expression
