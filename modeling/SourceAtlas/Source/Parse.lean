import SourceAtlas.Source.Lexer
import SourceAtlas.Source.Format
import SourceAtlas.Source.Tree

/-!
Parsing: steps over tokens that may fail, and the rules that the grammar's parts use of one another. The
rules of one level nest the rules of the level before, so every rule ends.
-/

namespace SourceAtlas.Source

/-- The tokens that are left, and where the last token with text of its own stopped. -/
structure Input where
  tokens : List Token
  stop : Nat := 0

/-- A step of parsing. -/
abbrev Parse := StateT Input Option

namespace Parse

/-! ## Steps -/

/-- The kind of the next token. -/
def next : Parse TokenKind := do
  match (← get).tokens with
  | token :: _ => return token.kind
  | [] => return .finish

/-- The kind of the token after the next one. -/
def second : Parse TokenKind := do
  match (← get).tokens with
  | _ :: token :: _ => return token.kind
  | _ => return .finish

/-- The place where the next token starts. -/
def place : Parse Nat := do
  match (← get).tokens with
  | token :: _ => return token.start
  | [] => return (← get).stop

/-- Takes the next token. -/
def skip : Parse Unit :=
  modify fun s => match s.tokens with
    | token :: rest => ⟨rest, if token.kind.isSolid then token.stop else s.stop⟩
    | [] => s

/-- Is the next token of this kind? -/
def sees (kind : TokenKind) : Parse Bool := do return (← next) = kind

/-- Takes the next token if it is of this kind. -/
def accept (kind : TokenKind) : Parse Bool := do
  if ← sees kind then
    skip
    return true
  else return false

/-- Takes the next token if it is of one of these kinds. -/
def acceptAny (kinds : List TokenKind) : Parse Bool := do
  if kinds.contains (← next) then
    skip
    return true
  else return false

/-- Takes the next token, which must be of this kind. -/
def expect (kind : TokenKind) : Parse Unit := do
  if !(← accept kind) then failure

/-- Is the next token this mark? -/
def seesMark (t : Text) : Parse Bool := sees (.mark t)

/-- Is the next token this keyword? -/
def seesWord (t : Text) : Parse Bool := sees (.keyword t)

/-- Takes the next token if it is this mark. -/
def acceptMark (t : Text) : Parse Bool := accept (.mark t)

/-- Takes the next token if it is this keyword. -/
def acceptWord (t : Text) : Parse Bool := accept (.keyword t)

/-- Takes the next token, which must be this mark. -/
def mark (t : Text) : Parse Unit := expect (.mark t)

/-- Takes the next token, which must be this keyword. -/
def word (t : Text) : Parse Unit := expect (.keyword t)

/-- Takes a name. -/
def name : Parse Text := do
  match ← next with
  | .name t =>
    skip
    return t
  | _ => failure

/-- Fails unless a test holds. -/
def require (test : Bool) : Parse Unit := if test then pure () else failure

/-- Repeats a step as long as it has something to take, and says whether it ever had. -/
def many (step : Parse Bool) : (bound : Nat) → Parse Bool
  | 0 => return false
  | bound + 1 => do
    if ← step then
      let _ ← many step bound
      return true
    else return false

/-- Items with commas between them, as long as another one starts behind a comma. Says whether a comma
came last. -/
def items {α : Type} (starts : Parse Bool) (item : Parse α) : (bound : Nat) → Parse (List α × Bool)
  | 0 => failure
  | bound + 1 => do
    let first ← item
    if ← acceptMark "," then
      if ← starts then
        let (rest, trailing) ← items starts item bound
        return (first :: rest, trailing)
      else return ([first], true)
    else return ([first], false)

/-- Items with commas between them and none behind the last. -/
def separated {α : Type} (item : Parse α) : (bound : Nat) → Parse (List α)
  | 0 => failure
  | bound + 1 => do
    let first ← item
    if ← acceptMark "," then return first :: (← separated item bound)
    else return [first]

end Parse

/-! ## Shapes -/

/-- What an expression looks like, as far as it matters for being assigned to or for being documentation. -/
inductive Shape where
  | name
  | attribute
  | subscript
  | starred (item : Shape)
  | tuple (items : List Shape)
  | list (items : List Shape)
  | text (value : Text)
  | other
deriving Repr

namespace Shape

/-- A single place: a name, an attribute or a subscript. -/
def isPlace : Shape → Bool
  | .name | .attribute | .subscript => true
  | _ => false

mutual

/-- Can the expression be assigned to? Stars may be used if `stars` says so. -/
def isTarget (stars : Bool) : Shape → Bool
  | .name | .attribute | .subscript => true
  | .starred item => stars && isTarget stars item
  | .tuple items => areTargets stars items
  | .list items => areTargets stars items
  | _ => false

/-- Can all the expressions be assigned to? -/
def areTargets (stars : Bool) : List Shape → Bool
  | [] => true
  | item :: rest => isTarget stars item && areTargets stars rest

end

end Shape

/-! ## Rules -/

/-- The rules that parts of the grammar use of one another, one level down. `bound` is at least the number
of tokens that are left. -/
structure Rules where
  bound : Nat
  expression : Parse Shape
  disjunction : Parse Shape
  operation : Parse Shape
  primary : Parse Shape
  pattern : Parse Unit
  block : Parse (List Statement)
  isExpression : Text → Bool

/-- The rules that accept nothing. -/
def Rules.none : Rules :=
  ⟨0, failure, failure, failure, failure, failure, failure, fun _ => false⟩

end SourceAtlas.Source
