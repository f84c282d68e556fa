import SourceAtlas.Source.Pattern
import SourceAtlas.Unicode.Compatibility

/-!
Statements: simple ones, which share lines, and compound ones, which have blocks of their own.
-/

namespace SourceAtlas.Source.Statement

open Parse

/-! ## Assignments -/

/-- The marks that assign and compute at once. -/
def augmented : List Text :=
  ["+=", "-=", "*=", "@=", "/=", "%=", "&=", "|=", "^=", "<<=", ">>=", "**=", "//="].map Text.ofString

/-- What an expression without an assignment says: a lone string is documentation. -/
def ofShape : Shape → Statement
  | .text value => .textual value
  | _ => .other

/-- The targets and the value of an assignment, from the first equals sign on. Everything before the last
sign is a target. -/
def assignment (r : Rules) (target : Shape) : (bound : Nat) → Parse Unit
  | 0 => failure
  | bound + 1 => do
    if ← acceptMark "=" then
      require (target.isTarget true)
      if ← seesWord "yield" then
        Atom.yielding r
        require (!(← seesMark "="))
      else
        let shape ← Expression.list r
        assignment r shape bound

/-- An expression as a statement, or an assignment. -/
def expressionOrAssignment (r : Rules) : Parse Statement := do
  if ← seesWord "yield" then
    Atom.yielding r
    return .other
  else
    let shape ← Expression.list r
    match ← next with
    | .mark t =>
      if t = "=" then
        assignment r shape (r.bound + 1)
        return .other
      else if t = ":" then
        require shape.isPlace
        skip
        let _ ← r.expression
        if ← acceptMark "=" then Expression.value r
        return .other
      else if augmented.contains t then
        require shape.isPlace
        skip
        Expression.value r
        return .other
      else return ofShape shape
    | _ => return ofShape shape

/-! ## Imports -/

/-- A new name for something imported, if there is one. -/
def alias? : Parse Unit := do
  if ← acceptWord "as" then
    let _ ← name

/-- A name with further names behind dots. -/
def dottedName (r : Rules) : Parse Unit := do
  let _ ← name
  let _ ← Pattern.attributes r

/-- The modules that an import statement names. -/
def importedModules (r : Rules) : Parse Unit := do
  let _ ← separated (do dottedName r; alias?) r.bound

/-- A name that is imported from a module. -/
def importedName : Parse Unit := do
  let _ ← name
  alias?

/-- The names that are imported from a module: all, or a list, which may stand in parentheses. -/
def importedNames (r : Rules) : Parse Unit := do
  if ← acceptMark "*" then return
  else if ← acceptMark "(" then
    let _ ← items (do return !(← seesMark ")")) importedName r.bound
    mark ")"
  else
    let _ ← separated importedName r.bound

/-- The module that names are imported from. Dots before it lead upwards, and may stand alone. -/
def sourceModule (r : Rules) : Parse Unit := do
  let upwards ← many (acceptAny [.mark ".", .mark "..."]) r.bound
  if !(upwards && (← seesWord "import")) then dottedName r

/-- An import statement with its span. -/
def importing (r : Rules) (fromModule : Bool) : Parse Statement := do
  let start ← place
  skip
  if fromModule then
    sourceModule r
    word "import"
    importedNames r
  else importedModules r
  return .imports fromModule ⟨start, (← get).stop⟩

/-! ## Simple statements -/

/-- Does the statement end here? -/
def seesEnd : Parse Bool := do return (← seesMark ";") || (← sees .newline)

/-- The targets of a deletion. -/
def deletion (r : Rules) : Parse Unit := do
  let target : Parse Unit := do
    require ((← r.primary).isTarget false)
  let _ ← items (do return !(← seesEnd)) target r.bound

/-- A simple statement that starts with a keyword. -/
def keywordStatement (r : Rules) (keyword : Text) : Parse Statement := do
  if keyword = "import" then importing r false
  else if keyword = "from" then importing r true
  else if keyword = "pass" || keyword = "break" || keyword = "continue" then
    skip
    return .other
  else if keyword = "return" then
    skip
    if ← Atom.startsItem then
      let _ ← Expression.list r
    return .other
  else if keyword = "raise" then
    skip
    if ← Atom.starts then
      let _ ← r.expression
      if ← acceptWord "from" then
        let _ ← r.expression
    return .other
  else if keyword = "global" || keyword = "nonlocal" then
    skip
    let _ ← separated name r.bound
    return .other
  else if keyword = "del" then
    skip
    deletion r
    return .other
  else if keyword = "assert" then
    skip
    let _ ← r.expression
    if ← acceptMark "," then
      let _ ← r.expression
    return .other
  else expressionOrAssignment r

/-- A simple statement. -/
def simple (r : Rules) : Parse Statement := do
  match ← next with
  | .keyword t => keywordStatement r t
  | _ => expressionOrAssignment r

/-- The simple statements of a line. A semicolon may follow the last. -/
def line (r : Rules) : (bound : Nat) → Parse (List Statement)
  | 0 => failure
  | bound + 1 => do
    let first ← simple r
    if ← acceptMark ";" then
      if ← accept .newline then return [first]
      else return first :: (← line r bound)
    else
      expect .newline
      return [first]

/-! ## Compound statements -/

/-- A colon and the block behind it. -/
def colonBlock (r : Rules) : Parse (List Statement) := do
  mark ":"
  r.block

/-- The block behind a keyword, if it comes next. -/
def blockAfter? (r : Rules) (keyword : Text) : Parse (List Statement) := do
  if ← acceptWord keyword then colonBlock r else return []

/-- What follows the block of a condition: another condition, or what is done otherwise. -/
def otherwise (r : Rules) : (bound : Nat) → Parse (List Statement)
  | 0 => failure
  | bound + 1 => do
    if ← acceptWord "elif" then
      let _ ← Atom.binding r
      let body ← colonBlock r
      let orElse ← otherwise r bound
      return [.compound body orElse [] [] []]
    else blockAfter? r "else"

/-- A condition, from behind its keyword. -/
def conditional (r : Rules) : Parse Statement := do
  let _ ← Atom.binding r
  let body ← colonBlock r
  let orElse ← otherwise r r.bound
  return .compound body orElse [] [] []

/-- A loop with a condition, from behind its keyword. -/
def whileLoop (r : Rules) : Parse Statement := do
  let _ ← Atom.binding r
  let body ← colonBlock r
  let orElse ← blockAfter? r "else"
  return .compound body orElse [] [] []

/-- A loop over values, from behind its keyword. -/
def forLoop (r : Rules) : Parse Statement := do
  Atom.targets r
  word "in"
  let _ ← Expression.list r
  let body ← colonBlock r
  let orElse ← blockAfter? r "else"
  return .compound body orElse [] [] []

/-- A resource, which may be given a name. -/
def resource (r : Rules) : Parse Unit := do
  let _ ← r.expression
  if ← acceptWord "as" then Atom.target r

/-- Resources between parentheses, with the colon behind them. -/
def enclosedResources (r : Rules) : Parse Unit := do
  mark "("
  let _ ← items (do return !(← seesMark ")")) (resource r) r.bound
  mark ")"
  mark ":"

/-- Resources without parentheses, with the colon behind them. -/
def plainResources (r : Rules) : Parse Unit := do
  let _ ← separated (resource r) r.bound
  mark ":"

/-- A statement with resources, from behind its keyword. Parentheses are taken to enclose all of them if
that can be. -/
def withResources (r : Rules) : Parse Statement := do
  enclosedResources r <|> plainResources r
  let body ← r.block
  return .compound body [] [] [] []

/-- A handler, from behind its keyword. Handlers of groups are starred and always say what they handle. -/
def handler (r : Rules) (group : Bool) : Parse (List Statement) := do
  if group || !(← seesMark ":") then
    let _ ← r.expression
    alias?
  colonBlock r

/-- The handlers of a statement, all of them starred or none. -/
def handlers (r : Rules) (group : Bool) : (bound : Nat) → Parse (List (List Statement))
  | 0 => failure
  | bound + 1 => do
    if (← seesWord "except") && decide ((← second) = .mark "*") = group then
      skip
      if group then skip
      let first ← handler r group
      return first :: (← handlers r group bound)
    else return []

/-- A guarded statement, from behind its keyword: with handlers, or else with a last block. -/
def guarded (r : Rules) : Parse Statement := do
  let body ← colonBlock r
  let caught ← handlers r ((← second) = .mark "*") r.bound
  let orElse ← if caught.isEmpty then pure [] else blockAfter? r "else"
  if caught.isEmpty then require (← seesWord "finally")
  let finally_ ← blockAfter? r "finally"
  return .compound body orElse finally_ caught []

/-! ## Cases -/

/-- Takes a name that serves as a keyword here. -/
def softWord (t : Text) : Parse Unit := expect (.name t)

/-- What is matched: an expression, or items of a tuple. -/
def subject (r : Rules) : Parse Unit := do
  match ← items Atom.startsItem (Atom.item r) r.bound with
  | ([.starred _], false) => failure
  | _ => return

/-- The start of a match statement up to its first case. The word is a name elsewhere, so this may fail on
a statement of another kind. -/
def matchHeader (r : Rules) : Parse Bool := do
  softWord "match"
  subject r
  mark ":"
  expect .newline
  expect .indent
  return true

/-- A case with its block. -/
def case_ (r : Rules) : Parse (List Statement) := do
  softWord "case"
  Pattern.topLevel r
  if ← acceptWord "if" then
    let _ ← Atom.binding r
  colonBlock r

/-- The cases of a match statement, from the first on. -/
def cases (r : Rules) : (bound : Nat) → Parse (List (List Statement))
  | 0 => failure
  | bound + 1 => do
    let first ← case_ r
    if ← accept .dedent then return [first]
    else return first :: (← cases r bound)

/-! ## Definitions -/

/-- The name of a definition, in its compatible form. -/
def definitionName : Parse Text := do
  let t ← name
  return if t.all CodePoint.isAscii then t else Unicode.compatible t

/-- A class, from its keyword on. -/
def classDefinition (r : Rules) : Parse Statement := do
  let start ← place
  word "class"
  let name ← definitionName
  if ← acceptMark "(" then Atom.arguments r
  let body ← colonBlock r
  return .definition .classDefinition name ⟨start, (← get).stop⟩ body

/-- A function, from its keyword on; `start` is the place where it starts. -/
def functionFrom (r : Rules) (start : Nat) : Parse Statement := do
  word "def"
  let name ← definitionName
  mark "("
  Parameter.list r true ")"
  if ← acceptMark "->" then
    let _ ← r.expression
  let body ← colonBlock r
  return .definition .functionDefinition name ⟨start, (← get).stop⟩ body

/-- A function, which may be asynchronous. -/
def functionDefinition (r : Rules) : Parse Statement := do
  let start ← place
  let _ ← acceptWord "async"
  functionFrom r start

/-- A decorator, from behind its mark. -/
def decorator (r : Rules) : Parse Unit := do
  let _ ← Atom.binding r
  expect .newline

/-- A definition behind its decorators. -/
def decorated (r : Rules) : Parse Statement := do
  let step : Parse Bool := do
    if ← acceptMark "@" then
      decorator r
      return true
    else return false
  let _ ← many step r.bound
  if ← seesWord "class" then classDefinition r else functionDefinition r

/-! ## Blocks -/

/-- A compound statement that starts with a keyword, or `none` if no such statement does. -/
def compound? (r : Rules) (keyword : Text) : Option (Parse Statement) :=
  if keyword = "if" then some (do skip; conditional r)
  else if keyword = "while" then some (do skip; whileLoop r)
  else if keyword = "for" then some (do skip; forLoop r)
  else if keyword = "with" then some (do skip; withResources r)
  else if keyword = "try" then some (do skip; guarded r)
  else if keyword = "class" then some (classDefinition r)
  else if keyword = "def" then some (functionDefinition r)
  else if keyword = "async" then some do
    if (← second) = .keyword "def" then functionDefinition r
    else
      skip
      if ← acceptWord "with" then withResources r
      else
        word "for"
        forLoop r
  else none

/-- One statement, or all the simple statements of a line. -/
def statements (r : Rules) : Parse (List Statement) := do
  match ← next with
  | .keyword t =>
    match compound? r t with
    | some parse => return [← parse]
    | none => line r r.bound
  | .mark t => if t = "@" then return [← decorated r] else line r r.bound
  | .name t =>
    let isMatch ← if t = "match" then matchHeader r <|> pure false else pure false
    if isMatch then return [.compound [] [] [] [] (← cases r r.bound)]
    else line r r.bound
  | _ => line r r.bound

/-- Statements up to a token that ends them, of which there is at least one unless `none` are allowed. -/
def upTo (r : Rules) (final : TokenKind) : (bound : Nat) → Parse (List Statement)
  | 0 => failure
  | bound + 1 => do
    let first ← statements r
    if ← accept final then return first
    else return first ++ (← upTo r final bound)

/-- A block: the rest of the line, or indented lines. -/
def block (r : Rules) : Parse (List Statement) := do
  if ← accept .newline then
    expect .indent
    upTo r .dedent r.bound
  else line r r.bound

/-- All of a source. -/
def all (r : Rules) : Parse (List Statement) := do
  if ← accept .finish then return []
  else upTo r .finish r.bound

end SourceAtlas.Source.Statement
