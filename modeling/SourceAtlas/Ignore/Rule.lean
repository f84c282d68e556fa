import SourceAtlas.Ignore.Glob
import SourceAtlas.Text.Quoted

/-!
Ignore rules: lines of a `.gitignore` file. A rule is a path of globs; `**` stands for any number of
directories. A rule without an inner slash applies at every depth, one that ends in a slash to directories
alone. Directories are shown to a rule with a slash at their end; group 1 of a rule's expression takes part
in a match where the path goes on behind what the rule names.
-/

namespace SourceAtlas.Ignore

/-- A rule: paths that match are ignored, or, if the rule is negated, kept. -/
structure Rule where
  negated : Bool
  regex : Regex
deriving DecidableEq, Repr

/-! ## Lines -/

/-- A line without blanks at its end; a blank behind a backslash at the very end keeps them all. -/
def stripped (line : Text) : Text :=
  if (Text.beginsWith " \\" line.reverse) then line else Text.dropEndWhile Unicode.isBlank line

/-- Does a stripped line say nothing? So do empty ones, comments and a slash alone. -/
def isVoid (line : Text) : Bool := line.isEmpty || line.head? = some '#' || line = "/"

/-- The component that stands for any number of directories. -/
def anyDepth : Text := "**"

/-- Writes `**` for neighbouring `**` components. -/
def collapse : List Text → List Text
  | [] => []
  | s :: rest =>
    let rest := collapse rest
    if s = anyDepth && rest.head? = some anyDepth then rest else s :: rest

/-- Makes an empty last component into `**`. -/
def openEnd : List Text → List Text
  | [] => []
  | [s] => [if s.isEmpty then anyDepth else s]
  | s :: rest => s :: openEnd rest

/-- The components of a rule: those between slashes, anchored at the root if a slash comes first or in the
middle, at any depth otherwise. -/
def components (body : Text) : List Text :=
  let parts := Text.split '/' body
  let anchored := match parts with
    | first :: rest =>
      if first.isEmpty then rest
      else if first ≠ anyDepth && (rest.isEmpty || rest = [[]]) then anyDepth :: parts
      else parts
    | [] => []
  collapse (openEnd anchored)

/-! ## Expressions -/

/-- A slash. -/
def slash : Regex := .char '/' .exact

/-- Any characters of one line, at least one. -/
def some_ : Regex := .many 1 none .greedy (.any false)

/-- The slash behind what a rule names. -/
def behind : Regex := .group 1 slash

/-- The start of a rule at any depth: the start of the path or of any component. -/
def leading : Written := ⟨.seq (.anchor .textStart) (.many 0 (some 1) .greedy (.seq some_ slash)), 9⟩

/-- Any number of directories in the middle of a rule. -/
def middle : Written := ⟨.many 0 (some 1) .greedy (.seq slash some_), 8⟩

/-- The end of a rule that names everything inside a directory. -/
def inside (directory : Bool) : Written := if directory then ⟨behind, 11⟩ else ⟨slash, 1⟩

/-- The end of a rule: the path goes on with a slash, or ends. -/
def ending : Written := ⟨.alt behind (.anchor .lastLineEnd), 18⟩

/-- The parts of a component other than `**`, or `none` if it makes the rule void. -/
def componentParts (position : Nat) (first needsSlash last : Bool) (s : Text) :
    Except Fault (Option (List Written)) :=
  let lead : List Written :=
    (if first then [⟨.anchor .textStart, 1⟩] else []) ++ (if needsSlash then [⟨slash, 1⟩] else [])
  let close : List Written := if last then [ending] else []
  if s = "*" then .ok (some (lead ++ ⟨.many 1 none .greedy notSlash, 5⟩ :: close))
  else
    (glob (position + lead.length) s).map fun parts => parts.map fun parts => lead ++ parts ++ close

/-- The parts of the components of a rule from one of them on. -/
def ruleParts (directory : Bool) (position : Nat) (first needsSlash : Bool) :
    List Text → Except Fault (Option (List Written))
  | [] => .ok (some [])
  | s :: rest => do
    let (parts, slashNext) ←
      if s = anyDepth then
        if first then pure (some [leading], false)
        else if rest.isEmpty then pure (some [inside directory], needsSlash)
        else pure (some [middle], true)
      else do pure (← componentParts position first needsSlash rest.isEmpty s, true)
    match parts with
    | none => return none
    | some parts =>
      let length := parts.foldl (fun total part => total + part.length) 0
      let more ← ruleParts directory (position + length) false slashNext rest
      return more.map (parts ++ ·)

/-- The expression of the components of a rule. -/
def expression (directory : Bool) (parts : List Text) : Except Fault (Option Regex) :=
  if parts.isEmpty then .error .invalid
  else if parts = [anyDepth] then .ok (some (if directory then behind else .any false))
  else if parts = [anyDepth, "*"] then .ok (some (.any false))
  else if parts = [anyDepth, "*", anyDepth] then .ok (some (if directory then behind else slash))
  else (ruleParts directory 0 true false parts).map fun written =>
    written.map fun w => Regex.sequence (w.map Written.regex)

/-- The rule of a line; `none` for a line that says nothing. -/
def Rule.ofLine (line : Text) : Except Fault (Option Rule) :=
  let body := stripped line
  if isVoid body then .ok none
  else
    let (negated, body) := match body with
      | c :: rest => if c = '!' then (true, rest) else (false, body)
      | [] => (false, [])
    let directory := (Text.split '/' body).getLast? = some []
    (expression directory (components body)).map fun regex => regex.map fun r => ⟨negated, r⟩

/-! ## Verdicts -/

/-- How surely a rule matches a path: 2 if it names the path itself, 1 if the path goes on behind it. -/
def Rule.strength? (rule : Rule) (path : Text) : Option Nat :=
  (rule.regex.search path).map fun found => if (found.capture? 1).isSome then 1 else 2

end SourceAtlas.Ignore
