import SourceAtlas.Source.Parse

/-!
Parameter lists of functions and lambdas: ordinary parameters, of which the first may be positional only
and the last may have defaults, then keyword parameters behind a star, then one for all other keywords.
-/

namespace SourceAtlas.Source.Parameter

open Parse

/-- How far a list has come. Among the ordinary parameters: has there been any, has there been a slash,
and has there been a default? -/
inductive Stage where
  | ordinary (any slash defaults : Bool)
  | keywordOnly

/-- An annotation of a parameter, if there is one. -/
def annotation (r : Rules) : Parse Unit := do
  if ← acceptMark ":" then
    let _ ← r.expression

/-- An annotation of the parameter for further values, which may be starred. -/
def starAnnotation (r : Rules) : Parse Unit := do
  if ← acceptMark ":" then
    if ← acceptMark "*" then
      let _ ← r.operation
    else
      let _ ← r.expression

/-- A default of a parameter: is there one? -/
def default? (r : Rules) : Parse Bool := do
  if ← acceptMark "=" then
    let _ ← r.expression
    return true
  else return false

/-- What a list goes on with behind a parameter: a comma, or the mark that closes the list. -/
def separator (close : Text) : Parse Unit := do
  if !(← acceptMark ",") then
    require (← seesMark close)

/-- One parameter, and the stage behind it. -/
def one (r : Rules) (annotated : Bool) (close : Text) : Stage → Parse Stage
  | .ordinary any slash defaults => do
    if ← acceptMark "/" then
      require (any && !slash)
      separator close
      return .ordinary any true defaults
    else if ← acceptMark "*" then
      if ← acceptMark "," then
        match ← next with
        | .name _ => return .keywordOnly
        | _ => failure
      else
        let _ ← name
        if annotated then starAnnotation r
        separator close
        return .keywordOnly
    else
      let _ ← name
      if annotated then annotation r
      let hasDefault ← default? r
      require (hasDefault || !defaults)
      separator close
      return .ordinary true slash hasDefault
  | .keywordOnly => do
    let _ ← name
    if annotated then annotation r
    let _ ← default? r
    separator close
    return .keywordOnly

/-- The parameters from a stage on, up to the mark that closes the list. -/
def listFrom (r : Rules) (annotated : Bool) (close : Text) : (bound : Nat) → Stage → Parse Unit
  | 0, _ => failure
  | bound + 1, stage => do
    if ← seesMark close then return
    else if ← acceptMark "**" then
      let _ ← name
      if annotated then annotation r
      let _ ← acceptMark ","
      require (← seesMark close)
    else
      let stage ← one r annotated close stage
      listFrom r annotated close bound stage

/-- A parameter list up to the mark that closes it, which is taken too. -/
def list (r : Rules) (annotated : Bool) (close : Text) : Parse Unit := do
  listFrom r annotated close r.bound (.ordinary false false false)
  mark close

end SourceAtlas.Source.Parameter
