import SourceAtlas.Ignore.Rule
import SourceAtlas.Text.Lines
import SourceAtlas.Text.Utf8

/-!
Ignore specifications: rules in the order of their lines. The last rule that names a path decides; one that
merely names a directory above the path decides only if no rule names the path itself.
-/

namespace SourceAtlas.Ignore

/-- Rules, in the order of their lines. -/
abbrev Spec := List Rule

/-- A line that is no rule. -/
structure SpecFault where
  line : Text
  fault : Fault
deriving DecidableEq, Repr

/-- The wording of a fault. -/
def SpecFault.message (f : SpecFault) : Text :=
  match f.fault with
  | .invalid => "Invalid git pattern: " ++ Text.quoted f.line
  | .badRange low high position =>
    "bad character range " ++ low ++ "-" ++ high ++ " at position " ++ Text.ofNat position

/-- Is the line no pattern at all, rather than one with a bad class? -/
def SpecFault.isInvalid (f : SpecFault) : Bool := f.fault = .invalid

namespace Spec

/-- The rules of lines, up to the first that is none. -/
def ofLines : List Text → Except SpecFault Spec
  | [] => .ok []
  | line :: rest =>
    match Rule.ofLine line with
    | .error fault => .error ⟨line, fault⟩
    | .ok rule => (ofLines rest).map fun rules => rule.toList ++ rules

/-- The lines of a `.gitignore` file. -/
def fileLines (bytes : Bytes) : List Text := Text.lines (Text.unifyLineEnds (Utf8.decode bytes))

/-- The rules of a `.gitignore` file, if there is one, followed by further patterns. -/
def ofFile (file : Option Bytes) (patterns : List Text) : Except SpecFault Spec :=
  ofLines ((match file with | some bytes => fileLines bytes | none => []) ++ patterns)

/-- A path as rules see it, without a slash or a `./` at its start. -/
def seen (path : Text) : Text :=
  match Text.after? "/" path with
  | some rest => rest
  | none => (Text.after? "./" path).getD path

/-- What has been decided so far: how surely, and whether to ignore. -/
structure Verdict where
  strength : Nat
  ignored : Bool
deriving DecidableEq, Repr

/-- Goes through rules, the last line first, until one names the path itself. -/
def decide (path : Text) : List Rule → Verdict → Verdict
  | [], verdict => verdict
  | rule :: rest, verdict =>
    if 2 ≤ verdict.strength then verdict
    else
      let next : Verdict := match rule.strength? path with
        | some strength =>
          if verdict.strength < strength then ⟨strength, !rule.negated⟩ else verdict
        | none => verdict
      decide path rest next

/-- Is a path ignored? Directories are given with a slash at their end. -/
def ignores (spec : Spec) (path : Text) : Bool :=
  (decide (seen path) spec.reverse ⟨0, false⟩).ignored

end Spec

end SourceAtlas.Ignore
