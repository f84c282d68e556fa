import SourceAtlas.Json.Basic

/-!
Statistics of an analysis run, and the sentence that reports them.
-/

namespace SourceAtlas

/-- What a run did: the files it was given, how many were answered from the store and how many extracted,
the files with entities and the entities in all. -/
structure Statistics where
  files : Int := 0
  hits : Int := 0
  misses : Int := 0
  filesWithEntities : Int := 0
  chunks : Int := 0
deriving DecidableEq, Repr

namespace Statistics

/-- The length of a run in seconds, with one place. A whole number beyond the range of binary fractions
has none. -/
def seconds? : Json.Number → Option Text
  | .int n => match Binary.ofInt n with
    | .infinite _ => none
    | b => some b.toTenths
  | .decimal d => some (Binary.ofDecimal d).toTenths
  | .infinity negative => some (Binary.infinite negative).toTenths
  | .undefined => some Binary.undefined.toTenths

/-- The report on a run that took so many seconds. -/
def sentence (s : Statistics) (seconds : Text) : Text :=
  "Analyzed " ++ Text.ofInt s.files ++ " files (" ++ Text.ofInt s.hits ++ " cached, "
    ++ Text.ofInt s.misses ++ " extracted, " ++ Text.ofInt s.filesWithEntities ++ " with entities, "
    ++ Text.ofInt s.chunks ++ " chunks) in " ++ seconds ++ "s"

end Statistics

end SourceAtlas
