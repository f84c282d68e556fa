import SourceAtlas.Unicode.Case

/-!
Inclusion policies: which kinds of entities an outline keeps.
-/

namespace SourceAtlas

/-- Keep everything, or leave import statements out. -/
inductive Policy where
  | excludeImports
  | includeAll
deriving DecidableEq, Repr

namespace Policy

/-- The word for imports in the name of a kind. -/
def importWord : Text := "import"

/-- Does the policy keep entities of a kind? Case does not matter in the name of a kind. -/
def includes : Policy → Text → Bool
  | .includeAll, _ => true
  | .excludeImports, kind => !Text.occursIn importWord (Unicode.lowerText kind)

/-- The policy of a name. -/
def ofName? (name : Text) : Option Policy :=
  if name = ("exclude_imports" : Text) then some .excludeImports
  else if name = ("include_all" : Text) then some .includeAll
  else none

end Policy

end SourceAtlas
