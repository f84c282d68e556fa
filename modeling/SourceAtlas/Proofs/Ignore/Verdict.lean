import SourceAtlas.Ignore.Spec
import SourceAtlas.Proofs.Except

/-!
Verdicts. The last rule that names a path itself decides about it, and if there is none the last rule that names a
directory above it. So one more rule that is not negated never keeps a path that was ignored, wherever it comes to
stand among the others.

Main statements: `ignores_eq`, `ignores_insert`.
-/

namespace SourceAtlas.Ignore

/-! ## Rules -/

namespace Rule

/-- A rule takes a path with one of two strengths, or not at all. -/
theorem strength?_eq (rule : Rule) (path : Text) :
    rule.strength? path = none ∨ rule.strength? path = some 1 ∨ rule.strength? path = some 2 := by
  unfold strength?
  cases rule.regex.search path with
  | none => exact .inl rfl
  | some found =>
    rw [Option.map_some]
    split
    · exact .inr (.inl rfl)
    · exact .inr (.inr rfl)

/-- It takes the paths in which its expression is found. -/
theorem isSome_strength? (rule : Rule) (path : Text) :
    (rule.strength? path).isSome = (rule.regex.search path).isSome := Option.isSome_map

end Rule

/-! ## Lines -/

/-- Does a line begin with an exclamation mark? -/
def isNegated (line : Text) : Bool := line.head? = some ('!' : CodePoint)

/-- What a line says, without the exclamation mark of a negated one. -/
def bodyOf (line : Text) : Text := if isNegated line then (stripped line).tail else stripped line

/-- Only blanks at the end are taken from a line. -/
theorem stripped_prefix (line : Text) : stripped line <+: line := by
  unfold stripped
  split
  · exact List.prefix_refl line
  · have short : line.reverse.dropWhile Unicode.isBlank <:+ line.reverse := List.dropWhile_suffix _
    exact List.reverse_suffix.1 (by rwa [Text.dropEndWhile, List.reverse_reverse])

/-- A line that says something gives the rule of the expression of its components. -/
theorem ofLine_eq_ok_some {line : Text} {rule : Rule} (h : Rule.ofLine line = .ok (some rule)) :
    rule.negated = isNegated line
      ∧ ∃ directory, expression directory (components (bodyOf line)) = .ok (some rule.regex) := by
  unfold Rule.ofLine at h
  dsimp only at h
  split at h
  · cases h
  · next hvoid =>
    cases hstripped : stripped line with
    | nil =>
      rw [hstripped] at hvoid
      exact absurd rfl hvoid
    | cons c rest =>
      obtain ⟨blanks, hblanks⟩ := stripped_prefix line
      rw [hstripped] at h hblanks
      have head : line.head? = some c := by rw [← hblanks]; rfl
      by_cases hc : c = '!'
      · have negated : isNegated line = true := decide_eq_true (hc ▸ head)
        simp only [hc, if_true] at h
        obtain ⟨regex, hregex, h⟩ := map_eq_ok_iff.1 h
        obtain ⟨r, rfl, rfl⟩ := Option.map_eq_some_iff.1 h
        rw [bodyOf, if_pos negated, hstripped, negated]
        exact ⟨rfl, _, hregex⟩
      · have plain : isNegated line = false := by
          rw [isNegated, head]
          exact decide_eq_false fun heq => hc (Option.some.inj heq)
        simp only [hc, if_false] at h
        obtain ⟨regex, hregex, h⟩ := map_eq_ok_iff.1 h
        obtain ⟨r, rfl, rfl⟩ := Option.map_eq_some_iff.1 h
        rw [bodyOf, if_neg (by rw [plain]; nofun), hstripped, plain]
        exact ⟨rfl, _, hregex⟩

namespace Spec

/-! ## The rule that decides -/

/-- The last rule that matches a path just so surely. -/
def lastOf (spec : Spec) (path : Text) (strength : Nat) : Option Rule :=
  spec.reverse.find? fun rule => rule.strength? path = some strength

/-- Of two lists the last rule of the back one counts, if there is any. -/
theorem lastOf_append (front back : Spec) (path : Text) (strength : Nat) : lastOf (front ++ back) path strength
    = (lastOf back path strength).or (lastOf front path strength) := by
  rw [lastOf, List.reverse_append, List.find?_append]
  rfl

variable (path : Text)

/-- A decision of the greater strength is final. -/
theorem decide_two (rules : List Rule) (ignored : Bool) : decide path rules ⟨2, ignored⟩ = ⟨2, ignored⟩ := by
  cases rules with
  | nil => rfl
  | cons rule rest => exact if_pos (Nat.le_refl 2)

/-- Behind a rule that names a directory above the path, one that names the path itself decides. -/
theorem ignored_decide_one (rules : List Rule) (ignored : Bool) : (decide path rules ⟨1, ignored⟩).ignored
    = ((rules.find? fun rule => rule.strength? path = some 2).map fun rule => !rule.negated).getD ignored := by
  induction rules with
  | nil => rfl
  | cons rule rest ih =>
    rw [List.find?_cons, decide]
    rcases rule.strength?_eq path with h | h | h
    · simpa [h] using ih
    · simpa [h] using ih
    · simp [h, decide_two]

/-- What the rules decide is up to the first of the greater strength, or else to the first of the lesser one. -/
theorem ignored_decide_zero (rules : List Rule) : (decide path rules ⟨0, false⟩).ignored
    = ((rules.find? fun rule => rule.strength? path = some 2).or
        (rules.find? fun rule => rule.strength? path = some 1)).any fun rule => !rule.negated := by
  induction rules with
  | nil => rfl
  | cons rule rest ih =>
    rw [List.find?_cons, List.find?_cons, decide]
    rcases rule.strength?_eq path with h | h | h
    · simpa [h] using ih
    · have one := ignored_decide_one path rest (!rule.negated)
      cases hother : rest.find? fun rule => rule.strength? path = some 2 with
      | none => simpa [h, hother] using one
      | some other => simpa [h, hother] using one
    · simp [h, decide_two]

/-- The last rule that names a path decides, and if there is none the last that names a directory above it. -/
theorem ignores_eq (spec : Spec) : spec.ignores path
    = ((lastOf spec (seen path) 2).or (lastOf spec (seen path) 1)).any fun rule => !rule.negated :=
  ignored_decide_zero (seen path) spec.reverse

/-- There is no last rule of a strength just if there is none at all. -/
theorem lastOf_eq_none_iff {spec : Spec} {strength : Nat} :
    lastOf spec path strength = none ↔ ∀ rule ∈ spec, rule.strength? path ≠ some strength := by
  simp [lastOf]

theorem mem_of_lastOf {spec : Spec} {strength : Nat} {rule : Rule} (h : lastOf spec path strength = some rule) :
    rule ∈ spec ∧ rule.strength? path = some strength := by
  have hfind : spec.reverse.find? (fun rule => rule.strength? path = some strength) = some rule := h
  exact ⟨List.mem_reverse.1 (List.mem_of_find?_eq_some hfind), by simpa using List.find?_some hfind⟩

/-- Where no rule is negated, what some rule matches is ignored. -/
theorem ignores_iff_of_forall {spec : Spec} (h : ∀ rule ∈ spec, rule.negated = false) :
    spec.ignores path = true ↔ ∃ rule ∈ spec, (rule.regex.search (seen path)).isSome = true := by
  have decisive : ∀ {strength rule}, lastOf spec (seen path) strength = some rule →
      rule ∈ spec ∧ rule.negated = false ∧ (rule.regex.search (seen path)).isSome = true := by
    intro strength rule hrule
    obtain ⟨hmem, hstrength⟩ := mem_of_lastOf (seen path) hrule
    refine ⟨hmem, h rule hmem, ?_⟩
    rw [← rule.isSome_strength?, hstrength]
    rfl
  rw [ignores_eq]
  cases htwo : lastOf spec (seen path) 2 with
  | some rule =>
    obtain ⟨hmem, hnegated, hsearch⟩ := decisive htwo
    exact ⟨fun _ => ⟨rule, hmem, hsearch⟩, fun _ => by simp [hnegated]⟩
  | none =>
    cases hone : lastOf spec (seen path) 1 with
    | some rule =>
      obtain ⟨hmem, hnegated, hsearch⟩ := decisive hone
      exact ⟨fun _ => ⟨rule, hmem, hsearch⟩, fun _ => by simp [hnegated]⟩
    | none =>
      refine ⟨nofun, fun ⟨rule, hmem, hsearch⟩ => ?_⟩
      rw [← rule.isSome_strength?] at hsearch
      rcases rule.strength?_eq (seen path) with hrule | hrule | hrule
      · rw [hrule] at hsearch
        cases hsearch
      · exact absurd hrule ((lastOf_eq_none_iff _).1 hone rule hmem)
      · exact absurd hrule ((lastOf_eq_none_iff _).1 htwo rule hmem)

/-- One more rule that is not negated keeps nothing that is ignored without it. -/
theorem ignores_insert {rule : Rule} (hrule : rule.negated = false) {front back : Spec}
    (h : (front ++ back).ignores path = true) : (front ++ rule :: back).ignores path = true := by
  have last : ∀ strength, lastOf (front ++ rule :: back) (seen path) strength
      = (lastOf back (seen path) strength).or ((lastOf [rule] (seen path) strength).or
          (lastOf front (seen path) strength)) := by
    intro strength
    rw [List.append_cons, lastOf_append, lastOf_append]
  have single : ∀ strength, lastOf [rule] (seen path) strength = none
      ∨ lastOf [rule] (seen path) strength = some rule := by
    intro strength
    rw [lastOf, List.reverse_singleton, List.find?_singleton]
    split
    · exact .inr rfl
    · exact .inl rfl
  rw [ignores_eq, lastOf_append, lastOf_append] at h
  rw [ignores_eq, last, last]
  -- the new rule decides only if no later one names the path as surely
  cases htwo : lastOf back (seen path) 2 with
  | some decisive =>
    rw [htwo] at h
    exact h
  | none =>
    rw [htwo, Option.none_or] at h
    rw [Option.none_or]
    rcases single 2 with hnew | hnew
    · rw [hnew, Option.none_or]
      cases hfront : lastOf front (seen path) 2 with
      | some decisive =>
        rw [hfront] at h
        exact h
      | none =>
        rw [hfront, Option.none_or] at h
        rw [Option.none_or]
        cases hone : lastOf back (seen path) 1 with
        | some decisive =>
          rw [hone] at h
          exact h
        | none =>
          rw [hone, Option.none_or] at h
          rw [Option.none_or]
          rcases single 1 with hnew | hnew
          · rw [hnew]
            exact h
          · rw [hnew]
            simp [hrule]
    · rw [hnew]
      simp [hrule]

/-! ## The rules of lines -/

/-- Lines may be read in two parts. -/
theorem ofLines_append_eq_ok_iff {front back : List Text} {spec : Spec} : ofLines (front ++ back) = .ok spec
    ↔ ∃ a b, ofLines front = .ok a ∧ ofLines back = .ok b ∧ a ++ b = spec := by
  induction front generalizing spec with
  | nil =>
    constructor
    · exact fun h => ⟨[], spec, rfl, h, rfl⟩
    · rintro ⟨a, b, ha, hb, rfl⟩
      obtain rfl := Except.ok.inj ha
      exact hb
  | cons line rest ih =>
    rw [List.cons_append, ofLines, ofLines]
    cases Rule.ofLine line with
    | error fault => exact ⟨nofun, fun ⟨_, _, h, _⟩ => nomatch h⟩
    | ok rule =>
      simp only [map_eq_ok_iff, ih]
      constructor
      · rintro ⟨_, ⟨a, b, ha, hb, rfl⟩, rfl⟩
        exact ⟨rule.toList ++ a, b, ⟨a, ha, rfl⟩, hb, List.append_assoc _ _ _⟩
      · rintro ⟨_, b, ⟨a, ha, rfl⟩, hb, rfl⟩
        exact ⟨a ++ b, ⟨a, b, ha, hb, rfl⟩, (List.append_assoc _ _ _).symm⟩

/-- Every rule is the rule of a line. -/
theorem exists_line_of_mem {lines : List Text} {spec : Spec} (h : ofLines lines = .ok spec) {rule : Rule}
    (hrule : rule ∈ spec) : ∃ line ∈ lines, Rule.ofLine line = .ok (some rule) := by
  induction lines generalizing spec with
  | nil =>
    obtain rfl := Except.ok.inj h
    cases hrule
  | cons line rest ih =>
    rw [ofLines] at h
    split at h
    · cases h
    · next first hfirst =>
      obtain ⟨others, hothers, rfl⟩ := map_eq_ok_iff.1 h
      rcases List.mem_append.1 hrule with hrule | hrule
      · obtain rfl := Option.mem_toList.1 hrule
        exact ⟨line, List.mem_cons_self, hfirst⟩
      · obtain ⟨other, hother, hline⟩ := ih hothers hrule
        exact ⟨other, List.mem_cons_of_mem line hother, hline⟩

/-- One more line that is not negated keeps nothing that is ignored without it. -/
theorem exists_ofLines_of_insert {front back : List Text} {line : Text} (hline : isNegated line = false)
    {spec : Spec} (h : ofLines (front ++ line :: back) = .ok spec) :
    ∃ fewer, ofLines (front ++ back) = .ok fewer ∧ ∀ path, fewer.ignores path = true → spec.ignores path = true := by
  obtain ⟨a, c, ha, hc, rfl⟩ := ofLines_append_eq_ok_iff.1 h
  rw [ofLines] at hc
  split at hc
  · cases hc
  · next rule hrule =>
    obtain ⟨b, hb, rfl⟩ := map_eq_ok_iff.1 hc
    refine ⟨a ++ b, ofLines_append_eq_ok_iff.2 ⟨a, b, ha, hb, rfl⟩, fun path hpath => ?_⟩
    cases rule with
    | none => exact hpath
    | some rule =>
      have hnegated : rule.negated = false := (ofLine_eq_ok_some hrule).1.trans hline
      exact ignores_insert path hnegated hpath

end Spec

end SourceAtlas.Ignore
