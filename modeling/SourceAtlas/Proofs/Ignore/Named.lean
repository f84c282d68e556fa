import SourceAtlas.Proofs.Ignore.Verdict
import SourceAtlas.Proofs.Path
import SourceAtlas.Proofs.Regex.Takes

/-!
Rules that name a directory. The rule of a line such as `dist/` matches what lies in a directory of that name at any
depth, as long as no name above it holds a line break. It never names a path itself, so that any negated rule that
does so wins, wherever it stands.

Main statements: `strength?_named`, `ignores_of_liesIn`, `ignores_of_not_liesIn`.
-/

namespace SourceAtlas

namespace Ignore

/-- What may stand before the name that a rule at any depth begins with: nothing, or names without line breaks. -/
def IsAbove (above : Text) : Prop :=
  above = [] ∨ ∃ front : Text, front ≠ [] ∧ ('\n' : CodePoint) ∉ front ∧ above = front ++ "/"

/-- A path goes on behind a directory of a name. -/
def LiesIn (name path : Text) : Prop := ∃ above more : Text, path = above ++ (name ++ "/" ++ more) ∧ IsAbove above

/-- A path of pieces lies in a directory of a name if that is one of them, but for the last. -/
theorem liesIn_join_iff {name : Text} (hname : ('/' : CodePoint) ∉ name) {pieces : List Text} (hne : pieces ≠ [])
    (hpieces : ∀ piece ∈ pieces, ('/' : CodePoint) ∉ piece) (hsolid : ∀ piece ∈ pieces.dropLast, piece ≠ []) :
    LiesIn name (Text.join "/" pieces) ↔ ∃ above more, pieces = above ++ name :: more ∧ more ≠ []
      ∧ ∀ piece ∈ above, ('\n' : CodePoint) ∉ piece := by
  have unbroken : ∀ pieces, ('\n' : CodePoint) ∉ Text.join "/" pieces
      ↔ ∀ piece ∈ pieces, ('\n' : CodePoint) ∉ piece := by
    intro pieces
    rw [Text.mem_join_iff (by decide)]
    simp
  have behind : ∀ more : Text, Text.split '/' (name ++ "/" ++ more) = name :: Text.split '/' more := by
    intro more
    rw [List.append_assoc]
    exact Text.split_append_cons hname more
  constructor
  · rintro ⟨above, more, hpath, habove⟩
    have hsplit : pieces = Text.split '/' (above ++ (name ++ "/" ++ more)) := by
      rw [← hpath]
      exact (Text.split_join hne hpieces).symm
    rcases habove with rfl | ⟨front, -, hfront, rfl⟩
    · refine ⟨[], Text.split '/' more, ?_, Text.split_ne_nil _ more, nofun⟩
      rw [hsplit, List.nil_append, behind]
      rfl
    · refine ⟨Text.split '/' front, Text.split '/' more, ?_, Text.split_ne_nil _ more, ?_⟩
      · rw [hsplit, List.append_assoc, ← behind]
        exact Text.split_append '/' front (name ++ "/" ++ more)
      · rw [← unbroken]
        exact (Text.join_split '/' front).symm ▸ hfront
  · rintro ⟨above, more, rfl, hmore, hbreak⟩
    have inner : Text.join "/" (name :: more) = name ++ "/" ++ Text.join "/" more :=
      Text.join_append (List.cons_ne_nil name []) hmore
    by_cases habove : above = []
    · subst habove
      exact ⟨[], Text.join "/" more, inner, .inl rfl⟩
    · refine ⟨Text.join "/" above ++ "/", Text.join "/" more, ?_, .inr ⟨Text.join "/" above, ?_, ?_, rfl⟩⟩
      · rw [Text.join_append habove (List.cons_ne_nil name more), inner]
      · obtain ⟨first, rest, rfl⟩ := List.exists_cons_of_ne_nil habove
        have hfirst : first ≠ [] := hsolid first (by
          rw [List.cons_append, List.dropLast_cons_of_ne_nil (by simp)]
          exact List.mem_cons_self)
        cases rest with
        | nil => exact hfirst
        | cons next rest => simp [Text.join_cons_cons, hfirst]
      · exact (unbroken above).2 hbreak

/-! ## Matches -/

/-- A slash is taken by itself. -/
theorem takes_slash_iff {before taken after : Text} {groups : List Nat} :
    slash.Takes before taken after groups ↔ taken = "/" ∧ groups = [] := by
  constructor
  · rintro ⟨c, hc, rfl, rfl⟩
    rw [(Regex.exact_agrees _ c).1 hc]
    exact ⟨rfl, rfl⟩
  · rintro ⟨rfl, rfl⟩
    exact ⟨'/', (Regex.exact_agrees _ _).2 rfl, rfl, rfl⟩

/-- Any text without a line break is taken where something is asked for. -/
theorem takes_some_iff {before taken after : Text} {groups : List Nat} :
    some_.Takes before taken after groups ↔ taken ≠ [] ∧ ('\n' : CodePoint) ∉ taken ∧ groups = [] := by
  refine Regex.repeat_one_iff.trans ?_
  rw [Regex.allows_none, Nat.one_le_iff_ne_zero, Ne, List.length_eq_zero_iff]
  refine and_congr_right fun _ => and_congr_left fun _ => ?_
  constructor
  · intro h hmem
    exact absurd rfl (bne_iff_ne.1 (h _ hmem))
  · intro h c hc
    refine bne_iff_ne.2 ?_
    rintro rfl
    exact h hc

/-- In front of a name whole directories are taken. -/
theorem takes_leading_iff {before taken after : Text} {groups : List Nat} :
    leading.regex.Takes before taken after groups ↔ before = [] ∧ groups = [] ∧ IsAbove taken := by
  constructor
  · rintro ⟨_, v, _, h, rfl, rfl, ⟨hstart, rfl, rfl⟩, n, ⟨-, hmost⟩, hrounds⟩
    have hbefore : before = [] := List.reverse_eq_nil_iff.1 (List.isEmpty_iff.1 hstart)
    rcases n with _ | _ | n
    · obtain ⟨rfl, rfl⟩ := hrounds
      exact ⟨hbefore, rfl, .inl rfl⟩
    · obtain ⟨_, _, _, _, rfl, rfl, ⟨x, y, i, j, rfl, rfl, hx, hy⟩, rfl, rfl⟩ := hrounds
      obtain ⟨hne, hbreak, rfl⟩ := takes_some_iff.1 hx
      obtain ⟨rfl, rfl⟩ := takes_slash_iff.1 hy
      exact ⟨hbefore, rfl, .inr ⟨x, hne, hbreak, List.append_nil _⟩⟩
    · have := hmost 1 rfl
      omega
  · rintro ⟨rfl, rfl, htaken⟩
    refine ⟨[], taken, [], [], rfl, rfl, ⟨rfl, rfl, rfl⟩, ?_⟩
    rcases htaken with rfl | ⟨front, hne, hbreak, rfl⟩
    · exact ⟨0, ⟨Nat.le_refl 0, fun _ _ => Nat.zero_le _⟩, rfl, rfl⟩
    · refine ⟨1, ⟨Nat.zero_le 1, fun m hm => Option.some.inj hm ▸ Nat.le_max_right 0 1⟩,
        front ++ "/", [], [], [], (List.append_nil _).symm, rfl, ?_, rfl, rfl⟩
      exact ⟨front, "/", [], [], rfl, rfl, takes_some_iff.2 ⟨hne, hbreak, rfl⟩, takes_slash_iff.2 ⟨rfl, rfl⟩⟩

/-- The rule of a line that names a directory, at any depth. -/
def named (name : Text) : Rule :=
  ⟨false, Regex.sequence (leading.regex :: (name.map (fun c => .char c .exact) ++ [behind]))⟩

theorem isPlain_named (name : Text) : (named name).regex.isPlain = true := by
  refine Regex.isPlain_sequence (List.forall_mem_cons.2 ⟨rfl, List.forall_mem_append.2 ⟨?_, ?_⟩⟩)
  · exact List.forall_mem_map.2 fun _ _ => rfl
  · exact List.forall_mem_singleton.2 rfl

/-- The rule of a name takes the directories above it, and the name itself with a slash. -/
theorem takes_named_iff {name before taken after : Text} {groups : List Nat} :
    (named name).regex.Takes before taken after groups
      ↔ before = [] ∧ groups = [1] ∧ ∃ above : Text, taken = above ++ (name ++ "/") ∧ IsAbove above := by
  rw [named, Regex.takes_sequence_cons, Regex.takes_sequence_append]
  constructor
  · rintro ⟨above, _, _, _, rfl, rfl, hleading, x, y, i, j, rfl, rfl, hx, hy⟩
    obtain ⟨rfl, rfl, habove⟩ := takes_leading_iff.1 hleading
    obtain ⟨rfl, rfl⟩ := Regex.takes_literal_iff.1 hx
    obtain ⟨_, rfl, hslash⟩ := hy
    obtain ⟨rfl, rfl⟩ := takes_slash_iff.1 hslash
    exact ⟨rfl, rfl, above, rfl, habove⟩
  · rintro ⟨rfl, rfl, above, rfl, habove⟩
    exact ⟨above, name ++ "/", [], [1], rfl, rfl, takes_leading_iff.2 ⟨rfl, rfl, habove⟩, name, "/", [], [1], rfl, rfl,
      Regex.takes_literal_iff.2 ⟨rfl, rfl⟩, [], rfl, takes_slash_iff.2 ⟨rfl, rfl⟩⟩

/-- It takes the paths that lie in a directory of the name. -/
theorem isSome_search_named_iff (name path : Text) :
    ((named name).regex.search path).isSome = true ↔ LiesIn name path := by
  rw [Regex.search_isSome_iff (isPlain_named name)]
  constructor
  · rintro ⟨before, taken, after, groups, rfl, htakes⟩
    obtain ⟨rfl, -, above, rfl, habove⟩ := takes_named_iff.1 htakes
    exact ⟨above, after, List.append_assoc _ _ _, habove⟩
  · rintro ⟨above, more, rfl, habove⟩
    exact ⟨[], above ++ (name ++ "/"), more, [1], (List.append_assoc _ _ _).symm,
      takes_named_iff.2 ⟨rfl, rfl, above, rfl, habove⟩⟩

/-- What lies in a directory of that name is matched, and never for its own sake. -/
theorem strength?_named_eq_some_iff (name path : Text) {strength : Nat} :
    (named name).strength? path = some strength ↔ LiesIn name path ∧ strength = 1 := by
  rw [← isSome_search_named_iff, Rule.strength?]
  cases hsearch : (named name).regex.search path with
  | none => simp
  | some found =>
    obtain ⟨before, taken, after, -, htakes⟩ := Regex.exists_takes_of_search (isPlain_named name) hsearch
    have hgroups : Regex.groupsOf found.captures = [1] := (takes_named_iff.1 htakes).2.1
    have hcapture : (found.capture? 1).isSome = true := by
      have hmem : 1 ∈ found.captures.map Regex.Capture.group := by
        rw [Regex.groupsOf] at hgroups
        rw [hgroups]
        exact List.mem_singleton.2 rfl
      obtain ⟨capture, hcapture, hgroup⟩ := List.mem_map.1 hmem
      exact List.find?_isSome.2 ⟨capture, hcapture, decide_eq_true hgroup⟩
    rw [Option.map_some, if_pos hcapture]
    constructor
    · intro h
      exact ⟨rfl, (Option.some.inj h).symm⟩
    · rintro ⟨-, rfl⟩
      rfl

/-! ## Verdicts -/

namespace Spec

/-- Is the last rule that names a path itself negated? -/
def restores (spec : Spec) (path : Text) : Bool := (lastOf spec (seen path) 2).any Rule.negated

/-- Rules of which none is negated restore nothing. -/
theorem restores_eq_false_of_forall {spec : Spec} (h : ∀ rule ∈ spec, rule.negated = false) (path : Text) :
    spec.restores path = false := by
  rw [restores]
  cases hlast : lastOf spec (seen path) 2 with
  | none => rfl
  | some rule => exact h rule (mem_of_lastOf _ hlast).1

variable (own : Spec) (names : List Text) (path : Text)

/-- The rules of names never have the greater strength. -/
theorem lastOf_named_two : lastOf (names.map named) path 2 = none := by
  refine (lastOf_eq_none_iff path).2 (List.forall_mem_map.2 fun name _ hstrength => ?_)
  cases ((strength?_named_eq_some_iff name path).1 hstrength).2

/-- What lies in a named directory is ignored, unless another rule restores it. -/
theorem ignores_of_liesIn (h : ∃ name ∈ names, LiesIn name (seen path)) :
    (own ++ names.map named).ignores path = !own.restores path := by
  obtain ⟨name, hname, hlies⟩ := h
  rw [ignores_eq, lastOf_append, lastOf_append, lastOf_named_two, Option.none_or, restores]
  cases lastOf own (seen path) 2 with
  | some decisive => rfl
  | none =>
    cases hone : lastOf (names.map named) (seen path) 1 with
    | none =>
      have matched : (named name).strength? (seen path) = some 1 := (strength?_named_eq_some_iff _ _).2 ⟨hlies, rfl⟩
      exact absurd matched ((lastOf_eq_none_iff _).1 hone _ (List.mem_map_of_mem hname))
    | some rule =>
      obtain ⟨_, -, rfl⟩ := List.mem_map.1 (mem_of_lastOf _ hone).1
      rfl

/-- Elsewhere the rules of names decide nothing. -/
theorem ignores_of_not_liesIn (h : ∀ name ∈ names, ¬ LiesIn name (seen path)) :
    (own ++ names.map named).ignores path = own.ignores path := by
  have silent : ∀ strength, lastOf (names.map named) (seen path) strength = none := by
    intro strength
    refine (lastOf_eq_none_iff _).2 (List.forall_mem_map.2 fun name hname hstrength => ?_)
    exact h name hname ((strength?_named_eq_some_iff name _).1 hstrength).1
  rw [ignores_eq, lastOf_append, lastOf_append, silent, silent, Option.none_or, Option.none_or, ← ignores_eq]

end Spec

end Ignore

end SourceAtlas
