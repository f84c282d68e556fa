import SourceAtlas.Proofs.Outline.Parts

/-!
Indentation. The lines of a chunk are made one by one: a bar, two blanks for each entity around it, and what the line
says. Only documentation is different behind its first line: there the bar stands alone before what the line says, so
that such a line is indented only if it begins with so many blanks by itself.

Main statement: `chunkLines_indented_iff`.
-/

namespace SourceAtlas.Outline

/-- The blanks before a line at some depth, two for each entity around it. -/
def blanks (depth : Nat) : Text := List.replicate (2 * depth) (' ' : CodePoint)

/-- A line begins with the bar and the blanks of some depth. -/
def IsIndented (depth : Nat) (line : Text) : Prop := ('|' : CodePoint) :: blanks depth <+: line

instance (depth : Nat) (line : Text) : Decidable (IsIndented depth line) := by unfold IsIndented; infer_instance

/-! ## The lines of a chunk -/

section

variable (compress : Bool) (c : Chunk)

/-- The lines of documentation that a form has. -/
def docsIn : List Text := if compress then [] else docsOf c

/-- The marker that a form has, if there are further lines of content. -/
def markerIn : List Text :=
  if !compress && 1 < (contentOf c).length then [bar ++ indentation c.depth ++ "..."] else []

end

/-- The lines of a chunk are those of its documentation, its signature and a marker, as far as the form has them. -/
theorem chunkLines_of_wellTyped (o : Outline) {c : Chunk} (h : c.WellTyped) :
    o.chunkLines c = .ok (docLines (indentation c.depth) (docsIn o.compress c)
      ++ signature c :: markerIn o.compress c) := by
  obtain ⟨query, compress⟩ := o
  have noQuery : (⟨query, compress⟩ : Outline).chunkLines c = (⟨none, compress⟩ : Outline).chunkLines c := rfl
  rw [noQuery, chunkLines_eq h]
  cases compress with
  | true =>
    rw [filter_isIn_true_chunkParts]
    rfl
  | false =>
    rw [filter_isIn_false, map_snd_chunkParts, markerIn]
    simp only [Bool.not_false, Bool.true_and, decide_eq_true_eq]
    rfl

/-! ## Beginnings of lines -/

/-- An indentation is made of blanks, two for each level. -/
theorem indentation_eq (depth : Nat) : indentation depth = blanks depth := by
  have two : (("  " : String) : Text) = List.replicate 2 (' ' : CodePoint) := rfl
  rw [indentation, Text.times, two, List.flatten_replicate_replicate, blanks, Nat.mul_comm]

/-- Behind the bar a line is indented by the blanks it begins with. -/
theorem isIndented_bar_append {depth : Nat} {t : Text} : IsIndented depth (bar ++ t) ↔ blanks depth <+: t :=
  List.prefix_cons_inj _

/-- What is put behind an indentation is indented. -/
theorem isIndented_indentation (depth : Nat) (t : Text) : IsIndented depth (bar ++ indentation depth ++ t) := by
  rw [List.append_assoc, isIndented_bar_append, indentation_eq]
  exact List.prefix_append _ _

/-- The signature of a chunk and the mark of its body are indented. -/
theorem isIndented_of_mem_signature {compress : Bool} {c : Chunk} :
    ∀ line ∈ signature c :: markerIn compress c, IsIndented c.depth line := by
  refine List.forall_mem_cons.2 ⟨isIndented_indentation _ _, ?_⟩
  rw [markerIn]
  split
  · exact List.forall_mem_singleton.2 (isIndented_indentation _ _)
  · exact List.forall_mem_nil _

/-! ## Documentation -/

section

variable {indent : Text} {lines : List Text}

/-- There is a line for each line of the docs. -/
theorem length_docLines : (docLines indent lines).length = lines.length := by
  cases lines with
  | nil => rfl
  | cons first rest => simp [docLines]

/-- Behind the first one the lines of the docs stand as they are. -/
theorem getElem?_docLines_succ (i : Nat) : (docLines indent lines)[i + 1]? = lines[i + 1]?.map (bar ++ ·) := by
  cases lines with
  | nil => rfl
  | cons first rest => simp [docLines]

/-- The first line of documentation is indented, and any other one if it is so by itself. -/
theorem isIndented_docLines {depth i : Nat} {own line : Text} (hown : lines[i]? = some own)
    (hline : (docLines (indentation depth) lines)[i]? = some line) :
    IsIndented depth line ↔ (0 < i → blanks depth <+: own) := by
  cases i with
  | zero =>
    cases lines with
    | nil => cases hown
    | cons first rest =>
      obtain rfl := Option.some.inj hline
      exact iff_of_true (isIndented_indentation depth first) nofun
  | succ i =>
    rw [getElem?_docLines_succ, hown] at hline
    obtain rfl := Option.some.inj hline
    rw [isIndented_bar_append, forall_prop_of_true i.succ_pos]

/-- So all lines of the docs are indented just if those behind the first bring their own blanks. -/
theorem forall_isIndented_docLines {depth : Nat} :
    (∀ line ∈ docLines (indentation depth) lines, IsIndented depth line)
      ↔ ∀ own ∈ lines.tail, blanks depth <+: own := by
  cases lines with
  | nil => exact iff_of_true (List.forall_mem_nil _) (List.forall_mem_nil _)
  | cons first rest =>
    rw [docLines, List.forall_mem_cons, and_iff_right (isIndented_indentation depth first), List.forall_mem_map]
    simp only [isIndented_bar_append, List.tail_cons]

end

/-! ## All lines -/

/-- A well-typed chunk has lines, and each of them is indented by the depth of the chunk, unless it is a line of
documentation behind the first one that does not begin with the blanks by itself. So all are indented exactly if the
form leaves documentation out, or each of its lines behind the first begins with the blanks. -/
theorem chunkLines_indented_iff (o : Outline) {c : Chunk} (h : c.WellTyped) : ∃ lines, o.chunkLines c = .ok lines
    ∧ (∀ i line, lines[i]? = some line →
      (IsIndented c.depth line ↔ ∀ own, 0 < i → (docsIn o.compress c)[i]? = some own → blanks c.depth <+: own))
    ∧ ((∀ line ∈ lines, IsIndented c.depth line)
      ↔ o.compress = true ∨ ∀ own ∈ (docsOf c).tail, blanks c.depth <+: own) := by
  refine ⟨_, o.chunkLines_of_wellTyped h, ?_, ?_⟩
  · intro i line hline
    have length : (docLines (indentation c.depth) (docsIn o.compress c)).length = (docsIn o.compress c).length :=
      length_docLines
    rcases Nat.lt_or_ge i (docsIn o.compress c).length with hi | hi
    · have hown := List.getElem?_eq_getElem hi
      rw [List.getElem?_append_left (by omega)] at hline
      rw [isIndented_docLines hown hline, hown]
      exact ⟨fun hby own hlt heq => Option.some.inj heq ▸ hby hlt, fun hby hlt => hby _ hlt rfl⟩
    -- behind the documentation
    · rw [List.getElem?_append_right (by omega)] at hline
      rw [List.getElem?_eq_none hi]
      exact iff_of_true (isIndented_of_mem_signature line (List.mem_of_getElem? hline)) nofun
  · rw [List.forall_mem_append, and_iff_left isIndented_of_mem_signature, forall_isIndented_docLines, docsIn]
    cases o.compress with
    | true => exact iff_of_true (List.forall_mem_nil _) (.inl rfl)
    | false => exact (or_iff_right Bool.false_ne_true).symm

/-! ### An example -/

/-- A method whose documentation has two lines. -/
def runMethod : Chunk := .ofEntity "def run(self): pass" "method" (some "Runs.\nTwice.") ["A"]

/-- The second line of the documentation of a method is not indented. The short form is without it. -/
theorem chunkLines_indented_iff_on_runMethod : runMethod.WellTyped
    ∧ (⟨none, false⟩ : Outline).chunkLines runMethod = .ok ["|  Runs.", "|Twice.", "|  def run(self): pass"]
    ∧ (¬ ∀ line ∈ (["|  Runs.", "|Twice.", "|  def run(self): pass"] : List Text), IsIndented 1 line)
    ∧ ∃ lines, (⟨none, true⟩ : Outline).chunkLines runMethod = .ok lines ∧ ∀ line ∈ lines, IsIndented 1 line := by
  have typed : runMethod.WellTyped := by decide
  have full : (⟨none, false⟩ : Outline).chunkLines runMethod
      = .ok ["|  Runs.", "|Twice.", "|  def run(self): pass"] := by rfl
  obtain ⟨lines, hlines, -, hfull⟩ := chunkLines_indented_iff ⟨none, false⟩ typed
  obtain ⟨brief, hbrief, -, hshort⟩ := chunkLines_indented_iff ⟨none, true⟩ typed
  obtain rfl := Except.ok.inj (hlines.symm.trans full)
  refine ⟨typed, full, fun h => ?_, brief, hbrief, hshort.2 (.inl rfl)⟩
  exact absurd (hfull.1 h) (by decide)

end SourceAtlas.Outline
