import SourceAtlas.Entity

/-!
The walk over a syntax tree and the entities that it meets. What the walk puts out of an entity is said by the entity
alone, so that the chunks of a file are those of its entities, one after another, without the ones that come to
nothing.

Main statement: `extract_eq_flatMap`.
-/

namespace SourceAtlas

open Source

/-! ## Entities of statements -/

namespace Entity

mutual

/-- The entities of a statement. -/
def ofStatement (s : Surroundings) : Statement → List Entity
  | .imports fromModule span => [⟨if fromModule then .importingFrom else .importing, span, none, s.parents⟩]
  | .definition form name span body =>
    ⟨kindOf s form, span, docsOf body, s.parents⟩ :: ofStatements (s.within form name) body
  | .compound body orElse finally_ handlers cases =>
    ofStatements s body ++ ofStatements s orElse ++ ofStatements s finally_ ++ ofBlocks s handlers
      ++ ofBlocks s cases
  | .textual _ => []
  | .other => []

/-- The entities of statements, in their order. -/
def ofStatements (s : Surroundings) : List Statement → List Entity
  | [] => []
  | statement :: rest => ofStatement s statement ++ ofStatements s rest

/-- The entities of several blocks, in their order. -/
def ofBlocks (s : Surroundings) : List (List Statement) → List Entity
  | [] => []
  | block :: rest => ofStatements s block ++ ofBlocks s rest

end

end Entity

/-- The entities of a source, none if it has an error. -/
def entities (source : Text) : List Entity :=
  match parse? source with
  | some statements => Entity.ofStatements .top statements
  | none => []

/-! ## Chunks of entities -/

namespace Extraction

variable {policy : Policy} {source : Text} {e : Entity} {c : Chunk}

/-- What is put out of an entity is its chunk, once. -/
theorem mem_emit_iff : c ∈ emit policy source e ↔
    policy.includes e.kind.name = true ∧ slice source e.span ≠ [] ∧ c = e.toChunk source := by
  rw [emit]
  cases policy.includes e.kind.name with
  | false => simp
  | true => cases slice source e.span <;> simp

/-- Where there is text at the place of an entity, the policy alone decides. -/
theorem emit_of_slice_ne_nil (policy : Policy) (h : slice source e.span ≠ []) :
    emit policy source e = if policy.includes e.kind.name then [e.toChunk source] else [] := by
  rw [emit, show (slice source e.span).isEmpty = false by simpa using h, Bool.or_false]
  cases policy.includes e.kind.name <;> rfl

-- by induction on the tree: at an import or a definition the walk puts out what the entity there comes to
mutual

/-- The walk over a statement puts out what its entities come to. -/
theorem ofStatement_eq_flatMap (policy : Policy) (source : Text) (s : Entity.Surroundings) (t : Statement) :
    ofStatement policy source s t = (Entity.ofStatement s t).flatMap (emit policy source) := by
  cases t with
  | imports fromModule span => rw [ofStatement, Entity.ofStatement, List.flatMap_singleton]
  | definition form name span body =>
    rw [ofStatement, Entity.ofStatement, List.flatMap_cons, ofStatements_eq_flatMap policy source _ body]
  | compound body orElse finally_ handlers cases =>
    rw [ofStatement, Entity.ofStatement, ofStatements_eq_flatMap policy source s body,
      ofStatements_eq_flatMap policy source s orElse, ofStatements_eq_flatMap policy source s finally_,
      ofBlocks_eq_flatMap policy source s handlers, ofBlocks_eq_flatMap policy source s cases]
    simp only [List.flatMap_append]
  | textual value => rfl
  | other => rfl

/-- So it does over several statements. -/
theorem ofStatements_eq_flatMap (policy : Policy) (source : Text) (s : Entity.Surroundings)
    (body : List Statement) :
    ofStatements policy source s body = (Entity.ofStatements s body).flatMap (emit policy source) := by
  cases body with
  | nil => rfl
  | cons t rest =>
    rw [ofStatements, Entity.ofStatements, List.flatMap_append, ofStatement_eq_flatMap policy source s t,
      ofStatements_eq_flatMap policy source s rest]

/-- So it does over several blocks. -/
theorem ofBlocks_eq_flatMap (policy : Policy) (source : Text) (s : Entity.Surroundings)
    (blocks : List (List Statement)) :
    ofBlocks policy source s blocks = (Entity.ofBlocks s blocks).flatMap (emit policy source) := by
  cases blocks with
  | nil => rfl
  | cons block rest =>
    rw [ofBlocks, Entity.ofBlocks, List.flatMap_append, ofStatements_eq_flatMap policy source s block,
      ofBlocks_eq_flatMap policy source s rest]

end

end Extraction

/-! ## Chunks of files -/

/-- The chunks of a file that is read are those that its entities come to. -/
theorem extract_eq_flatMap (policy : Policy) (path : Path) (source : Text) :
    extract policy path source
      = if isRead path then (entities source).flatMap (Extraction.emit policy source) else [] := by
  rw [extract, entities]
  cases parse? source with
  | none => rfl
  | some statements =>
    dsimp only
    rw [Extraction.ofStatements_eq_flatMap]

/-- Every chunk of a file is that of one of its entities. -/
theorem exists_entity_of_mem_extract {policy : Policy} {path : Path} {source : Text} {c : Chunk}
    (h : c ∈ extract policy path source) : ∃ e ∈ entities source, c = e.toChunk source := by
  rw [extract_eq_flatMap] at h
  split at h
  · obtain ⟨e, he, hc⟩ := List.mem_flatMap.1 h
    exact ⟨e, he, (Extraction.mem_emit_iff.1 hc).2.2⟩
  · cases h

/-- A source with an error has no chunks. -/
theorem extract_eq_nil_of_parse? {source : Text} (h : parse? source = none) (policy : Policy) (path : Path) :
    extract policy path source = [] := by
  rw [extract, h]
  split <;> rfl

end SourceAtlas
