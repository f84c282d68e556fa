import SourceAtlas.Proofs.Entity.Nesting

/-!
Leaving imports out. A policy keeps or drops each chunk for itself: what is extracted without imports is what is
extracted with them, less the imports. The same chunks come from a syntax tree in which a statement that does nothing
stands in the place of each import. The place must stay taken, since a string is documentation only where nothing
stands before it.

Main statement: `extract_excludeImports`.
-/

namespace SourceAtlas

open Source

/-! ## Trees without imports -/

namespace Source.Statement

mutual

/-- A statement in which one that does nothing stands in the place of each import. -/
def withoutImports : Statement → Statement
  | .imports _ _ => .other
  | .definition form name span body => .definition form name span (eachWithoutImports body)
  | .compound body orElse finally_ handlers cases =>
    .compound (eachWithoutImports body) (eachWithoutImports orElse) (eachWithoutImports finally_)
      (blocksWithoutImports handlers) (blocksWithoutImports cases)
  | .textual value => .textual value
  | .other => .other

/-- Statements without imports. -/
def eachWithoutImports : List Statement → List Statement
  | [] => []
  | statement :: rest => statement.withoutImports :: eachWithoutImports rest

/-- Several blocks without imports. -/
def blocksWithoutImports : List (List Statement) → List (List Statement)
  | [] => []
  | block :: rest => eachWithoutImports block :: blocksWithoutImports rest

end

end Source.Statement

open Source.Statement

/-- Is it the chunk of an import? -/
def Chunk.isImport (c : Chunk) : Bool :=
  match c.kind with
  | .string kind => kind = "import" || kind = "import_from"
  | _ => false

namespace Entity

/-- The chunk of an entity is that of an import exactly if it is left out with imports. -/
theorem isImport_toChunk (source : Text) (e : Entity) :
    (e.toChunk source).isImport = !Policy.excludeImports.includes e.kind.name := by
  change (e.kind.name = "import" || e.kind.name = "import_from" : Bool) = _
  cases e.kind <;> decide +kernel

/-- Imports are no documentation, and neither is what stands in their place. -/
theorem docsOf_eachWithoutImports (body : List Statement) : docsOf (eachWithoutImports body) = docsOf body := by
  cases body with
  | nil => rfl
  | cons statement rest => cases statement <;> rfl

theorem includes_kindOf (policy : Policy) (s : Surroundings) (form : Definition) :
    policy.includes (kindOf s form).name = true := by
  refine policy.includes_of_isDefinition ?_
  cases form with
  | classDefinition => rfl
  | functionDefinition =>
    rw [kindOf]
    split <;> rfl

end Entity

/-! ## Walks without imports -/

namespace Extraction

open Entity (Surroundings kindOf includes_kindOf docsOf_eachWithoutImports)

/-- Of an entity there is put out without imports what is put out of it with them, unless that is an import. -/
theorem emit_excludeImports (source : Text) (e : Entity) :
    emit .excludeImports source e = (emit .includeAll source e).filter fun c => !c.isImport := by
  have all : Policy.includeAll.includes e.kind.name = true := rfl
  rw [emit, emit, all, Bool.not_true, Bool.false_or]
  cases hslice : (slice source e.span).isEmpty with
  | true => simp
  | false =>
    rw [if_neg Bool.false_ne_true, List.filter_singleton, Entity.isImport_toChunk, Bool.not_not, Bool.or_false]
    cases Policy.excludeImports.includes e.kind.name <;> rfl

/-- A definition is put out under every policy. -/
theorem emit_of_kindOf (policy : Policy) (source : Text) (s : Surroundings) (form : Definition) (span : Span)
    (docs : Option Text) (parents : List Text) :
    emit policy source ⟨kindOf s form, span, docs, parents⟩
      = emit .includeAll source ⟨kindOf s form, span, docs, parents⟩ := by
  rw [emit, emit, includes_kindOf policy, includes_kindOf .includeAll]

-- by induction on the tree: what an import or a definition comes to is filtered, and so is what is below it
mutual

/-- The walk over a statement without imports is the filtered walk with them. -/
theorem ofStatement_excludeImports (source : Text) (s : Surroundings) (t : Statement) :
    ofStatement .excludeImports source s t
      = (ofStatement .includeAll source s t).filter fun c => !c.isImport := by
  cases t with
  | imports fromModule span => rw [ofStatement, ofStatement, emit_excludeImports]
  | definition form name span body =>
    rw [ofStatement, ofStatement, List.filter_append, emit_excludeImports, ofStatements_excludeImports source _ body]
  | compound body orElse finally_ handlers cases =>
    rw [ofStatement, ofStatement, ofStatements_excludeImports source s body,
      ofStatements_excludeImports source s orElse, ofStatements_excludeImports source s finally_,
      ofBlocks_excludeImports source s handlers, ofBlocks_excludeImports source s cases]
    simp only [List.filter_append]
  | textual value => rfl
  | other => rfl

/-- So it is over several statements. -/
theorem ofStatements_excludeImports (source : Text) (s : Surroundings) (body : List Statement) :
    ofStatements .excludeImports source s body
      = (ofStatements .includeAll source s body).filter fun c => !c.isImport := by
  cases body with
  | nil => rfl
  | cons t rest =>
    rw [ofStatements, ofStatements, List.filter_append, ofStatement_excludeImports source s t,
      ofStatements_excludeImports source s rest]

/-- So it is over several blocks. -/
theorem ofBlocks_excludeImports (source : Text) (s : Surroundings) (blocks : List (List Statement)) :
    ofBlocks .excludeImports source s blocks
      = (ofBlocks .includeAll source s blocks).filter fun c => !c.isImport := by
  cases blocks with
  | nil => rfl
  | cons body rest =>
    rw [ofBlocks, ofBlocks, List.filter_append, ofStatements_excludeImports source s body,
      ofBlocks_excludeImports source s rest]

end

-- by induction on the tree: where an import stood nothing is put out, and around it nothing changes
mutual

/-- The walk over a statement with its imports replaced is the walk without imports. -/
theorem ofStatement_withoutImports (policy : Policy) (source : Text) (s : Surroundings) (t : Statement) :
    ofStatement policy source s t.withoutImports = ofStatement .excludeImports source s t := by
  cases t with
  | imports fromModule span =>
    rw [withoutImports, ofStatement, ofStatement, emit]
    cases fromModule <;> rfl
  | definition form name span body =>
    rw [withoutImports, ofStatement, ofStatement, docsOf_eachWithoutImports,
      ofStatements_withoutImports policy source _ body, emit_of_kindOf policy, emit_of_kindOf .excludeImports]
  | compound body orElse finally_ handlers cases =>
    rw [withoutImports, ofStatement, ofStatement, ofStatements_withoutImports policy source s body,
      ofStatements_withoutImports policy source s orElse, ofStatements_withoutImports policy source s finally_,
      ofBlocks_withoutImports policy source s handlers, ofBlocks_withoutImports policy source s cases]
  | textual value => rfl
  | other => rfl

/-- So it is over several statements. -/
theorem ofStatements_withoutImports (policy : Policy) (source : Text) (s : Surroundings) (body : List Statement) :
    ofStatements policy source s (eachWithoutImports body) = ofStatements .excludeImports source s body := by
  cases body with
  | nil => rfl
  | cons t rest =>
    rw [eachWithoutImports, ofStatements, ofStatements, ofStatement_withoutImports policy source s t,
      ofStatements_withoutImports policy source s rest]

/-- So it is over several blocks. -/
theorem ofBlocks_withoutImports (policy : Policy) (source : Text) (s : Surroundings)
    (blocks : List (List Statement)) :
    ofBlocks policy source s (blocksWithoutImports blocks) = ofBlocks .excludeImports source s blocks := by
  cases blocks with
  | nil => rfl
  | cons body rest =>
    rw [blocksWithoutImports, ofBlocks, ofBlocks, ofStatements_withoutImports policy source s body,
      ofBlocks_withoutImports policy source s rest]

end

end Extraction

/-! ## Chunks of files -/

/-- To leave imports out is to filter: without imports there are extracted the chunks that are extracted with them and
are none of an import, as they are and in their order. They are what every policy extracts from the tree in which
nothing but the imports has been replaced. -/
theorem extract_excludeImports (path : Path) (source : Text) :
    extract .excludeImports path source = (extract .includeAll path source).filter (fun c => !c.isImport)
      ∧ ∀ policy, extract .excludeImports path source = if isRead path then
        match parse? source with
        | some statements => Extraction.ofStatements policy source .top (eachWithoutImports statements)
        | none => []
      else [] := by
  refine ⟨?_, fun policy => ?_⟩
  · rw [extract, extract]
    split
    · cases parse? source with
      | none => rfl
      | some statements => exact Extraction.ofStatements_excludeImports source .top statements
    · rfl
  · rw [extract]
    split
    · cases parse? source with
      | none => rfl
      | some statements => exact (Extraction.ofStatements_withoutImports policy source .top statements).symm
    · rfl

/-- Were an import taken away altogether, a string behind it would become documentation. -/
example : Entity.docsOf (eachWithoutImports [.imports false ⟨0, 9⟩, .textual "no documentation"]) = none := rfl

end SourceAtlas
