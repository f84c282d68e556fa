import Mathlib.Data.List.Basic
import SourceAtlas.Proofs.Entity.Walk
import SourceAtlas.Proofs.Source.Layout

/-!
Entities and their statements. What an entity is can be told from its statement and from the definitions around it,
and the entities of a source are those of its statements in the order of visits. So every import and every
definition, in whatever blocks it stands, gives one entity, and nothing else gives any.

Main statements: `Entity.ofStatement_eq_filterMap`, `extract_eq_map_located`, `extract_includeAll`.
-/

namespace SourceAtlas

open Source

namespace Source.Statement

/-! ## Surrounding definitions -/

/-- The form and the name of a definition. -/
def signature? : Statement → Option (Definition × Text)
  | .definition form name _ _ => some (form, name)
  | _ => none

/-- The definitions around the statement at an address, the outermost first: those at the beginnings of it. -/
def around (root : Statement) (a : Address) : List (Definition × Text) :=
  (List.range a.length).filterMap fun n => (root.at? (a.take n)).bind signature?

@[simp]
theorem around_nil (root : Statement) : root.around [] = [] := rfl

/-- Around an address there is what is around the rest of it, seen from the child, and the root first of all. -/
theorem around_cons {s t : Statement} {d : Descent} (rest : Address) (h : s.child? d = some t) :
    s.around (d :: rest) = s.signature?.toList ++ t.around rest := by
  have hat : ∀ n, (s.at? ((d :: rest).take (n + 1))).bind signature? = (t.at? (rest.take n)).bind signature? := by
    intro n
    rw [List.take_succ_cons, at?, h]
    rfl
  rw [around, List.length_cons, List.range_succ_eq_map, List.filterMap_cons, List.filterMap_map]
  simp only [Function.comp_def, hat, List.take_zero, at?, Option.bind_some]
  cases s.signature? <;> rfl

/-- One step further, the statement that was come to is around as well. -/
theorem around_concat (root : Statement) (a : Address) (d : Descent) :
    root.around (a ++ [d]) = root.around a ++ ((root.at? a).bind signature?).toList := by
  rw [around, List.length_append, List.length_singleton, List.range_succ, List.filterMap_append]
  congr 1
  · refine List.filterMap_congr fun n hn => ?_
    rw [List.take_append_of_le_length (List.mem_range.1 hn).le]
  · rw [List.filterMap_cons, List.take_left]
    cases (root.at? a).bind signature? <;> rfl

end Source.Statement

namespace Entity

/-! ## Entities of statements -/

/-- The entity of a statement, by the definitions around it. -/
def of? (around : List (Definition × Text)) : Statement → Option Entity
  | .imports fromModule span =>
    some ⟨if fromModule then .importingFrom else .importing, span, none, around.map Prod.snd⟩
  | .definition .classDefinition _ span body => some ⟨.classKind, span, docsOf body, around.map Prod.snd⟩
  | .definition .functionDefinition _ span body =>
    some ⟨if around.getLast?.map Prod.fst = some .classDefinition then .method else .function, span, docsOf body,
      around.map Prod.snd⟩
  | _ => none

/-- The surroundings that definitions make up. -/
def Surroundings.of (around : List (Definition × Text)) : Surroundings :=
  ⟨around.map Prod.snd, around.getLast?.map Prod.fst = some .classDefinition⟩

/-- To go into a definition is to put it behind those around. -/
theorem Surroundings.within_of (around : List (Definition × Text)) (form : Definition) (name : Text) :
    (Surroundings.of around).within form name = .of (around ++ [(form, name)]) := by
  simp [Surroundings.of, Surroundings.within]

/-- The entities of a block are those of its statements, in turn. -/
theorem ofStatements_eq_flatMap (s : Surroundings) (block : List Statement) :
    ofStatements s block = block.flatMap (ofStatement s) := by
  induction block with
  | nil => rfl
  | cons statement rest ih => rw [ofStatements, ih, List.flatMap_cons]

/-- The entities of blocks are those of each, in turn. -/
theorem ofBlocks_eq_flatMap (s : Surroundings) (blocks : List (List Statement)) :
    ofBlocks s blocks = blocks.flatMap fun block => block.flatMap (ofStatement s) := by
  induction blocks with
  | nil => rfl
  | cons block rest ih => rw [ofBlocks, ih, List.flatMap_cons, ofStatements_eq_flatMap]

theorem flatMap_zipIdx {α β : Type} (list : List α) (f : α → List β) :
    (list.zipIdx.flatMap fun x => f x.1) = list.flatMap f := by
  conv_rhs => rw [← List.zipIdx_map_fst 0 list, List.flatMap_map]

/-- What is done for all children is done block by block. -/
theorem flatMap_children {β : Type} (s : Statement) (f : Statement → List β) :
    (s.children.flatMap fun c => f c.2) = s.branches.flatMap fun b => b.2.flatMap f := by
  rw [Statement.children, List.flatMap_assoc]
  congr 1
  funext b
  rw [List.flatMap_map, flatMap_zipIdx]

/-- The entities of a statement are its own, if it has one, and those of the statements one step down. -/
theorem ofStatement_eq (around : List (Definition × Text)) (s : Statement) :
    ofStatement (.of around) s
      = (of? around s).toList ++ s.children.flatMap fun c => ofStatement (.of (around ++ s.signature?.toList)) c.2 := by
  rw [flatMap_children]
  cases s with
  | imports fromModule span => rfl
  | definition form name span body =>
    rw [ofStatement, ofStatements_eq_flatMap, Surroundings.within_of]
    have hkind : (if (Surroundings.of around).inClass then EntityKind.method else EntityKind.function)
        = if around.getLast?.map Prod.fst = some .classDefinition then .method else .function := by
      by_cases hlast : around.getLast?.map Prod.fst = some .classDefinition <;> simp [Surroundings.of, hlast]
    cases form with
    | classDefinition => simp [of?, kindOf, Surroundings.of, Statement.branches, Statement.signature?]
    | functionDefinition =>
      rw [kindOf, hkind]
      simp [of?, Surroundings.of, Statement.branches, Statement.signature?]
  | compound body orElse finally_ handlers cases =>
    rw [ofStatement]
    simp only [ofStatements_eq_flatMap, ofBlocks_eq_flatMap]
    simp [of?, Statement.branches, Statement.signature?, List.flatMap_map, flatMap_zipIdx]
  | textual value => rfl
  | other => rfl

/-- The entity at an address, by its statement and the definitions around it. -/
def at? (root : Statement) (a : Address) : Option Entity := (root.at? a).bind (of? (root.around a))

/-- The entities of a statement are those at the addresses below it, in the order of visits. -/
theorem ofStatement_eq_filterMap (outer : List (Definition × Text)) (s : Statement) :
    ofStatement (.of outer) s = s.addresses.filterMap fun a => (s.at? a).bind (of? (outer ++ s.around a)) := by
  induction s using Statement.induction_on_children generalizing outer with
  | h s ih =>
    have hchildren : (s.children.flatMap fun c => ofStatement (.of (outer ++ s.signature?.toList)) c.2)
        = s.children.flatMap fun c => (c.2.addresses.map (c.1 :: ·)).filterMap fun a =>
            (s.at? a).bind (of? (outer ++ s.around a)) := by
      refine List.flatMap_congr fun c hc => ?_
      have hchild := Statement.mem_children_iff.1 hc
      rw [ih c.1 c.2 hchild, List.filterMap_map]
      refine List.filterMap_congr fun a _ => ?_
      rw [Function.comp_apply, Statement.at?, hchild, Option.bind_some, Statement.around_cons a hchild,
        List.append_assoc]
    rw [ofStatement_eq, hchildren, Statement.addresses_eq, List.filterMap_cons, List.filterMap_flatMap]
    simp only [Statement.at?, Option.bind_some, Statement.around_nil, List.append_nil]
    cases of? outer s <;> rfl

/-- An entity has the span of its statement, and the names around as its parents. -/
theorem of?_eq_some {around : List (Definition × Text)} {s : Statement} {e : Entity} (h : of? around s = some e) :
    s.span? = some e.span ∧ e.parents = around.map Prod.snd := by
  cases s with
  | imports fromModule span =>
    obtain rfl := Option.some.inj h
    exact ⟨rfl, rfl⟩
  | definition form name span body =>
    cases form <;> (obtain rfl := Option.some.inj h; exact ⟨rfl, rfl⟩)
  | _ => cases h

/-- An entity at an address is that of the statement there, within those around. -/
theorem at?_eq_some_iff {root : Statement} {a : Address} {e : Entity} :
    at? root a = some e ↔ ∃ t, root.at? a = some t ∧ of? (root.around a) t = some e := by
  rw [at?, Option.bind_eq_some_iff]

end Entity

/-! ## Entities of sources -/

/-- The syntax tree of a source as one statement. A source with an error has an empty one. -/
def Source.treeOf (source : Text) : Statement := .compound ((parse? source).getD []) [] [] [] []

/-- The entities of a file that a policy keeps, each with the address of its statement, in the order of visits. -/
def located (policy : Policy) (path : Path) (source : Text) : List (Address × Entity) :=
  if isRead path then
    (treeOf source).addresses.filterMap fun a =>
      ((Entity.at? (treeOf source) a).filter fun e => policy.includes e.kind.name).map (a, ·)
  else []

section

variable {policy : Policy} {path : Path} {source : Text} {a : Address} {e : Entity}

/-- What is located is what is at an address and left by the policy. -/
theorem mem_located_iff : (a, e) ∈ located policy path source ↔
    isRead path = true ∧ policy.includes e.kind.name = true ∧ Entity.at? (treeOf source) a = some e := by
  unfold located
  split
  · rename_i hread
    rw [List.mem_filterMap]
    constructor
    · rintro ⟨b, -, h⟩
      obtain ⟨f, hf, heq⟩ := Option.map_eq_some_iff.1 h
      obtain ⟨rfl, rfl⟩ := Prod.mk.inj heq
      obtain ⟨hf, hincludes⟩ := Option.filter_eq_some_iff.1 hf
      exact ⟨hread, hincludes, hf⟩
    · rintro ⟨-, hincludes, he⟩
      obtain ⟨t, ht, -⟩ := Entity.at?_eq_some_iff.1 he
      refine ⟨a, Statement.mem_addresses_iff.2 ⟨t, ht⟩, ?_⟩
      rw [Option.filter_eq_some_iff.2 ⟨he, hincludes⟩]
      rfl
  · rename_i hread
    simp [hread]

/-- The entities of a file are located in the order of their addresses. -/
theorem pairwise_located (policy : Policy) (path : Path) (source : Text) :
    (located policy path source).Pairwise fun x y => x.1.Precedes Branch.visitRank y.1 := by
  unfold located
  split
  · refine List.Pairwise.filterMap _ ?_ (treeOf source).pairwise_addresses
    intro a b hab x hx y hy
    obtain ⟨-, -, rfl⟩ := Option.map_eq_some_iff.1 hx
    obtain ⟨-, -, rfl⟩ := Option.map_eq_some_iff.1 hy
    exact hab
  · exact .nil

/-- The entities of a source are those at the addresses, in their order. -/
theorem entities_eq_filterMap (source : Text) :
    entities source = (treeOf source).addresses.filterMap (Entity.at? (treeOf source)) := by
  have htop : entities source = Entity.ofStatement (.of []) (treeOf source) := by
    unfold entities treeOf
    cases parse? source with
    | none => rfl
    | some statements =>
      simp only [Entity.ofStatement, Entity.ofStatements, Entity.ofBlocks, List.append_nil, Option.getD_some]
      rfl
  rw [htop, Entity.ofStatement_eq_filterMap]
  rfl

/-! ## Places -/

/-- The tree of a source lies within the source. -/
theorem Source.lies_treeOf (source : Text) : (treeOf source).Lies 0 ((items source).length + 1) := by
  have hbody : Statement.BlockLies 0 ((items source).length + 1) ((parse? source).getD []) := by
    cases h : parse? source with
    | none => exact Nat.zero_le _
    | some statements => exact lies_of_parse? h
  exact Statement.lies_of_body_orElse hbody le_rfl

/-- The span of an entity lies in its source. -/
theorem Entity.within_of_at? (h : Entity.at? (treeOf source) a = some e) :
    e.span.Within 0 ((items source).length + 1) := by
  obtain ⟨t, ht, he⟩ := Entity.at?_eq_some_iff.1 h
  exact ((lies_treeOf source).of_at? ht).within (Entity.of?_eq_some he).1

/-- There is text at the place of every entity. -/
theorem Entity.slice_ne_nil_of_at? (h : Entity.at? (treeOf source) a = some e) : slice source e.span ≠ [] :=
  slice_ne_nil (Entity.within_of_at? h)

/-- No entity is an empty piece of the source. -/
theorem Entity.slice_ne_nil_of_mem_entities {e : Entity} (h : e ∈ entities source) : slice source e.span ≠ [] := by
  rw [entities_eq_filterMap] at h
  obtain ⟨a, -, he⟩ := List.mem_filterMap.1 h
  exact slice_ne_nil_of_at? he

/-- A file that is read has the chunks of those of its entities that the policy keeps. -/
theorem mem_extract_iff {policy : Policy} {path : Path} {source : Text} {c : Chunk} :
    c ∈ extract policy path source ↔ isRead path = true
      ∧ ∃ e ∈ entities source, policy.includes e.kind.name = true ∧ c = e.toChunk source := by
  rw [extract_eq_flatMap]
  split
  · next hread =>
    simp only [List.mem_flatMap, Extraction.mem_emit_iff, hread, true_and]
    constructor
    · rintro ⟨e, he, hkept, -, hc⟩
      exact ⟨e, he, hkept, hc⟩
    · rintro ⟨e, he, hkept, hc⟩
      exact ⟨e, he, hkept, Entity.slice_ne_nil_of_mem_entities he, hc⟩
  · next hread => simp [hread]

/-- The chunks of a file are those of its located entities. -/
theorem extract_eq_map_located (policy : Policy) (path : Path) (source : Text) :
    extract policy path source = (located policy path source).map fun x => x.2.toChunk source := by
  rw [extract_eq_flatMap, located]
  split
  · rw [entities_eq_filterMap, List.map_filterMap, List.filterMap_eq_flatMap_toList, List.filterMap_eq_flatMap_toList,
      List.flatMap_assoc]
    refine List.flatMap_congr fun a _ => ?_
    cases h : Entity.at? (treeOf source) a with
    | none => rfl
    | some e =>
      rw [Option.toList_some, List.flatMap_singleton, Option.filter_some,
        Extraction.emit_of_slice_ne_nil policy (Entity.slice_ne_nil_of_at? h)]
      split <;> rfl
  · rfl

/-- Extraction without a filter is exact: the chunks are those of the imports, classes and functions of the source,
one for each of their addresses, and each with the kind, the documentation, the parents and the text that belong to
the statement there. No such text is empty. -/
theorem extract_includeAll (path : Path) (source : Text) :
    extract .includeAll path source = (located .includeAll path source).map (fun x => x.2.toChunk source)
    ∧ ((located .includeAll path source).map Prod.fst).Nodup
    ∧ (∀ a e, (a, e) ∈ located .includeAll path source ↔
        isRead path = true ∧ Entity.at? (treeOf source) a = some e)
    ∧ ∀ x ∈ located .includeAll path source, slice source x.2.span ≠ [] := by
  refine ⟨extract_eq_map_located _ path source, ?_, ?_, ?_⟩
  · exact List.pairwise_map.2 ((pairwise_located _ path source).imp Address.Precedes.ne)
  · intro a e
    simp [mem_located_iff, Policy.includes]
  · rintro ⟨a, e⟩ hx
    obtain ⟨-, -, he⟩ := mem_located_iff.1 hx
    exact Entity.slice_ne_nil_of_at? he

end

end SourceAtlas
