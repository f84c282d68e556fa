import Mathlib.Data.List.Chain
import Mathlib.Data.List.Induction
import SourceAtlas.Proofs.Entity.Location

/-!
How entities lie to each other. An entity holds those whose statements are below its own, and has nothing in common
with any other. The entities of a file come in the order of visits, in which an entity follows those around it: so
every entity has one around it earlier in the list unless it is at the top, and the depth never jumps. The order is
that of the source as well, except around the handlers of a statement.

Main statements: `extract_wellNested`, `extract_source_order`.
-/

namespace SourceAtlas

open Source

/-! ## Surrounding entities -/

namespace Source.Statement

variable {root : Statement} {a b : Address}

/-- The last of the definitions around a statement stands at a beginning of its address, inside all the others. -/
theorem around_eq_nil_or (root : Statement) (a : Address) : root.around a = [] ∨ ∃ b d rest signature,
    a = b ++ d :: rest ∧ (root.at? b).bind signature? = some signature
      ∧ root.around a = root.around b ++ [signature] := by
  induction a using List.reverseRecOn with
  | nil => exact .inl rfl
  | append_singleton a d ih =>
    rw [around_concat]
    cases hsignature : (root.at? a).bind signature? with
    | some signature => exact .inr ⟨a, d, [], signature, rfl, hsignature, rfl⟩
    | none =>
      rw [Option.toList_none, List.append_nil]
      refine ih.imp_right ?_
      rintro ⟨b, e, rest, signature, rfl, hb, heq⟩
      exact ⟨b, e, rest ++ [d], signature, by simp, hb, heq⟩

/-- A definition is around everything below it. -/
theorem around_prefix {signature : Definition × Text} (h : (root.at? b).bind signature? = some signature)
    (d : Descent) (rest : Address) : root.around b ++ [signature] <+: root.around (b ++ d :: rest) := by
  induction rest using List.reverseRecOn with
  | nil =>
    rw [around_concat, h]
    exact List.prefix_rfl
  | append_singleton rest e ih =>
    rw [← List.cons_append, ← List.append_assoc, around_concat]
    exact ih.trans (List.prefix_append _ _)

end Source.Statement

/-- The kinds of entities that can stand around others. -/
def EntityKind.isDefinition : EntityKind → Bool
  | .classKind => true
  | .function => true
  | .method => true
  | _ => false

/-- No policy leaves definitions out. -/
theorem Policy.includes_of_isDefinition (policy : Policy) {kind : EntityKind} (h : kind.isDefinition = true) :
    policy.includes kind.name = true := by
  cases kind with
  | importing => cases h
  | importingFrom => cases h
  | _ => cases policy <;> decide +kernel

namespace Entity

variable {root : Statement} {a b : Address} {e f : Entity} {lo hi : Nat}

/-- A statement with a signature is a definition, and an entity. -/
theorem exists_at?_of_signature {signature : Definition × Text}
    (h : (root.at? a).bind Statement.signature? = some signature) :
    ∃ e, at? root a = some e ∧ e.kind.isDefinition = true := by
  obtain ⟨t, ht, hsignature⟩ := Option.bind_eq_some_iff.1 h
  cases t with
  | definition form name span body =>
    cases form with
    | classDefinition => exact ⟨_, at?_eq_some_iff.2 ⟨_, ht, rfl⟩, rfl⟩
    | functionDefinition =>
      refine ⟨_, at?_eq_some_iff.2 ⟨_, ht, rfl⟩, ?_⟩
      dsimp only
      split <;> rfl
  | _ => cases hsignature

/-- The parents of an entity are the names around its address. -/
theorem parents_eq_of_at? (h : at? root a = some e) : e.parents = (root.around a).map Prod.snd := by
  obtain ⟨t, -, ht⟩ := at?_eq_some_iff.1 h
  exact (of?_eq_some ht).2

/-- The depth of an entity is the number of definitions around it. -/
theorem length_parents_of_at? (h : at? root a = some e) : e.parents.length = (root.around a).length := by
  rw [parents_eq_of_at? h, List.length_map]

/-! ## Spans -/

/-- An entity ends behind its start. -/
theorem start_lt_stop_of_at? (hroot : root.Lies lo hi) (h : at? root a = some e) : e.span.start < e.span.stop := by
  obtain ⟨t, ht, he⟩ := at?_eq_some_iff.1 h
  have hwithin := (hroot.of_at? ht).within (of?_eq_some he).1
  unfold Span.Within at hwithin
  omega

/-- An entity holds those below it. -/
theorem encloses_of_at? {d : Descent} {rest : Address} (hroot : root.Lies lo hi) (he : at? root a = some e)
    (hf : at? root (a ++ d :: rest) = some f) : e.span.Encloses f.span := by
  obtain ⟨t, ht, he⟩ := at?_eq_some_iff.1 he
  obtain ⟨u, hu, hf⟩ := at?_eq_some_iff.1 hf
  rw [Statement.at?_append, ht, Option.bind_some] at hu
  exact (hroot.of_at? ht).encloses_of_at? (of?_eq_some he).1 hu (of?_eq_some hf).1

/-- Where two addresses part, the entity that stands first in the source ends before the other begins. -/
theorem stop_le_start_of_part (hroot : root.Lies lo hi)
    (hpart : Address.Part (Descent.Precedes Branch.sourceRank) a b) (he : at? root a = some e)
    (hf : at? root b = some f) : e.span.stop ≤ f.span.start := by
  obtain ⟨t, ht, he⟩ := at?_eq_some_iff.1 he
  obtain ⟨u, hu, hf⟩ := at?_eq_some_iff.1 hf
  exact hroot.stop_le_start_of_part hpart ht hu (of?_eq_some he).1 (of?_eq_some hf).1

/-- Of two entities in the order of visits, the first holds the other, or stands before it, or else they are swapped
and it stands behind it. -/
theorem span_cases (hroot : root.Lies lo hi) (hab : a.Precedes Branch.visitRank b) (he : at? root a = some e)
    (hf : at? root b = some f) :
    a <+: b ∧ e.span.Encloses f.span
      ∨ ¬ a <+: b ∧ (e.span.stop ≤ f.span.start ∨ a.Swapped b ∧ f.span.stop ≤ e.span.start) := by
  rcases hab.source_or_swapped with hsource | hswapped
  · rcases hsource.prefix_or_part with ⟨d, rest, rfl⟩ | hpart
    · exact .inl ⟨List.prefix_append _ _, encloses_of_at? hroot he hf⟩
    · exact .inr ⟨hpart.not_prefix (Descent.not_precedes_self _), .inl (stop_le_start_of_part hroot hpart he hf)⟩
  · exact .inr ⟨hswapped.not_prefix, .inr ⟨hswapped, stop_le_start_of_part hroot hswapped.part hf he⟩⟩

end Entity

/-! ## Lists of entities -/

/-- One of two spans holds the other. -/
def Source.Span.Nested (s t : Span) : Prop :=
  s.start ≤ t.start ∧ t.stop ≤ s.stop ∨ t.start ≤ s.start ∧ s.stop ≤ t.stop

/-- Entities in a source are listed as they are nested. -/
structure WellNested (source : Text) (entities : List (Address × Entity)) : Prop where
  /-- Around an entity with parents there is a definition, which comes earlier in the list. -/
  holder : ∀ front x back, entities = front ++ x :: back → x.2.parents ≠ [] →
    ∃ y ∈ front, y.2.kind.isDefinition = true ∧ y.2.parents = x.2.parents.dropLast
      ∧ y.2.span.Encloses x.2.span ∧ slice source x.2.span <:+: slice source y.2.span
  /-- Two entities have nothing in common unless one holds the other. -/
  apart_iff : entities.Pairwise fun x y => x.2.span.Apart y.2.span ↔ ¬ x.2.span.Nested y.2.span
  /-- One entity holds another one exactly if their statements do. -/
  nested_iff : entities.Pairwise fun x y => x.2.span.Nested y.2.span ↔ x.1 <+: y.1 ∨ y.1 <+: x.1
  /-- The list begins at the top. -/
  top : ∀ x, entities.head? = some x → x.2.parents = []
  /-- The depth grows by one at most. -/
  steady : entities.IsChain fun x y => y.2.parents.length ≤ x.2.parents.length + 1

section

variable {policy : Policy} {path : Path} {source : Text} {front back : List (Address × Entity)}
  {x y : Address × Entity}

/-- What is located is the entity at its address. -/
theorem at?_of_mem (h : x ∈ located policy path source) : Entity.at? (treeOf source) x.1 = some x.2 :=
  (mem_located_iff.1 h).2.2

/-- What is visited before an entity is listed before it. -/
theorem mem_front_of_precedes (hsplit : located policy path source = front ++ x :: back)
    (hy : y ∈ located policy path source) (hyx : y.1.Precedes Branch.visitRank x.1) : y ∈ front := by
  have hpairwise := pairwise_located policy path source
  rw [hsplit] at hy hpairwise
  rcases List.mem_append.1 hy with hy | hy
  · exact hy
  · exfalso
    rcases List.mem_cons.1 hy with rfl | hy
    · exact hyx.ne rfl
    · exact ((List.pairwise_cons.1 (List.pairwise_append.1 hpairwise).2.1).1 y hy).asymm hyx

/-- An entity with parents is located behind the one that it is directly in. -/
theorem exists_holder (hsplit : located policy path source = front ++ x :: back) (hparents : x.2.parents ≠ []) :
    ∃ y ∈ front, ∃ d rest signature, x.1 = y.1 ++ d :: rest
      ∧ ((treeOf source).at? y.1).bind Statement.signature? = some signature
      ∧ y.2.kind.isDefinition = true ∧ y.2.parents = x.2.parents.dropLast := by
  have hmem : x ∈ located policy path source := by simp [hsplit]
  obtain ⟨hread, -, hx⟩ := mem_located_iff.1 hmem
  have hxparents := Entity.parents_eq_of_at? hx
  rcases (treeOf source).around_eq_nil_or x.1 with hnil | ⟨b, d, rest, signature, hb, hsignature, haround⟩
  · rw [hxparents, hnil] at hparents
    exact absurd rfl hparents
  · obtain ⟨e, he, hkind⟩ := Entity.exists_at?_of_signature hsignature
    have hy : (b, e) ∈ located policy path source :=
      mem_located_iff.2 ⟨hread, policy.includes_of_isDefinition hkind, he⟩
    have hbefore : Address.Precedes Branch.visitRank b x.1 := hb ▸ Address.precedes_append b d rest
    refine ⟨(b, e), mem_front_of_precedes hsplit hy hbefore, d, rest, signature, hb, hsignature, hkind, ?_⟩
    rw [Entity.parents_eq_of_at? he, hxparents, haround, List.map_append, List.map_singleton, List.dropLast_concat]

/-- The depth of an entity exceeds that of the one before it by one at most. -/
theorem length_parents_le (hsplit : located policy path source = front ++ x :: y :: back) :
    y.2.parents.length ≤ x.2.parents.length + 1 := by
  by_cases hparents : y.2.parents = []
  · simp [hparents]
  · have hsplit' : located policy path source = (front ++ [x]) ++ y :: back := by simp [hsplit]
    obtain ⟨z, hz, d, rest, signature, haddress, hsignature, -, hdrop⟩ := exists_holder hsplit' hparents
    have hlength : z.2.parents.length = y.2.parents.length - 1 := by rw [hdrop, List.length_dropLast]
    rcases List.mem_append.1 hz with hz | hz
    -- an entity around the later one that comes before the earlier one is around that one as well
    · have hpairwise := pairwise_located policy path source
      rw [hsplit, List.pairwise_append] at hpairwise
      obtain ⟨-, hback, hfront⟩ := hpairwise
      have hzx := hfront z hz x (by simp)
      have hxy := (List.pairwise_cons.1 hback).1 y (by simp)
      obtain ⟨more, hmore⟩ := Address.prefix_of_precedes hzx hxy (haddress ▸ List.prefix_append _ _)
      have hx : Entity.at? (treeOf source) x.1 = some x.2 := at?_of_mem (by rw [hsplit]; simp)
      have hz : Entity.at? (treeOf source) z.1 = some z.2 :=
        at?_of_mem (by rw [hsplit]; exact List.mem_append_left _ hz)
      cases more with
      | nil => exact absurd (by simpa using hmore) hzx.ne
      | cons step more =>
        have hle := (Statement.around_prefix hsignature step more).length_le
        rw [hmore, List.length_append, List.length_singleton] at hle
        have hxlength := Entity.length_parents_of_at? hx
        have hzlength := Entity.length_parents_of_at? hz
        omega
    · obtain rfl := List.mem_singleton.1 hz
      omega

/-- Of two located entities the spans are nested if their addresses are, and apart otherwise. -/
theorem pairwise_span_cases (policy : Policy) (path : Path) (source : Text) :
    (located policy path source).Pairwise fun x y => x.2.span.start < x.2.span.stop ∧ y.2.span.start < y.2.span.stop
      ∧ (x.1 <+: y.1 ∧ x.2.span.Encloses y.2.span
        ∨ ¬ x.1 <+: y.1 ∧ (x.2.span.stop ≤ y.2.span.start ∨ x.1.Swapped y.1 ∧ y.2.span.stop ≤ x.2.span.start)) := by
  refine (pairwise_located policy path source).imp_of_mem ?_
  intro x y hx hy hxy
  have hroot := lies_treeOf source
  have hx := at?_of_mem hx
  have hy := at?_of_mem hy
  exact ⟨Entity.start_lt_stop_of_at? hroot hx, Entity.start_lt_stop_of_at? hroot hy,
    Entity.span_cases hroot hxy hx hy⟩

end

/-- The chunks of a file are listed as they are nested in it: around an inner one there is an outer one that comes
earlier and holds its text, any two are apart unless the statement of one holds that of the other, and the depth
begins with none and grows by one at most. -/
theorem extract_wellNested (policy : Policy) (path : Path) (source : Text) :
    extract policy path source = (located policy path source).map (fun x => x.2.toChunk source)
    ∧ WellNested source (located policy path source) := by
  have hcases := pairwise_span_cases policy path source
  have hpairwise := pairwise_located policy path source
  refine ⟨extract_eq_map_located policy path source, ?_, ?_, ?_, ?_, ?_⟩
  · intro front x back hsplit hparents
    obtain ⟨y, hy, d, rest, signature, haddress, -, hkind, hdrop⟩ := exists_holder hsplit hparents
    have hx : x ∈ located policy path source := by simp [hsplit]
    have hymem : y ∈ located policy path source := hsplit ▸ List.mem_append_left _ hy
    have hencloses := Entity.encloses_of_at? (lies_treeOf source) (at?_of_mem hymem) (haddress ▸ at?_of_mem hx)
    exact ⟨y, hy, hkind, hdrop, hencloses, hencloses.slice_infix source⟩
  · refine hcases.imp ?_
    rintro x y ⟨hx, hy, hxy⟩
    unfold Span.Encloses at hxy
    unfold Span.Apart Span.Nested
    omega
  · refine (hcases.and hpairwise).imp ?_
    rintro x y ⟨⟨hx, hy, hxy⟩, hprecedes⟩
    rw [or_iff_left hprecedes.not_prefix]
    rcases hxy with ⟨hwithin, hle⟩ | ⟨hwithin, hapart⟩
    · refine iff_of_true ?_ hwithin
      unfold Span.Encloses at hle
      unfold Span.Nested
      omega
    · refine iff_of_false ?_ hwithin
      unfold Span.Nested
      omega
  · intro x hx
    by_contra hparents
    obtain ⟨back, hback⟩ := List.head?_eq_some_iff.1 hx
    have hsplit : located policy path source = [] ++ x :: back := hback
    obtain ⟨y, hy, -⟩ := exists_holder hsplit hparents
    cases hy
  · exact List.isChain_iff_forall_rel_of_append_cons_cons.2 fun {x y front back} hsplit => length_parents_le hsplit

/-- The chunks of a file come in the order of the source, but for one thing: those in what follows the `else` or the
`finally` of a statement come before those in its handlers, though they stand behind them. The places where they start
increase along the list exactly if no statement has chunks in both. -/
theorem extract_source_order (policy : Policy) (path : Path) (source : Text) :
    extract policy path source = (located policy path source).map (fun x => x.2.toChunk source)
    ∧ (located policy path source).Pairwise (fun x y =>
        (x.1.Swapped y.1 → y.2.span.start < x.2.span.start) ∧ (¬ x.1.Swapped y.1 → x.2.span.start < y.2.span.start))
    ∧ (((located policy path source).map fun x => x.2.span.start).Pairwise (· < ·) ↔
        ∀ x ∈ located policy path source, ∀ y ∈ located policy path source, ¬ x.1.Swapped y.1) := by
  have horder : (located policy path source).Pairwise fun x y =>
      (x.1.Swapped y.1 → y.2.span.start < x.2.span.start)
        ∧ (¬ x.1.Swapped y.1 → x.2.span.start < y.2.span.start) := by
    refine ((pairwise_span_cases policy path source).imp_of_mem ?_)
    intro x y hx hy ⟨hxspan, hyspan, hxy⟩
    constructor
    · intro hswapped
      have hle := Entity.stop_le_start_of_part (lies_treeOf source) hswapped.part (at?_of_mem hy) (at?_of_mem hx)
      omega
    · intro hnot
      rcases hxy with ⟨-, hencloses⟩ | ⟨-, hle | ⟨hswapped, -⟩⟩
      · exact hencloses.1
      · omega
      · exact absurd hswapped hnot
  refine ⟨extract_eq_map_located policy path source, horder, ?_⟩
  rw [List.pairwise_map]
  constructor
  · intro hincreasing x hx y hy hswapped
    obtain ⟨front, back, hsplit⟩ := List.append_of_mem hy
    have hbefore := mem_front_of_precedes hsplit hx hswapped.precedes
    rw [hsplit, List.pairwise_append] at hincreasing horder
    have hlt := hincreasing.2.2 x hbefore y List.mem_cons_self
    have hgt := (horder.2.2 x hbefore y List.mem_cons_self).1 hswapped
    omega
  · intro hnone
    refine horder.imp_of_mem ?_
    rintro x y hx hy ⟨-, hlt⟩
    exact hlt (hnone x hx y hy)

end SourceAtlas
