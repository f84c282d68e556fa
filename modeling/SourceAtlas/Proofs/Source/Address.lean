import Mathlib.Data.List.Lex
import SourceAtlas.Source.Tree

/-!
Addresses of statements. A statement below another one is told by the steps that lead down to it, each into a
block and to an index in it. The statements around it are those at the beginnings of its address. Two orders of
addresses matter: the order in which blocks are visited, and the order in which they stand in the source. They
differ in one point alone, since the handlers of a statement are visited last and stand before what follows
its `else` and its `finally`.

Main statements: `Statement.mem_addresses_iff`, `Statement.pairwise_addresses`, `Address.Precedes.source_or_swapped`.
-/

namespace SourceAtlas.Source

/-! ## Addresses -/

/-- A block of a statement. -/
inductive Branch where
  | body
  | orElse
  | finally_
  | handler (number : Nat)
  | case_ (number : Nat)
deriving DecidableEq, Repr

/-- One step down from a statement: a block, and the index of a statement in it. -/
structure Descent where
  branch : Branch
  index : Nat
deriving DecidableEq, Repr

/-- Where a statement stands below another one: the steps down to it. -/
abbrev Address := List Descent

namespace Statement

/-- The block of a statement, if it has such a block. -/
def block? : Statement → Branch → Option (List Statement)
  | .definition _ _ _ body, .body => some body
  | .compound body _ _ _ _, .body => some body
  | .compound _ orElse _ _ _, .orElse => some orElse
  | .compound _ _ finally_ _ _, .finally_ => some finally_
  | .compound _ _ _ handlers _, .handler number => handlers[number]?
  | .compound _ _ _ _ cases, .case_ number => cases[number]?
  | _, _ => none

/-- The statement one step down. -/
def child? (s : Statement) (d : Descent) : Option Statement := (s.block? d.branch).bind (·[d.index]?)

/-- The statement at an address. -/
def at? (s : Statement) : Address → Option Statement
  | [] => some s
  | d :: rest => (s.child? d).bind (at? · rest)

/-- What stands at an address is found step by step. -/
theorem at?_append (s : Statement) (a b : Address) : s.at? (a ++ b) = (s.at? a).bind (at? · b) := by
  induction a generalizing s with
  | nil => rfl
  | cons d rest ih =>
    rw [List.cons_append, at?, at?, Option.bind_assoc]
    congr 1
    funext t
    exact ih t

/-- The first step of an address leads to a child. -/
theorem at?_cons_eq_some_iff {s u : Statement} {d : Descent} {rest : Address} :
    s.at? (d :: rest) = some u ↔ ∃ t, s.child? d = some t ∧ t.at? rest = some u := by
  rw [at?, Option.bind_eq_some_iff]

/-! ## Children -/

/-- The blocks of a statement in the order in which they are visited. -/
def branches : Statement → List (Branch × List Statement)
  | .definition _ _ _ body => [(.body, body)]
  | .compound body orElse finally_ handlers cases =>
    [(.body, body), (.orElse, orElse), (.finally_, finally_)]
      ++ handlers.zipIdx.map (fun b => (.handler b.2, b.1)) ++ cases.zipIdx.map fun b => (.case_ b.2, b.1)
  | _ => []

/-- The statements one step down, each with its step, in the order in which they are visited. -/
def children (s : Statement) : List (Descent × Statement) :=
  s.branches.flatMap fun b => b.2.zipIdx.map fun t => (⟨b.1, t.2⟩, t.1)

/-- The branches of a statement are those that it has a block for. -/
theorem mem_branches_iff {s : Statement} {branch : Branch} {block : List Statement} :
    (branch, block) ∈ s.branches ↔ s.block? branch = some block := by
  cases s <;> cases branch <;> simp [branches, block?, List.mem_zipIdx_iff_getElem?, eq_comm]

/-- The children of a statement are those that a descent leads to. -/
theorem mem_children_iff {s t : Statement} {d : Descent} : (d, t) ∈ s.children ↔ s.child? d = some t := by
  rw [children, List.mem_flatMap, child?, Option.bind_eq_some_iff]
  constructor
  · rintro ⟨⟨branch, block⟩, hblock, h⟩
    obtain ⟨⟨u, i⟩, hu, heq⟩ := List.mem_map.1 h
    obtain ⟨rfl, rfl⟩ := Prod.mk.inj heq
    exact ⟨block, mem_branches_iff.1 hblock, List.mem_zipIdx_iff_getElem?.1 hu⟩
  · rintro ⟨block, hblock, h⟩
    exact ⟨(d.branch, block), mem_branches_iff.2 hblock,
      List.mem_map.2 ⟨(t, d.index), List.mem_zipIdx_iff_getElem?.2 h, rfl⟩⟩

/-- A block of a statement is smaller than the statement. -/
theorem sizeOf_lt_of_block? {s : Statement} {branch : Branch} {block : List Statement}
    (h : s.block? branch = some block) : sizeOf block < sizeOf s := by
  cases s with
  | definition form name span body =>
    cases branch with
    | body =>
      obtain rfl := Option.some.inj h
      simp only [Statement.definition.sizeOf_spec]
      omega
    | _ => cases h
  | compound body orElse finally_ handlers cases =>
    simp only [Statement.compound.sizeOf_spec]
    cases branch with
    | handler number =>
      have hmem := List.sizeOf_lt_of_mem (List.mem_of_getElem? h)
      omega
    | case_ number =>
      have hmem := List.sizeOf_lt_of_mem (List.mem_of_getElem? h)
      omega
    | _ =>
      obtain rfl := Option.some.inj h
      omega
  | _ => cases branch <;> cases h

/-- What holds of a statement as soon as it holds of those one step down holds of every statement. -/
theorem induction_on_children {motive : Statement → Prop}
    (h : ∀ s, (∀ d t, s.child? d = some t → motive t) → motive s) (s : Statement) : motive s :=
  h s fun _ t _hchild => induction_on_children h t
termination_by sizeOf s
decreasing_by
  obtain ⟨block, hblock, hindex⟩ := Option.bind_eq_some_iff.1 _hchild
  exact (List.sizeOf_lt_of_mem (List.mem_of_getElem? hindex)).trans (sizeOf_lt_of_block? hblock)

end Statement

/-! ## Orders -/

namespace Branch

/-- Which blocks are visited first. -/
def visitRank : Branch → Nat
  | .body => 0
  | .orElse => 1
  | .finally_ => 2
  | .handler _ => 3
  | .case_ _ => 4

/-- Which blocks stand first in the source. -/
def sourceRank : Branch → Nat
  | .body => 0
  | .handler _ => 1
  | .orElse => 2
  | .finally_ => 3
  | .case_ _ => 4

/-- Handlers and cases are numbered. -/
def number : Branch → Nat
  | .handler number => number
  | .case_ number => number
  | _ => 0

/-- The order of blocks by a rank and then by their numbers. -/
def Precedes (rank : Branch → Nat) (b c : Branch) : Prop :=
  rank b < rank c ∨ rank b = rank c ∧ b.number < c.number

/-- The blocks that are visited before the handlers and stand behind them. -/
def isLate : Branch → Bool
  | .orElse => true
  | .finally_ => true
  | _ => false

/-- The blocks of handlers. -/
def isHandler : Branch → Bool
  | .handler _ => true
  | _ => false

/-- Two blocks of a statement are visited as they stand in the source, but for the handlers. -/
theorem Precedes.source {b c : Branch} (h : b.Precedes visitRank c) :
    b.Precedes sourceRank c ∨ b.isLate = true ∧ c.isHandler = true := by
  cases b <;> cases c <;> simp_all [Precedes, visitRank, sourceRank, number, isLate, isHandler]

/-- In the source a handler precedes what follows an else or a finally. -/
theorem precedes_of_isLate {b c : Branch} (hb : b.isLate = true) (hc : c.isHandler = true) :
    c.Precedes sourceRank b := by
  cases b <;> cases c <;> simp_all [Precedes, sourceRank, isLate, isHandler]

end Branch

/-- The order of steps by a rank of their blocks; in one block statements go by their indices. -/
def Descent.Precedes (rank : Branch → Nat) (d e : Descent) : Prop :=
  d.branch.Precedes rank e.branch ∨ d.branch = e.branch ∧ d.index < e.index

theorem Descent.not_precedes_self (rank : Branch → Nat) (d : Descent) : ¬ d.Precedes rank d := by
  simp [Descent.Precedes, Branch.Precedes]

/-- Of two descents at most one precedes the other. -/
theorem Descent.precedes_asymm {rank : Branch → Nat} {d e : Descent} (h : d.Precedes rank e) :
    ¬ e.Precedes rank d := by
  rintro (hback | ⟨hbranch, hback⟩)
  · rcases h with h | ⟨hbranch, -⟩
    · simp only [Branch.Precedes] at h hback
      omega
    · rw [hbranch] at hback
      simp [Branch.Precedes] at hback
  · rcases h with h | ⟨-, h⟩
    · rw [hbranch] at h
      simp [Branch.Precedes] at h
    · omega

namespace Address

/-- The order of addresses by a rank of blocks: a statement comes before those below it, and otherwise the first
steps that differ decide. -/
def Precedes (rank : Branch → Nat) : Address → Address → Prop := List.Lex (Descent.Precedes rank)

/-- Two addresses part at steps that are related so. -/
def Part (r : Descent → Descent → Prop) (a b : Address) : Prop :=
  ∃ front d e rest more, a = front ++ d :: rest ∧ b = front ++ e :: more ∧ r d e

/-- One address leads into what follows the `else` or the `finally` of a statement, and the other into a handler
of the same statement. -/
def Swapped : Address → Address → Prop := Part fun d e => d.branch.isLate = true ∧ e.branch.isHandler = true

variable {rank : Branch → Nat} {a b : Address}

theorem Part.cons {r : Descent → Descent → Prop} (d : Descent) (h : Part r a b) : Part r (d :: a) (d :: b) := by
  obtain ⟨front, x, y, rest, more, rfl, rfl, hxy⟩ := h
  exact ⟨d :: front, x, y, rest, more, rfl, rfl, hxy⟩

/-- Where two addresses part, neither leads to a statement around the other. -/
theorem Part.not_prefix {r : Descent → Descent → Prop} (hr : ∀ d, ¬ r d d) (h : Part r a b) : ¬ a <+: b := by
  obtain ⟨front, d, e, rest, more, rfl, rfl, hde⟩ := h
  rw [List.prefix_append_right_inj, List.cons_prefix_cons]
  rintro ⟨rfl, -⟩
  exact hr d hde

/-- Of two addresses in order the first leads to a statement around the other, or they part. -/
theorem Precedes.prefix_or_part (h : Precedes rank a b) :
    (∃ d rest, b = a ++ d :: rest) ∨ Part (Descent.Precedes rank) a b := by
  induction h with
  | nil => exact .inl ⟨_, _, rfl⟩
  | rel hde => exact .inr ⟨[], _, _, _, _, rfl, rfl, hde⟩
  | cons _ ih =>
    rcases ih with ⟨d, rest, rfl⟩ | hpart
    · exact .inl ⟨d, rest, rfl⟩
    · exact .inr (hpart.cons _)

/-- No address comes before one of those that lead to the statements around it. -/
theorem Precedes.not_prefix (h : Precedes rank a b) : ¬ b <+: a := by
  induction h with
  | nil => simp
  | rel hde =>
    intro hprefix
    rw [List.cons_prefix_cons] at hprefix
    obtain ⟨rfl, -⟩ := hprefix
    exact Descent.not_precedes_self rank _ hde
  | cons _ ih => rwa [List.cons_prefix_cons, and_iff_right rfl]

/-- A statement comes before those below it. -/
theorem precedes_append (a : Address) (d : Descent) (rest : Address) : Precedes rank a (a ++ d :: rest) := by
  induction a with
  | nil => exact .nil
  | cons x a ih => exact .cons ih

/-- No address precedes itself. -/
theorem Precedes.ne (h : Precedes rank a b) : a ≠ b := by
  rintro rfl
  exact h.not_prefix List.prefix_rfl

/-- What comes after a statement and before one below it is below it as well. -/
theorem prefix_of_precedes {c : Address} (hab : Precedes rank a b) (hbc : Precedes rank b c) (h : a <+: c) :
    a <+: b := by
  induction hab generalizing c with
  | nil => exact List.nil_prefix
  | @rel d rest e more hde =>
    exfalso
    obtain ⟨tail, rfl⟩ := h
    cases hbc with
    | rel hed => exact Descent.precedes_asymm hde hed
    | cons => exact Descent.not_precedes_self rank _ hde
  | @cons d rest more _ ih =>
    obtain ⟨tail, rfl⟩ := h
    rw [List.cons_prefix_cons, and_iff_right rfl]
    cases hbc with
    | rel hdd => exact absurd hdd (Descent.not_precedes_self rank d)
    | cons hbc => exact ih hbc (List.prefix_append rest tail)

/-- In the order of visits two addresses are as in the source, unless they are swapped. -/
theorem Precedes.source_or_swapped (h : Precedes Branch.visitRank a b) :
    Precedes Branch.sourceRank a b ∨ Swapped a b := by
  induction h with
  | nil => exact .inl .nil
  | rel hde =>
    rcases hde with hbranch | ⟨hbranch, hindex⟩
    · rcases hbranch.source with hsource | hswap
      · exact .inl (.rel (.inl hsource))
      · exact .inr ⟨[], _, _, _, _, rfl, rfl, hswap⟩
    · exact .inl (.rel (.inr ⟨hbranch, hindex⟩))
  | cons _ ih =>
    rcases ih with hsource | hswap
    · exact .inl (.cons hsource)
    · exact .inr (hswap.cons _)

/-- Of addresses that part, one precedes the other where they do. -/
theorem Part.precedes (h : Part (Descent.Precedes rank) a b) : Precedes rank a b := by
  obtain ⟨front, d, e, rest, more, rfl, rfl, hde⟩ := h
  induction front with
  | nil => exact .rel hde
  | cons x front ih => exact .cons ih

/-- Of two addresses at most one precedes the other. -/
theorem Precedes.asymm (h : Precedes rank a b) : ¬ Precedes rank b a := by
  induction h with
  | nil => nofun
  | rel hde =>
    rintro (_ | hed | _)
    · exact Descent.precedes_asymm hde hed
    · exact Descent.not_precedes_self rank _ hde
  | cons _ ih =>
    rintro (_ | hdd | hback)
    · exact Descent.not_precedes_self rank _ hdd
    · exact ih hback

/-- Swapped addresses are visited in this order. -/
theorem Swapped.precedes (h : Swapped a b) : Precedes Branch.visitRank a b := by
  refine Part.precedes ?_
  obtain ⟨front, d, e, rest, more, ha, hb, hlate, hhandler⟩ := h
  refine ⟨front, d, e, rest, more, ha, hb, .inl (.inl ?_)⟩
  cases hd : d.branch <;> cases he : e.branch <;> simp_all [Branch.visitRank, Branch.isLate, Branch.isHandler]

/-- Neither of two swapped addresses goes through the other. -/
theorem Swapped.not_prefix (h : Swapped a b) : ¬ a <+: b := by
  refine Part.not_prefix ?_ h
  rintro ⟨branch, index⟩ ⟨hlate, hhandler⟩
  cases branch <;> simp_all [Branch.isLate, Branch.isHandler]

/-- Of two addresses that are swapped the second stands first in the source. -/
theorem Swapped.part (h : Swapped a b) : Part (Descent.Precedes Branch.sourceRank) b a := by
  obtain ⟨front, d, e, rest, more, rfl, rfl, hd, he⟩ := h
  exact ⟨front, e, d, more, rest, rfl, rfl, .inl (Branch.precedes_of_isLate hd he)⟩

end Address

namespace Statement

/-- Positions in a list increase. -/
theorem pairwise_zipIdx {α : Type} (list : List α) : list.zipIdx.Pairwise fun x y => x.2 < y.2 := by
  rw [List.pairwise_iff_getElem]
  intro i j hi hj hij
  simpa using hij

/-- Branches are visited one after another. -/
theorem pairwise_branches (s : Statement) : s.branches.Pairwise fun b c => b.1.Precedes Branch.visitRank c.1 := by
  have numbered : ∀ {kind : Nat → Branch} (blocks : List (List Statement)),
      (∀ i j, i < j → (kind i).Precedes Branch.visitRank (kind j)) →
      (blocks.zipIdx.map fun b => (kind b.2, b.1)).Pairwise fun b c => b.1.Precedes Branch.visitRank c.1 := by
    intro kind blocks hkind
    exact List.pairwise_map.2 ((pairwise_zipIdx blocks).imp fun hlt => hkind _ _ hlt)
  cases s with
  | definition form name span body => exact List.pairwise_singleton _ _
  | compound body orElse finally_ handlers cases =>
    rw [branches, List.pairwise_append, List.pairwise_append]
    refine ⟨⟨?_, ?_, ?_⟩, ?_, ?_⟩
    · simp [Branch.Precedes, Branch.visitRank]
    · exact numbered handlers fun i j hij => .inr ⟨rfl, hij⟩
    · intro b hb c hc
      obtain ⟨handler, -, rfl⟩ := List.mem_map.1 hc
      rcases (by simpa using hb : b = _ ∨ b = _ ∨ b = _) with rfl | rfl | rfl
      all_goals exact .inl (by simp [Branch.visitRank])
    · exact numbered cases fun i j hij => .inr ⟨rfl, hij⟩
    · intro b hb c hc
      obtain ⟨case, -, rfl⟩ := List.mem_map.1 hc
      rcases List.mem_append.1 hb with hb | hb
      · rcases (by simpa using hb : b = _ ∨ b = _ ∨ b = _) with rfl | rfl | rfl
        all_goals exact .inl (by simp [Branch.visitRank])
      · obtain ⟨handler, -, rfl⟩ := List.mem_map.1 hb
        exact .inl (by simp [Branch.visitRank])
  | _ => exact .nil

/-- The statements one step down are listed in the order of their steps. -/
theorem pairwise_children (s : Statement) : s.children.Pairwise fun c d => c.1.Precedes Branch.visitRank d.1 := by
  rw [children, List.pairwise_flatMap]
  refine ⟨?_, s.pairwise_branches.imp ?_⟩
  · intro b _
    exact List.pairwise_map.2 ((pairwise_zipIdx b.2).imp fun hlt => .inr ⟨rfl, hlt⟩)
  · intro b c hbc x hx y hy
    obtain ⟨t, -, rfl⟩ := List.mem_map.1 hx
    obtain ⟨u, -, rfl⟩ := List.mem_map.1 hy
    exact .inl hbc

/-! ## All addresses -/

/-- The addresses of a statement and of all below it, in the order in which they are visited. -/
def addresses (s : Statement) : List Address :=
  [] :: s.children.attach.flatMap fun ⟨c, _⟩ => (addresses c.2).map (c.1 :: ·)
termination_by sizeOf s
decreasing_by
  obtain ⟨block, hblock, hindex⟩ := Option.bind_eq_some_iff.1 (mem_children_iff.1 ‹_›)
  exact (List.sizeOf_lt_of_mem (List.mem_of_getElem? hindex)).trans (sizeOf_lt_of_block? hblock)

/-- The addresses in a statement are its own and those in its children. -/
theorem addresses_eq (s : Statement) :
    s.addresses = [] :: s.children.flatMap fun c => c.2.addresses.map (c.1 :: ·) := by
  rw [addresses]
  congr 1
  simpa using List.flatMap_subtype (l := s.children.attach)
    (g := fun c : Descent × Statement => c.2.addresses.map (c.1 :: ·)) fun _ _ => rfl

/-- Every statement is visited, and nothing else is. -/
theorem mem_addresses_iff {s : Statement} {a : Address} : a ∈ s.addresses ↔ ∃ t, s.at? a = some t := by
  induction s using induction_on_children generalizing a with
  | h s ih =>
    rw [addresses_eq, List.mem_cons, List.mem_flatMap]
    cases a with
    | nil => simp [at?]
    | cons d rest =>
      constructor
      · rintro (h | ⟨⟨d', t⟩, hchild, h⟩)
        · cases h
        · obtain ⟨rest', hrest, heq⟩ := List.mem_map.1 h
          obtain ⟨rfl, rfl⟩ := List.cons.inj heq
          have hchild := mem_children_iff.1 hchild
          obtain ⟨u, hu⟩ := (ih _ t hchild).1 hrest
          exact ⟨u, at?_cons_eq_some_iff.2 ⟨t, hchild, hu⟩⟩
      · rintro ⟨u, hu⟩
        obtain ⟨t, hchild, hu⟩ := at?_cons_eq_some_iff.1 hu
        exact .inr ⟨(d, t), mem_children_iff.2 hchild, List.mem_map_of_mem ((ih d t hchild).2 ⟨u, hu⟩)⟩

/-- Statements are visited in the order of their addresses. -/
theorem pairwise_addresses (s : Statement) : s.addresses.Pairwise (Address.Precedes Branch.visitRank) := by
  induction s using induction_on_children with
  | h s ih =>
    rw [addresses_eq, List.pairwise_cons, List.pairwise_flatMap]
    refine ⟨?_, ?_, s.pairwise_children.imp ?_⟩
    · intro a ha
      obtain ⟨c, -, ha⟩ := List.mem_flatMap.1 ha
      obtain ⟨rest, -, rfl⟩ := List.mem_map.1 ha
      exact .nil
    · intro c hc
      exact List.pairwise_map.2 ((ih c.1 c.2 (mem_children_iff.1 hc)).imp .cons)
    · intro c d hcd a ha b hb
      obtain ⟨rest, -, rfl⟩ := List.mem_map.1 ha
      obtain ⟨more, -, rfl⟩ := List.mem_map.1 hb
      exact .rel hcd

end Statement

end SourceAtlas.Source
