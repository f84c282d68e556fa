import SourceAtlas.Proofs.Source.Address
import SourceAtlas.Proofs.Source.Extent

/-!
Statements in their places. A tree is laid out if its spans follow one another as the source has them: the
statements of a block one after the other, the handlers of a statement between its body and what follows its
`else`, and the body of a definition inside the definition. In such a tree the addresses say how any two spans
lie to each other.

Main statements: `Lies.within`, `Lies.encloses_of_at?`, `Lies.stop_le_start_of_part`.
-/

namespace SourceAtlas.Source

namespace Statement

/-- The span of an import or a definition. -/
def span? : Statement → Option Span
  | .imports _ span => some span
  | .definition _ _ span _ => some span
  | _ => none

/-! ## Layout -/

mutual

/-- A statement lies between two places, and what it holds is laid out. -/
def Lies (lo hi : Nat) : Statement → Prop
  | .imports _ span => span.Within lo hi
  | .definition _ _ span body => span.Within lo hi ∧ BlockLies (span.start + 1) span.stop body
  | .compound body orElse finally_ handlers cases => ∃ a b c d, BlockLies lo a body ∧ BlocksLie a b handlers
      ∧ BlockLies b c orElse ∧ BlockLies c d finally_ ∧ BlocksLie d hi cases
  | .textual _ => lo ≤ hi
  | .other => lo ≤ hi

/-- The statements of a block lie between two places one after the other. -/
def BlockLies (lo hi : Nat) : List Statement → Prop
  | [] => lo ≤ hi
  | s :: rest => ∃ mid, s.Lies lo mid ∧ BlockLies mid hi rest

/-- Blocks lie between two places one after the other. -/
def BlocksLie (lo hi : Nat) : List (List Statement) → Prop
  | [] => lo ≤ hi
  | block :: rest => ∃ mid, BlockLies lo mid block ∧ BlocksLie mid hi rest

end

mutual

/-- A statement that lies in a stretch lies in every larger one. -/
theorem Lies.mono {lo hi lo' hi' : Nat} (hlo : lo' ≤ lo) (hhi : hi ≤ hi') :
    {s : Statement} → s.Lies lo hi → s.Lies lo' hi'
  | .imports _ _, h => Span.Within.mono h hlo hhi
  | .definition _ _ _ _, h => ⟨h.1.mono hlo hhi, h.2⟩
  | .compound _ _ _ _ _, ⟨a, b, c, d, hbody, hhandlers, horElse, hfinally, hcases⟩ =>
    ⟨a, b, c, d, hbody.mono hlo le_rfl, hhandlers, horElse, hfinally, hcases.mono le_rfl hhi⟩
  | .textual _, h => hlo.trans (le_trans h hhi)
  | .other, h => hlo.trans (le_trans h hhi)

/-- So does a block. -/
theorem BlockLies.mono {lo hi lo' hi' : Nat} (hlo : lo' ≤ lo) (hhi : hi ≤ hi') :
    {block : List Statement} → BlockLies lo hi block → BlockLies lo' hi' block
  | [], h => hlo.trans (le_trans h hhi)
  | _ :: _, ⟨mid, hs, hrest⟩ => ⟨mid, hs.mono hlo le_rfl, hrest.mono le_rfl hhi⟩

/-- So do several blocks. -/
theorem BlocksLie.mono {lo hi lo' hi' : Nat} (hlo : lo' ≤ lo) (hhi : hi ≤ hi') :
    {blocks : List (List Statement)} → BlocksLie lo hi blocks → BlocksLie lo' hi' blocks
  | [], h => hlo.trans (le_trans h hhi)
  | _ :: _, ⟨mid, hblock, hrest⟩ => ⟨mid, hblock.mono hlo le_rfl, hrest.mono le_rfl hhi⟩

end

mutual

/-- No statement ends before it starts. -/
theorem Lies.le {lo hi : Nat} : {s : Statement} → s.Lies lo hi → lo ≤ hi
  | .imports _ span, h => by
    unfold Lies Span.Within at h
    omega
  | .definition _ _ span _, h => by
    obtain ⟨h, -⟩ := h
    unfold Span.Within at h
    omega
  | .compound _ _ _ _ _, ⟨_, _, _, _, hbody, hhandlers, horElse, hfinally, hcases⟩ =>
    hbody.le.trans (hhandlers.le.trans (horElse.le.trans (hfinally.le.trans hcases.le)))
  | .textual _, h => h
  | .other, h => h

/-- No block does. -/
theorem BlockLies.le {lo hi : Nat} : {block : List Statement} → BlockLies lo hi block → lo ≤ hi
  | [], h => h
  | _ :: _, ⟨_, hs, hrest⟩ => hs.le.trans hrest.le

/-- No run of blocks does. -/
theorem BlocksLie.le {lo hi : Nat} : {blocks : List (List Statement)} → BlocksLie lo hi blocks → lo ≤ hi
  | [], h => h
  | _ :: _, ⟨_, hblock, hrest⟩ => hblock.le.trans hrest.le

end

section

variable {lo hi : Nat}

theorem isExtent_lies : IsExtent Lies :=
  ⟨fun h hlo hhi => h.mono hlo hhi, Lies.le⟩

theorem isExtent_blockLies : IsExtent BlockLies := ⟨fun h hlo hhi => h.mono hlo hhi, BlockLies.le⟩

theorem isExtent_blocksLie : IsExtent BlocksLie := ⟨fun h hlo hhi => h.mono hlo hhi, BlocksLie.le⟩

/-- The statements of a block lie one behind another. -/
theorem blockLies_iff {block : List Statement} :
    BlockLies lo hi block ↔ InTurn Lies lo hi block := by
  induction block generalizing lo with
  | nil => rfl
  | cons s rest ih => simp only [BlockLies, InTurn, ih]

/-- So do the blocks of a statement. -/
theorem blocksLie_iff {blocks : List (List Statement)} : BlocksLie lo hi blocks ↔ InTurn BlockLies lo hi blocks := by
  induction blocks generalizing lo with
  | nil => rfl
  | cons block rest ih => simp only [BlocksLie, InTurn, ih]

/-- A block may be followed by another. -/
theorem BlockLies.append {mid : Nat} {block more : List Statement} (h : BlockLies lo mid block)
    (hmore : BlockLies mid hi more) : BlockLies lo hi (block ++ more) :=
  blockLies_iff.2 ((blockLies_iff.1 h).append isExtent_lies (blockLies_iff.1 hmore))

end

/-! ## Statements below a statement -/

section

variable {lo hi : Nat} {s t u : Statement} {block other : List Statement} {b c : Branch}

/-- The blocks of a compound statement lie between places that go by the rank of the blocks. -/
theorem Lies.exists_bounds {body orElse finally_ : List Statement} {handlers cases : List (List Statement)}
    (h : (compound body orElse finally_ handlers cases).Lies lo hi) :
    ∃ bound : Nat → Nat, Monotone bound ∧ bound 0 = lo ∧ bound 5 = hi
      ∧ BlocksLie (bound 1) (bound 2) handlers ∧ BlocksLie (bound 4) (bound 5) cases
      ∧ ∀ b block, (compound body orElse finally_ handlers cases).block? b = some block →
        BlockLies (bound b.sourceRank) (bound (b.sourceRank + 1)) block := by
  obtain ⟨p, q, r, v, hbody, hhandlers, horElse, hfinally, hcases⟩ := h
  refine ⟨fun | 0 => lo | 1 => p | 2 => q | 3 => r | 4 => v | _ => hi, ?_, rfl, rfl, hhandlers, hcases, ?_⟩
  · refine monotone_nat_of_le_succ fun n => ?_
    match n with
    | 0 => exact hbody.le
    | 1 => exact hhandlers.le
    | 2 => exact horElse.le
    | 3 => exact hfinally.le
    | 4 => exact hcases.le
    | _ + 5 => exact le_rfl
  · intro b block hblock
    cases b with
    | body => exact Option.some.inj hblock ▸ hbody
    | orElse => exact Option.some.inj hblock ▸ horElse
    | finally_ => exact Option.some.inj hblock ▸ hfinally
    | handler number => exact (blocksLie_iff.1 hhandlers).of_getElem? isExtent_blockLies hblock
    | case_ number => exact (blocksLie_iff.1 hcases).of_getElem? isExtent_blockLies hblock

/-- Every block of a statement lies where the statement lies, and that of a definition inside its span. -/
theorem Lies.of_block? (h : s.Lies lo hi) (hblock : s.block? b = some block) :
    BlockLies lo hi block ∧ ∀ span, s.span? = some span → BlockLies (span.start + 1) span.stop block := by
  cases s with
  | definition form name span body =>
    obtain ⟨hspan, hbody⟩ := h
    cases b with
    | body =>
      obtain rfl := Option.some.inj hblock
      refine ⟨hbody.mono ?_ hspan.2.2, fun other hother => Option.some.inj hother ▸ hbody⟩
      have hlo := hspan.1
      omega
    | _ => cases hblock
  | compound body orElse finally_ handlers cases =>
    obtain ⟨bound, hbound, rfl, rfl, -, -, hblocks⟩ := h.exists_bounds
    refine ⟨(hblocks b block hblock).mono (hbound (by omega)) (hbound ?_), nofun⟩
    cases b <;> simp [Branch.sourceRank]
  | _ => cases b <;> cases hblock

/-- Of two blocks of a statement the one that stands first in the source lies before the other. -/
theorem Lies.exists_between_blocks (h : s.Lies lo hi) (hblock : s.block? b = some block)
    (hother : s.block? c = some other) (hbc : b.Precedes Branch.sourceRank c) :
    ∃ mid, BlockLies lo mid block ∧ BlockLies mid hi other := by
  cases s with
  | definition form name span body =>
    cases b with
    | body =>
      cases c with
      | body => simp [Branch.Precedes] at hbc
      | _ => cases hother
    | _ => cases hblock
  | compound body orElse finally_ handlers cases =>
    obtain ⟨bound, hbound, rfl, rfl, hhandlers, hcases, hblocks⟩ := h.exists_bounds
    rcases hbc with hrank | ⟨hrank, hnumber⟩
    · have top : c.sourceRank ≤ 4 := by cases c <;> simp [Branch.sourceRank]
      exact ⟨bound c.sourceRank, (hblocks b block hblock).mono (hbound (by omega)) (hbound hrank),
        (hblocks c other hother).mono le_rfl (hbound (by omega))⟩
    -- blocks of one rank are two handlers or two cases
    · cases b <;> cases c <;> simp [Branch.sourceRank, Branch.number] at hrank hnumber
      · obtain ⟨mid, hb, hc⟩ :=
          (blocksLie_iff.1 hhandlers).exists_between isExtent_blockLies hblock hother hnumber
        exact ⟨mid, hb.mono (hbound (by omega)) le_rfl, hc.mono le_rfl (hbound (by omega))⟩
      · obtain ⟨mid, hb, hc⟩ := (blocksLie_iff.1 hcases).exists_between isExtent_blockLies hblock hother hnumber
        exact ⟨mid, hb.mono (hbound (by omega)) le_rfl, hc⟩
  | _ => cases b <;> cases hblock

/-- A statement one step down lies where the statement lies, and inside the span of a definition. -/
theorem Lies.of_child? {d : Descent} (h : s.Lies lo hi) (hchild : s.child? d = some t) :
    t.Lies lo hi ∧ ∀ span, s.span? = some span → t.Lies (span.start + 1) span.stop := by
  obtain ⟨block, hblock, hindex⟩ := Option.bind_eq_some_iff.1 hchild
  obtain ⟨hlies, hinside⟩ := h.of_block? hblock
  exact ⟨(blockLies_iff.1 hlies).of_getElem? isExtent_lies hindex,
    fun span hspan => (blockLies_iff.1 (hinside span hspan)).of_getElem? isExtent_lies hindex⟩

/-- Of two statements one step down the one that stands first in the source lies before the other. -/
theorem Lies.exists_between {d e : Descent} (h : s.Lies lo hi) (ht : s.child? d = some t) (hu : s.child? e = some u)
    (hde : d.Precedes Branch.sourceRank e) : ∃ mid, t.Lies lo mid ∧ u.Lies mid hi := by
  obtain ⟨block, hblock, ht⟩ := Option.bind_eq_some_iff.1 ht
  obtain ⟨other, hother, hu⟩ := Option.bind_eq_some_iff.1 hu
  rcases hde with hbranch | ⟨hbranch, hindex⟩
  · obtain ⟨mid, hleft, hright⟩ := h.exists_between_blocks hblock hother hbranch
    exact ⟨mid, (blockLies_iff.1 hleft).of_getElem? isExtent_lies ht,
      (blockLies_iff.1 hright).of_getElem? isExtent_lies hu⟩
  · rw [hbranch] at hblock
    obtain rfl : block = other := Option.some.inj (hblock.symm.trans hother)
    exact (blockLies_iff.1 (h.of_block? hother).1).exists_between isExtent_lies ht hu hindex

/-! ## Spans and addresses -/

variable {a c : Address} {span other : Span}

/-- What stands at an address lies in the stretch of the root. -/
theorem Lies.of_at? (h : s.Lies lo hi) (ht : s.at? a = some t) : t.Lies lo hi := by
  induction a generalizing s with
  | nil => exact Option.some.inj ht ▸ h
  | cons d rest ih =>
    obtain ⟨u, hchild, hu⟩ := at?_cons_eq_some_iff.1 ht
    exact ih (h.of_child? hchild).1 hu

/-- The span of a statement lies in its stretch. -/
theorem Lies.within (h : s.Lies lo hi) (hspan : s.span? = some span) : span.Within lo hi := by
  cases s with
  | imports fromModule own => exact Option.some.inj hspan ▸ h
  | definition form name own body => exact Option.some.inj hspan ▸ h.1
  | _ => cases hspan

/-- A span lies strictly inside the spans of the definitions around it. -/
theorem Lies.encloses_of_at? {d : Descent} (h : s.Lies lo hi) (hs : s.span? = some other)
    (ht : s.at? (d :: a) = some t) (hspan : t.span? = some span) : other.Encloses span := by
  obtain ⟨u, hchild, hu⟩ := at?_cons_eq_some_iff.1 ht
  have hwithin := (((h.of_child? hchild).2 other hs).of_at? hu).within hspan
  unfold Span.Within at hwithin
  unfold Span.Encloses
  omega

/-- Where two addresses part, the span that stands first in the source ends before the other begins. -/
theorem Lies.stop_le_start_of_part (h : s.Lies lo hi) (hpart : Address.Part (Descent.Precedes Branch.sourceRank) a c)
    (ht : s.at? a = some t) (hu : s.at? c = some u) (hspan : t.span? = some span) (hother : u.span? = some other) :
    span.stop ≤ other.start := by
  obtain ⟨front, d, e, rest, more, rfl, rfl, hde⟩ := hpart
  rw [at?_append, Option.bind_eq_some_iff] at ht hu
  obtain ⟨v, hv, ht⟩ := ht
  obtain ⟨v', hv', hu⟩ := hu
  obtain rfl : v = v' := Option.some.inj (hv.symm.trans hv')
  obtain ⟨t', hd, ht⟩ := at?_cons_eq_some_iff.1 ht
  obtain ⟨u', he, hu⟩ := at?_cons_eq_some_iff.1 hu
  obtain ⟨mid, hleft, hright⟩ := (h.of_at? hv).exists_between hd he hde
  have hstop := (hleft.of_at? ht).within hspan
  have hstart := (hright.of_at? hu).within hother
  exact hstop.2.2.trans hstart.1

end

end Statement

end SourceAtlas.Source
