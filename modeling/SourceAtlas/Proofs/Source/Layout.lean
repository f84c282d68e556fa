import SourceAtlas.Proofs.Source.Grammar
import SourceAtlas.Proofs.Source.Placement

/-!
The layout of a syntax tree. Every rule for statements gives statements that lie where it has taken its tokens, one
after the other, since it takes them from the front. So the tree of a source is laid out in the source.

Main statements: `Statement.places_block`, `lies_of_parse?`.
-/

set_option synthInstance.maxSize 1024

namespace SourceAtlas.Source

open Parse

/-! ## Steps and places -/

namespace Parse

variable {α β : Type} {lies : Nat → Nat → β → Prop} {p q : Parse β} {step : Parse α} {f : α → Parse β}

/-- What a step gives lies between the places where it begins and where it ends, if the tokens are in order. -/
structure Places (lies : Nat → Nat → β → Prop) (p : Parse β) : Prop where
  places : ∀ {hi s b t}, Input.Ordered hi s → p.run s = some (b, t) → lies s.stop t.stop b

theorem Places.andThen [Advancing step] (hlies : IsExtent lies) (hf : ∀ a, Places lies (f a)) :
    Places lies (step >>= f) := by
  constructor
  intro hi s b u hs h
  obtain ⟨a, t, -, ht, hle, h⟩ := Advancing.step hs h
  exact hlies.mono ((hf a).places ht h) hle le_rfl

theorem Places.branch {c : Prop} [Decidable c] (hp : Places lies p) (hq : Places lies q) :
    Places lies (if c then p else q) := by
  split
  · exact hp
  · exact hq

theorem Places.failure : Places lies failure := ⟨nofun⟩

theorem Places.pure {b : β} (h : ∀ place, lies place place b) : Places lies (pure b) := by
  constructor
  intro hi s b' t hs hrun
  obtain ⟨rfl, rfl⟩ := run_pure_eq_some.1 hrun
  exact h s.stop

/-- A keyword may be taken before the next token: that one is not further to the front. -/
theorem here_le_of_acceptWord {hi : Nat} {s t : Input} {w : Text} {accepted : Bool} (hs : s.Ordered hi)
    (h : (acceptWord w).run s = some (accepted, t)) : s.here ≤ t.here := by
  rw [acceptWord, run_accept] at h
  split at h
  · rename_i hw
    obtain ⟨-, rfl⟩ := Prod.mk.inj (Option.some.inj h)
    have hlt := hs.here_lt_of_keyword hw
    have hle := hs.behind.1.stop_le_here
    omega
  · obtain ⟨-, rfl⟩ := Prod.mk.inj (Option.some.inj h)
    exact le_rfl

end Parse

namespace Statement

variable {lo mid hi : Nat} {s t : Input} {r : Rules} [r.Advancing]

/-! ## Simple statements -/

/-- A statement with neither a place nor blocks. -/
def isBare : Statement → Bool
  | .textual _ => true
  | .other => true
  | _ => false

theorem Lies.of_isBare {statement : Statement} (h : statement.isBare = true) (hle : lo ≤ hi) :
    statement.Lies lo hi := by
  cases statement with
  | textual value => exact hle
  | other => exact hle
  | _ => cases h

/-- A step that gives nothing but bare statements. -/
class Bare (p : Parse Statement) : Prop where
  bare : ∀ {s statement t}, p.run s = some (statement, t) → statement.isBare = true

section

variable {α : Type} {step : Parse α} {f : α → Parse Statement} {p q : Parse Statement} {c : Prop} [Decidable c]

instance : Bare (pure other) := ⟨fun h => (run_pure_eq_some.1 h).1 ▸ rfl⟩

instance (shape : Shape) : Bare (pure (ofShape shape)) := by
  constructor
  intro s statement t h
  rw [← (run_pure_eq_some.1 h).1]
  cases shape <;> rfl

instance Bare.bind [hf : ∀ a, Bare (f a)] : Bare (step >>= f) := by
  constructor
  intro s statement u h
  obtain ⟨a, t, -, h⟩ := run_bind_eq_some.1 h
  exact (hf a).bare h

instance Bare.ite [hp : Bare p] [hq : Bare q] : Bare (if c then p else q) := by
  split
  · exact hp
  · exact hq

theorem Bare.andThen (hf : ∀ a, Bare (f a)) : Bare (step >>= f) := .bind

theorem Bare.branch (hp : Bare p) (hq : Bare q) : Bare (if c then p else q) := .ite

end

instance : Bare (expressionOrAssignment r) :=
  .andThen fun _ => .branch inferInstance <| .andThen fun _ => .andThen fun _ => by split <;> infer_instance

theorem lies_of_bare {p : Parse Statement} [hp : Bare p] [Advancing p] {statement : Statement} (hs : s.Ordered hi)
    (h : p.run s = some (statement, t)) : statement.Lies s.stop t.stop :=
  Lies.of_isBare (hp.bare h) (hs.of_advances (Advancing.advances h)).2

/-- An import, from behind its keyword. -/
theorem lies_of_imported {p : Parse Unit} [Advancing p] {fromModule : Bool} {start : Nat} {statement : Statement}
    (hs : s.Ordered hi) (hstart : start + 1 < s.stop)
    (h : (do p; return imports fromModule ⟨start, (← get).stop⟩ : Parse Statement).run s = some (statement, t)) :
    statement.Lies start t.stop := by
  obtain ⟨-, s₁, -, hs₁, hle, h⟩ := Advancing.step hs h
  replace h := run_of_run_bind run_get h
  obtain ⟨rfl, rfl⟩ := run_pure_eq_some.1 h
  exact ⟨le_rfl, hstart.trans_le hle, le_rfl⟩

omit [r.Advancing] in
theorem lies_of_importing {fromModule : Bool} {w : Text} {statement : Statement} (hs : s.Ordered hi)
    (hw : s.next = .keyword w) (h : (importing r fromModule).run s = some (statement, t)) :
    statement.Lies s.stop t.stop := by
  replace h := run_of_run_bind run_place h
  replace h := run_of_run_bind run_skip h
  have hbehind := hs.behind.1
  have hstart := hs.here_lt_of_keyword hw
  refine Lies.mono hs.stop_le_here le_rfl ?_
  cases fromModule with
  | true =>
    have himported : (do
        (do sourceModule r; word "import"; importedNames r)
        return imports true ⟨s.here, (← get).stop⟩ : Parse Statement).run s.behind = some (statement, t) := by
      simpa using h
    exact lies_of_imported hbehind hstart himported
  | false => exact lies_of_imported hbehind hstart h

theorem lies_of_keywordStatement {w : Text} {statement : Statement} (hs : s.Ordered hi) (hw : s.next = .keyword w)
    (h : (keywordStatement r w).run s = some (statement, t)) : statement.Lies s.stop t.stop := by
  dsimp only [keywordStatement] at h
  split at h
  · exact lies_of_importing hs hw h
  · split at h
    · exact lies_of_importing hs hw h
    · exact lies_of_bare hs h

theorem places_simple : Places Lies (simple r) := by
  constructor
  intro hi s statement t hs h
  replace h := run_of_run_bind run_next h
  split at h
  · rename_i hkind
    exact lies_of_keywordStatement hs hkind h
  · exact lies_of_bare hs h

theorem places_line (bound : Nat) : Places BlockLies (line r bound) := by
  induction bound with
  | zero => exact .failure
  | succ bound ih =>
    constructor
    intro hi s block t hs h
    obtain ⟨first, s₁, hfirst, hs₁, -, h⟩ := Advancing.step hs h
    have hlies := places_simple.places hs hfirst
    obtain ⟨semicolon, s₂, -, hs₂, hle₂, h⟩ := Advancing.step hs₁ h
    split at h
    · obtain ⟨ends, s₃, -, hs₃, hle₃, h⟩ := Advancing.step hs₂ h
      split at h
      · obtain ⟨rfl, rfl⟩ := run_pure_eq_some.1 h
        exact ⟨_, hlies, hle₂.trans hle₃⟩
      · obtain ⟨rest, s₄, hrest, h⟩ := run_bind_eq_some.1 h
        obtain ⟨rfl, rfl⟩ := run_pure_eq_some.1 h
        exact ⟨_, hlies, (ih.places hs₃ hrest).mono (hle₂.trans hle₃) le_rfl⟩
    · obtain ⟨-, s₃, -, hs₃, hle₃, h⟩ := Advancing.step hs₂ h
      obtain ⟨rfl, rfl⟩ := run_pure_eq_some.1 h
      exact ⟨_, hlies, hle₂.trans hle₃⟩

/-! ## Compound statements -/

/-- A lone statement makes up a block. -/
theorem places_singleton {p : Parse Statement} (hp : Places Lies p) :
    Places BlockLies (do return [← p] : Parse (List Statement)) := by
  constructor
  intro hi s block t hs h
  obtain ⟨statement, s₁, hstatement, h⟩ := run_bind_eq_some.1 h
  obtain ⟨rfl, rfl⟩ := run_pure_eq_some.1 h
  exact ⟨_, hp.places hs hstatement, le_rfl⟩

/-- A statement that has a body and perhaps an `else`. -/
theorem lies_of_body_orElse {body orElse : List Statement} (hbody : BlockLies lo mid body)
    (horElse : BlockLies mid hi orElse) : (compound body orElse [] [] []).Lies lo hi :=
  ⟨mid, mid, hi, hi, hbody, le_rfl, horElse, le_rfl, le_rfl⟩

section

variable (hr : Places BlockLies r.block)
include hr

omit [r.Advancing] in
theorem places_colonBlock : Places BlockLies (colonBlock r) := .andThen isExtent_blockLies fun _ => hr

omit [r.Advancing] in
theorem places_blockAfter? (keyword : Text) : Places BlockLies (blockAfter? r keyword) :=
  .andThen isExtent_blockLies fun _ => .branch (places_colonBlock hr) (.pure fun _ => le_rfl)

theorem places_otherwise (bound : Nat) : Places BlockLies (otherwise r bound) := by
  induction bound with
  | zero => exact .failure
  | succ bound ih =>
    refine .andThen isExtent_blockLies fun _ => .branch ?_ (places_blockAfter? hr _)
    refine .andThen isExtent_blockLies fun _ => ?_
    constructor
    intro hi s block t hs h
    obtain ⟨body, s₁, hbody, hs₁, -, h⟩ := Advancing.step hs h
    obtain ⟨orElse, s₂, horElse, h⟩ := run_bind_eq_some.1 h
    obtain ⟨rfl, rfl⟩ := run_pure_eq_some.1 h
    exact ⟨_, lies_of_body_orElse ((places_colonBlock hr).places hs hbody) (ih.places hs₁ horElse), le_rfl⟩

/-- What a loop or a condition has behind its head: a body, and a rest that lies behind it. -/
theorem places_body_orElse {tail : Parse (List Statement)} [Advancing tail] (htail : Places BlockLies tail) :
    Places Lies (do
      let body ← colonBlock r
      let orElse ← tail
      return .compound body orElse [] [] [] : Parse Statement) := by
  constructor
  intro hi s statement t hs h
  obtain ⟨body, s₁, hbody, hs₁, -, h⟩ := Advancing.step hs h
  obtain ⟨orElse, s₂, horElse, h⟩ := run_bind_eq_some.1 h
  obtain ⟨rfl, rfl⟩ := run_pure_eq_some.1 h
  exact lies_of_body_orElse ((places_colonBlock hr).places hs hbody) (htail.places hs₁ horElse)

theorem places_conditional : Places Lies (conditional r) :=
  .andThen isExtent_lies fun _ => places_body_orElse hr (places_otherwise hr _)

theorem places_whileLoop : Places Lies (whileLoop r) :=
  .andThen isExtent_lies fun _ => places_body_orElse hr (places_blockAfter? hr _)

theorem places_forLoop : Places Lies (forLoop r) :=
  .andThen isExtent_lies fun _ => .andThen isExtent_lies fun _ => .andThen isExtent_lies fun _ =>
    places_body_orElse hr (places_blockAfter? hr _)

theorem places_withResources : Places Lies (withResources r) := by
  refine .andThen isExtent_lies fun _ => ?_
  constructor
  intro hi s statement t hs h
  obtain ⟨body, s₁, hbody, h⟩ := run_bind_eq_some.1 h
  obtain ⟨rfl, rfl⟩ := run_pure_eq_some.1 h
  exact lies_of_body_orElse (hr.places hs hbody) le_rfl

theorem places_handler (group : Bool) : Places BlockLies (handler r group) := by
  refine .andThen isExtent_blockLies fun _ => .branch ?_ (places_colonBlock hr)
  exact .andThen isExtent_blockLies fun _ => .andThen isExtent_blockLies fun _ => places_colonBlock hr

theorem places_handlers (group : Bool) (bound : Nat) : Places BlocksLie (handlers r group bound) := by
  induction bound with
  | zero => exact .failure
  | succ bound ih =>
    have hmore : Places BlocksLie (do
        let first ← handler r group
        return first :: (← handlers r group bound)) := by
      constructor
      intro hi s blocks t hs h
      obtain ⟨first, s₁, hfirst, hs₁, -, h⟩ := Advancing.step hs h
      obtain ⟨rest, s₂, hrest, h⟩ := run_bind_eq_some.1 h
      obtain ⟨rfl, rfl⟩ := run_pure_eq_some.1 h
      exact ⟨_, (places_handler hr group).places hs hfirst, ih.places hs₁ hrest⟩
    refine .andThen isExtent_blocksLie fun _ => .andThen isExtent_blocksLie fun _ => ?_
    refine .branch (.andThen isExtent_blocksLie fun _ => ?_) (.pure fun _ => le_rfl)
    exact .branch (.andThen isExtent_blocksLie fun _ => hmore) hmore

theorem places_guarded : Places Lies (guarded r) := by
  constructor
  intro hi s statement t hs h
  obtain ⟨body, s₁, hbody, hs₁, -, h⟩ := Advancing.step hs h
  obtain ⟨kind, s₂, -, hs₂, hle₂, h⟩ := Advancing.step hs₁ h
  obtain ⟨caught, s₃, hcaught, hs₃, -, h⟩ := Advancing.step hs₂ h
  have hbody := ((places_colonBlock hr).places hs hbody).mono le_rfl hle₂
  have hcaught := (places_handlers hr _ _).places hs₂ hcaught
  -- without handlers there is no `else`, and with handlers nothing is asked of what follows
  have hrest : ∃ orElse s₄, BlockLies s₃.stop s₄.stop orElse ∧ s₄.Ordered hi ∧ (do
      let finally_ ← blockAfter? r "finally"
      return compound body orElse finally_ caught [] : Parse Statement).run s₄ = some (statement, t) := by
    dsimp only at h
    cases hempty : caught.isEmpty with
    | true =>
      simp only [hempty, if_true] at h
      obtain ⟨orElse, s₄, hpure, h⟩ := run_bind_eq_some.1 h
      obtain ⟨rfl, rfl⟩ := run_pure_eq_some.1 hpure
      obtain ⟨found, s₄, -, hs₄, hle₄, h⟩ := Advancing.step hs₃ h
      obtain ⟨-, s₅, -, hs₅, hle₅, h⟩ := Advancing.step hs₄ h
      exact ⟨[], s₅, hle₄.trans hle₅, hs₅, h⟩
    | false =>
      simp only [hempty] at h
      obtain ⟨orElse, s₄, horElse, hs₄, -, h⟩ := Advancing.step hs₃ h
      exact ⟨orElse, s₄, (places_blockAfter? hr _).places hs₃ horElse, hs₄, h⟩
  obtain ⟨orElse, s₄, horElse, hs₄, h⟩ := hrest
  obtain ⟨finally_, s₅, hfinally, h⟩ := run_bind_eq_some.1 h
  obtain ⟨rfl, rfl⟩ := run_pure_eq_some.1 h
  have hfinally := (places_blockAfter? hr _).places hs₄ hfinally
  exact ⟨_, _, _, _, hbody, hcaught, horElse, hfinally, le_rfl⟩

theorem places_case_ : Places BlockLies (case_ r) := by
  refine .andThen isExtent_blockLies fun _ => .andThen isExtent_blockLies fun _ => ?_
  exact .andThen isExtent_blockLies fun _ => .branch
    (.andThen isExtent_blockLies fun _ => places_colonBlock hr) (places_colonBlock hr)

theorem places_cases (bound : Nat) : Places BlocksLie (cases r bound) := by
  induction bound with
  | zero => exact .failure
  | succ bound ih =>
    constructor
    intro hi s blocks t hs h
    obtain ⟨first, s₁, hfirst, hs₁, -, h⟩ := Advancing.step hs h
    obtain ⟨ends, s₂, -, hs₂, hle₂, h⟩ := Advancing.step hs₁ h
    have hfirst := (places_case_ hr).places hs hfirst
    split at h
    · obtain ⟨rfl, rfl⟩ := run_pure_eq_some.1 h
      exact ⟨_, hfirst, hle₂⟩
    · obtain ⟨rest, s₃, hrest, h⟩ := run_bind_eq_some.1 h
      obtain ⟨rfl, rfl⟩ := run_pure_eq_some.1 h
      exact ⟨_, hfirst, (ih.places hs₂ hrest).mono hle₂ le_rfl⟩

/-! ## Definitions -/

/-- A definition, from the colon on. -/
theorem lies_of_defined {form : Definition} {name : Text} {start : Nat} {statement : Statement} (hs : s.Ordered hi)
    (hstart : start + 1 < s.stop)
    (h : (do
      let body ← colonBlock r
      return definition form name ⟨start, (← get).stop⟩ body : Parse Statement).run s = some (statement, t)) :
    statement.Lies start t.stop := by
  obtain ⟨body, s₁, hbody, hs₁, hle, h⟩ := Advancing.step hs h
  replace h := run_of_run_bind run_get h
  obtain ⟨rfl, rfl⟩ := run_pure_eq_some.1 h
  refine ⟨⟨le_rfl, hstart.trans_le hle, le_rfl⟩, ?_⟩
  exact ((places_colonBlock hr).places hs hbody).mono hstart.le le_rfl

theorem places_classDefinition : Places Lies (classDefinition r) := by
  constructor
  intro hi s statement t hs h
  replace h := run_of_run_bind run_place h
  obtain ⟨x, s₁, hword, h⟩ := run_bind_eq_some.1 h
  obtain ⟨hkey, rfl⟩ := run_expect_eq_some hword
  obtain ⟨name, s₂, -, hs₂, hle₂, h⟩ := Advancing.step hs.behind.1 h
  obtain ⟨derived, s₃, -, hs₃, hle₃, h⟩ := Advancing.step hs₂ h
  have hstart := hs.here_lt_of_keyword hkey
  refine Lies.mono hs.stop_le_here le_rfl ?_
  dsimp only at h
  split at h
  · obtain ⟨-, s₄, -, hs₄, hle₄, h⟩ := Advancing.step hs₃ h
    exact lies_of_defined hr hs₄ (by omega) h
  · exact lies_of_defined hr hs₃ (by omega) h

/-- A function whose start is at the next token or before it. -/
theorem lies_of_functionFrom {start : Nat} {statement : Statement} (hs : s.Ordered hi) (hstart : start ≤ s.here)
    (h : (functionFrom r start).run s = some (statement, t)) : statement.Lies start t.stop := by
  obtain ⟨x, s₁, hword, h⟩ := run_bind_eq_some.1 h
  obtain ⟨hkey, rfl⟩ := run_expect_eq_some hword
  have hkey := hs.here_lt_of_keyword hkey
  obtain ⟨name, s₂, -, hs₂, hle₂, h⟩ := Advancing.step hs.behind.1 h
  obtain ⟨-, s₃, -, hs₃, hle₃, h⟩ := Advancing.step hs₂ h
  obtain ⟨-, s₄, -, hs₄, hle₄, h⟩ := Advancing.step hs₃ h
  obtain ⟨annotated, s₅, -, hs₅, hle₅, h⟩ := Advancing.step hs₄ h
  dsimp only at h
  split at h
  · obtain ⟨-, s₆, -, hs₆, hle₆, h⟩ := Advancing.step hs₅ h
    exact lies_of_defined hr hs₆ (by omega) h
  · exact lies_of_defined hr hs₅ (by omega) h

theorem places_functionDefinition : Places Lies (functionDefinition r) := by
  constructor
  intro hi s statement t hs h
  replace h := run_of_run_bind run_place h
  obtain ⟨async, s₁, haccept, hs₁, -, h⟩ := Advancing.step hs h
  have hlies := lies_of_functionFrom hr hs₁ (here_le_of_acceptWord hs haccept) h
  exact hlies.mono hs.stop_le_here le_rfl

theorem places_decorated : Places Lies (decorated r) :=
  .andThen isExtent_lies fun _ => .andThen isExtent_lies fun _ =>
    .branch (places_classDefinition hr) (places_functionDefinition hr)

/-! ## Blocks -/

theorem places_of_compound? {keyword : Text} : ∀ p, compound? r keyword = some p → Places Lies p := by
  have hskip : ∀ {p : Parse Statement}, Places Lies p → Places Lies (do skip; p) :=
    fun hp => .andThen isExtent_lies fun _ => hp
  unfold compound?
  refine forall_of_ite_some (hskip (places_conditional hr)) ?_
  refine forall_of_ite_some (hskip (places_whileLoop hr)) ?_
  refine forall_of_ite_some (hskip (places_forLoop hr)) ?_
  refine forall_of_ite_some (hskip (places_withResources hr)) ?_
  refine forall_of_ite_some (hskip (places_guarded hr)) ?_
  refine forall_of_ite_some (places_classDefinition hr) ?_
  refine forall_of_ite_some (places_functionDefinition hr) ?_
  refine forall_of_ite_some ?_ nofun
  refine .andThen isExtent_lies fun _ => .branch (places_functionDefinition hr) <| hskip ?_
  refine .andThen isExtent_lies fun _ => .branch (places_withResources hr) ?_
  exact .andThen isExtent_lies fun _ => places_forLoop hr

theorem places_matching (bound : Nat) :
    Places BlockLies (do return [.compound [] [] [] [] (← cases r bound)] : Parse (List Statement)) := by
  constructor
  intro hi s block t hs h
  obtain ⟨blocks, s₁, hblocks, h⟩ := run_bind_eq_some.1 h
  obtain ⟨rfl, rfl⟩ := run_pure_eq_some.1 h
  exact ⟨_, ⟨_, _, _, _, le_rfl, le_rfl, le_rfl, le_rfl, (places_cases hr bound).places hs hblocks⟩, le_rfl⟩

theorem places_statements : Places BlockLies (statements r) := by
  refine .andThen isExtent_blockLies fun kind => ?_
  cases kind with
  | keyword t =>
    dsimp only
    split
    · rename_i p hp
      exact places_singleton (places_of_compound? hr p hp)
    · exact places_line _
  | mark t => exact .branch (places_singleton (places_decorated hr)) (places_line _)
  | name t =>
    have htail : ∀ isMatch : Bool, Places BlockLies (if isMatch then do
        return [.compound [] [] [] [] (← cases r r.bound)] else line r r.bound) :=
      fun _ => .branch (places_matching hr _) (places_line _)
    exact .branch (.andThen isExtent_blockLies htail) (.andThen isExtent_blockLies htail)
  | _ => exact places_line _

theorem places_upTo (final : TokenKind) (bound : Nat) : Places BlockLies (upTo r final bound) := by
  induction bound with
  | zero => exact .failure
  | succ bound ih =>
    constructor
    intro hi s block t hs h
    obtain ⟨first, s₁, hfirst, hs₁, -, h⟩ := Advancing.step hs h
    obtain ⟨ends, s₂, -, hs₂, hle₂, h⟩ := Advancing.step hs₁ h
    have hfirst := ((places_statements hr).places hs hfirst).mono le_rfl hle₂
    split at h
    · obtain ⟨rfl, rfl⟩ := run_pure_eq_some.1 h
      exact hfirst
    · obtain ⟨rest, s₃, hrest, h⟩ := run_bind_eq_some.1 h
      obtain ⟨rfl, rfl⟩ := run_pure_eq_some.1 h
      exact hfirst.append (ih.places hs₂ hrest)

theorem places_block : Places BlockLies (block r) :=
  .andThen isExtent_blockLies fun _ => .branch
    (.andThen isExtent_blockLies fun _ => places_upTo hr _ _) (places_line _)

theorem places_all : Places BlockLies (all r) :=
  .andThen isExtent_blockLies fun _ => .branch (.pure fun _ => le_rfl) (places_upTo hr _ _)

end

end Statement

/-! ## Sources -/

theorem Rules.places_upTo (depth : Nat) : Places Statement.BlockLies (Rules.upTo depth).block := by
  induction depth with
  | zero => exact .failure
  | succ depth ih =>
    have := Rules.advancing_upTo depth
    exact Statement.places_block ih

/-- The places of a source are those of its text once all line ends are single characters. -/
theorem length_items (t : Text) : (items t).length = (Text.unifyLineEnds t).length := by
  fun_induction items t with
  | case1 => rfl
  | case2 c => rfl
  | case3 c d rest hends ih => simp_all [Text.unifyLineEnds]
  | case4 c d rest hends ih =>
    by_cases hc : c = '\r' <;> simp_all [Text.unifyLineEnds]

/-- What is read of a source is at most one line end longer than the source. -/
theorem length_terminated_le (t : Text) : (terminated t).length ≤ (items t).length + 1 := by
  rw [length_items, terminated]
  split
  · omega
  · rw [List.length_append]
    exact le_rfl

/-- The statements of a source lie in it one after the other; the end of the last line may be added. -/
theorem lies_of_parse? {source : Text} {statements : List Statement} (h : parse? source = some statements) :
    Statement.BlockLies 0 ((items source).length + 1) statements := by
  unfold parse? at h
  split at h
  · obtain ⟨tokens, htokens, h⟩ := Option.bind_eq_some_iff.1 h
    obtain ⟨⟨statements', t⟩, hrun, h⟩ := Option.bind_eq_some_iff.1 h
    obtain rfl := Option.some.inj h
    have := Rules.advancing_upTo (depthFor source.length)
    have hordered : Input.Ordered ((items source).length + 1) ⟨tokens, 0⟩ :=
      (inTurn_of_lex htokens).mono Token.isExtent_lies le_rfl (length_terminated_le source)
    have hall := (Statement.places_all (Rules.places_upTo _)).places hordered hrun
    have hend := (hordered.of_advances (Advancing.advances hrun)).1
    exact hall.mono le_rfl (InTurn.le Token.isExtent_lies hend)
  · cases h

/-! ## Slices -/

theorem ne_nil_of_mem_items {t x : Text} (h : x ∈ items t) : x ≠ [] := by
  fun_induction items t with
  | case1 => cases h
  | case2 c => simp_all
  | case3 c d rest hends ih =>
    rcases List.mem_cons.1 h with rfl | h
    · simp
    · exact ih h
  | case4 c d rest hends ih =>
    rcases List.mem_cons.1 h with rfl | h
    · simp
    · exact ih h

/-- The text of a span in a source is not empty; the line end that may be added does not count. -/
theorem slice_ne_nil {source : Text} {lo : Nat} {span : Span} (h : span.Within lo ((items source).length + 1)) :
    slice source span ≠ [] := by
  obtain ⟨-, hlt, hstop⟩ := h
  have hstart : span.start < (items source).length := by omega
  have hmem : (items source)[span.start] ∈ ((items source).drop span.start).take (span.stop - span.start) := by
    rw [List.drop_eq_getElem_cons hstart, ← Nat.succ_pred_eq_of_pos (by omega : 0 < span.stop - span.start),
      List.take_succ_cons]
    exact List.mem_cons_self
  intro hnil
  exact ne_nil_of_mem_items (List.getElem_mem hstart) (List.flatten_eq_nil_iff.1 hnil _ hmem)

/-- The text of a span is a part of the text of every span around it. -/
theorem Span.Encloses.slice_infix {outer inner : Span} (h : outer.Encloses inner) (source : Text) :
    slice source inner <:+: slice source outer := by
  obtain ⟨hstart, hstop⟩ := h
  have hinner : ((items source).drop inner.start).take (inner.stop - inner.start)
      = ((((items source).drop outer.start).take (outer.stop - outer.start)).drop (inner.start - outer.start)).take
          (inner.stop - inner.start) := by
    rw [List.drop_take, List.drop_drop, List.take_take]
    congr 2 <;> omega
  obtain ⟨front, back, heq⟩ : ((items source).drop inner.start).take (inner.stop - inner.start)
      <:+: ((items source).drop outer.start).take (outer.stop - outer.start) := by
    rw [hinner]
    exact (List.take_prefix _ _).isInfix.trans (List.drop_suffix _ _).isInfix
  refine ⟨front.flatten, back.flatten, ?_⟩
  rw [slice, slice, ← heq, List.flatten_append, List.flatten_append]

end SourceAtlas.Source
