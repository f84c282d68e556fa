import Mathlib.Order.Monotone.Basic
import SourceAtlas.Source.Parse
import SourceAtlas.Proofs.Source.Tokens

/-!
Parsing takes tokens from the front and does nothing else to its input. That is said of a step once, as
`Parse.Advancing`, and holds of whatever is made of such steps. Where the tokens lie in order, the place up to which
they have been taken can only grow.

Main statements: `Parse.Advancing.bind`, `Input.Ordered.of_advances`.
-/

namespace SourceAtlas.Source

namespace Input

/-- The input behind the next token. -/
def behind (s : Input) : Input :=
  match s.tokens with
  | token :: rest => ⟨rest, if token.kind.isSolid then token.stop else s.stop⟩
  | [] => s

/-- One input is what is left of another one. -/
inductive Advances : Input → Input → Prop where
  | refl (s : Input) : Advances s s
  | skip {s t : Input} : Advances s t → Advances s t.behind

/-- Input that has advanced may advance further. -/
theorem Advances.trans {s t u : Input} (h : Advances s t) (h' : Advances t u) : Advances s u := by
  induction h' with
  | refl => exact h
  | skip _ ih => exact ih.skip

/-- The tokens that are left lie one after the other, behind those that have been taken. -/
def Ordered (hi : Nat) (s : Input) : Prop := InTurn Token.Lies s.stop hi s.tokens

/-- Behind a token the input is in order as well, and no less far. -/
theorem Ordered.behind {hi : Nat} {s : Input} (h : s.Ordered hi) : s.behind.Ordered hi ∧ s.stop ≤ s.behind.stop := by
  obtain ⟨tokens, stop⟩ := s
  cases tokens with
  | nil => exact ⟨h, le_rfl⟩
  | cons token rest =>
    obtain ⟨mid, ⟨hlo, hle, -, hhi⟩, hrest⟩ := h
    dsimp only [Input.behind, Ordered] at hlo hhi ⊢
    split
    · exact ⟨hrest.mono Token.isExtent_lies hhi le_rfl, hlo.trans hle⟩
    · exact ⟨hrest.mono Token.isExtent_lies (hlo.trans (hle.trans hhi)) le_rfl, le_rfl⟩

/-- The kind of the next token. -/
def next (s : Input) : TokenKind :=
  match s.tokens with
  | token :: _ => token.kind
  | [] => .finish

/-- The place where the next token starts. -/
def here (s : Input) : Nat :=
  match s.tokens with
  | token :: _ => token.start
  | [] => s.stop

/-- In input in order what has been read ends before the next token starts. -/
theorem Ordered.stop_le_here {hi : Nat} {s : Input} (h : s.Ordered hi) : s.stop ≤ s.here := by
  obtain ⟨tokens, stop⟩ := s
  cases tokens with
  | nil => exact le_rfl
  | cons token rest =>
    obtain ⟨mid, ⟨hlo, -⟩, -⟩ := h
    exact hlo

/-- A keyword that is taken has two characters at least. -/
theorem Ordered.here_lt_of_keyword {hi : Nat} {s : Input} {w : Text} (h : s.Ordered hi) (hw : s.next = .keyword w) :
    s.here + 1 < s.behind.stop := by
  obtain ⟨tokens, stop⟩ := s
  cases tokens with
  | nil => cases hw
  | cons token rest =>
    obtain ⟨mid, ⟨-, -, hkeyword, -⟩, -⟩ := h
    have hlt := hkeyword w hw
    have hsolid : token.kind.isSolid = true := by
      rw [show token.kind = _ from hw]
      rfl
    simpa [here, Input.behind, hsolid] using hlt

/-- What is left of an input in order is in order, and does not begin before it. -/
theorem Ordered.of_advances {hi : Nat} {s t : Input} (h : s.Ordered hi) (hst : s.Advances t) :
    t.Ordered hi ∧ s.stop ≤ t.stop := by
  induction hst with
  | refl => exact ⟨h, le_rfl⟩
  | skip _ ih =>
    obtain ⟨ht, hle⟩ := ih
    obtain ⟨hbehind, hstop⟩ := ht.behind
    exact ⟨hbehind, hle.trans hstop⟩

end Input

namespace Parse

variable {α β : Type} {p q : Parse α} {f : α → Parse β} {s t u : Input} {a : α} {b : β}

/-! ## Runs -/

theorem run_pure_eq_some {a' : α} : (pure a : Parse α).run s = some (a', t) ↔ a = a' ∧ s = t := by
  rw [StateT.run_pure]
  simp

/-- One parser followed by another reads what both read, in turn. -/
theorem run_bind_eq_some :
    (p >>= f).run s = some (b, u) ↔ ∃ a t, p.run s = some (a, t) ∧ (f a).run t = some (b, u) := by
  rw [StateT.run_bind]
  simp [Option.bind_eq_some_iff]

/-- What follows a step of which the run is known. -/
theorem run_of_run_bind (hp : p.run s = some (a, t)) (h : (p >>= f).run s = some (b, u)) :
    (f a).run t = some (b, u) := by
  rw [StateT.run_bind, hp] at h
  exact h

theorem run_get : (get : Parse Input).run s = some (s, s) := rfl

theorem run_next : next.run s = some (s.next, s) := by
  obtain ⟨tokens, stop⟩ := s
  cases tokens <;> rfl

theorem run_place : place.run s = some (s.here, s) := by
  obtain ⟨tokens, stop⟩ := s
  cases tokens <;> rfl

theorem run_skip : skip.run s = some ((), s.behind) := rfl

/-- A token is accepted if it is of the kind that is asked for. -/
theorem run_accept (kind : TokenKind) :
    (accept kind).run s = if s.next = kind then some (true, s.behind) else some (false, s) := by
  by_cases h : s.next = kind
  · simp [accept, sees, StateT.run_bind, run_next, run_skip, h]
  · simp [accept, sees, StateT.run_bind, run_next, h]

/-- A token that is expected has been the next one, and is behind then. -/
theorem run_expect_eq_some {kind : TokenKind} {x : Unit} (h : (expect kind).run s = some (x, t)) :
    s.next = kind ∧ t = s.behind := by
  obtain ⟨accepted, u, hu, h⟩ := run_bind_eq_some.1 h
  rw [run_accept] at hu
  split at hu
  · rename_i hkind
    obtain ⟨rfl, rfl⟩ := Prod.mk.inj (Option.some.inj hu)
    obtain ⟨-, rfl⟩ := run_pure_eq_some.1 h
    exact ⟨hkind, rfl⟩
  · obtain ⟨rfl, rfl⟩ := Prod.mk.inj (Option.some.inj hu)
    cases h

/-! ## Steps that advance -/

/-- A step that only takes tokens from the front. -/
class Advancing (p : Parse α) : Prop where
  advances : ∀ {s a t}, p.run s = some (a, t) → s.Advances t

instance Advancing.pure : Advancing (pure a : Parse α) := by
  constructor
  intro s a' t h
  obtain ⟨-, rfl⟩ := run_pure_eq_some.1 h
  exact .refl _

instance Advancing.bind [hp : Advancing p] [hf : ∀ a, Advancing (f a)] : Advancing (p >>= f) := by
  constructor
  intro s b u h
  obtain ⟨a, t, hst, htu⟩ := run_bind_eq_some.1 h
  exact (hp.advances hst).trans ((hf a).advances htu)

instance Advancing.failure : Advancing (failure : Parse α) := ⟨nofun⟩

instance Advancing.orElse [hp : Advancing p] [hq : Advancing q] : Advancing (p <|> q) := by
  constructor
  intro s a t h
  change ((p.run s).orElse fun _ => q.run s) = some (a, t) at h
  cases hrun : p.run s with
  | none => exact hq.advances (by simpa [hrun] using h)
  | some result => exact hp.advances (by simpa [hrun] using h)

instance Advancing.ite {c : Prop} [Decidable c] [hp : Advancing p] [hq : Advancing q] :
    Advancing (if c then p else q) := by
  split
  · exact hp
  · exact hq

instance Advancing.get : Advancing (get : Parse Input) := ⟨fun h => by cases h; exact .refl _⟩

instance Advancing.skip : Advancing skip := ⟨fun h => by cases h; exact (Input.Advances.refl _).skip⟩

/-- What comes after a step may be looked at by cases on what the step gives. -/
theorem Advancing.andThen [Advancing p] (hf : ∀ a, Advancing (f a)) : Advancing (p >>= f) := .bind

/-- A choice between parsers advances as they do. -/
theorem Advancing.branch {c : Prop} [Decidable c] (hp : Advancing p) (hq : Advancing q) :
    Advancing (if c then p else q) := .ite

/-- The first step of two, on an input in order. -/
theorem Advancing.step {hi : Nat} [hp : Advancing p] (hs : s.Ordered hi) (h : (p >>= f).run s = some (b, u)) :
    ∃ a t, p.run s = some (a, t) ∧ t.Ordered hi ∧ s.stop ≤ t.stop ∧ (f a).run t = some (b, u) := by
  obtain ⟨a, t, hst, h⟩ := run_bind_eq_some.1 h
  obtain ⟨ht, hle⟩ := hs.of_advances (hp.advances hst)
  exact ⟨a, t, hst, ht, hle, h⟩

/-- Of a list of choices: what holds of the first, and of whatever the others come to, holds of the choice. -/
theorem forall_of_ite_some {c : Prop} [Decidable c] {motive : α → Prop} {x : α} {o : Option α} (hx : motive x)
    (ho : ∀ y, o = some y → motive y) : ∀ y, (if c then some x else o) = some y → motive y := by
  intro y h
  split at h
  · exact Option.some.inj h ▸ hx
  · exact ho y h

/-! ## The steps of the grammar -/

section

variable {step starts : Parse Bool} {item : Parse α}

instance : Advancing next := .andThen fun _ => by split <;> infer_instance

instance : Advancing second := .andThen fun _ => by split <;> infer_instance

instance : Advancing place := .andThen fun _ => by split <;> infer_instance

instance (kind : TokenKind) : Advancing (sees kind) := by unfold sees; infer_instance

instance (kind : TokenKind) : Advancing (accept kind) := by unfold accept; infer_instance

instance (kinds : List TokenKind) : Advancing (acceptAny kinds) := by unfold acceptAny; infer_instance

instance (kind : TokenKind) : Advancing (expect kind) := by unfold expect; infer_instance

instance (w : Text) : Advancing (seesMark w) := by unfold seesMark; infer_instance

instance (w : Text) : Advancing (seesWord w) := by unfold seesWord; infer_instance

instance (w : Text) : Advancing (acceptMark w) := by unfold acceptMark; infer_instance

instance (w : Text) : Advancing (acceptWord w) := by unfold acceptWord; infer_instance

instance (w : Text) : Advancing (mark w) := by unfold mark; infer_instance

instance (w : Text) : Advancing (word w) := by unfold word; infer_instance

instance : Advancing name := .andThen fun _ => by split <;> infer_instance

instance (test : Bool) : Advancing (require test) := by unfold require; infer_instance

instance Advancing.many [Advancing step] (bound : Nat) : Advancing (many step bound) := by
  induction bound with
  | zero => exact .pure
  | succ bound ih => unfold Parse.many; infer_instance

instance Advancing.items [Advancing starts] [Advancing item] (bound : Nat) :
    Advancing (items starts item bound) := by
  induction bound with
  | zero => exact .failure
  | succ bound ih => unfold Parse.items; infer_instance

instance Advancing.separated [Advancing item] (bound : Nat) : Advancing (separated item bound) := by
  induction bound with
  | zero => exact .failure
  | succ bound ih => unfold Parse.separated; infer_instance

end

end Parse

end SourceAtlas.Source
