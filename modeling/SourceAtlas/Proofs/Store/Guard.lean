import SourceAtlas.Proofs.Payload
import SourceAtlas.Store

/-!
The guard around payloads. A text that holds no chunks raises one of four kinds of errors, each of which does
occur, and an entry is looked up under a guard against these four. Hence no text that is stored gets in the way of
a lookup: what raises an error counts as unreadable.

Main statements: `Payload.exists_fault_of_kind_iff`, `Store.getUnder_guarded`.
-/

namespace SourceAtlas

/-- The kinds of errors: a text that is no value, a name that is missing, a value that does not do what is asked of
it, a value without members, and every other. -/
inductive ErrorKind where
  | malformed
  | missingName
  | unfit
  | memberless
  | other
deriving DecidableEq, Repr

namespace Payload

/-- The kind of error that a fault raises. -/
def Fault.kind : Fault → ErrorKind
  | .json _ => .malformed
  | .notListed _ => .unfit
  | .chunk (.notAnObject _) => .memberless
  | .chunk .noContent => .missingName
  | .chunk (.parentsNotListed _) => .unfit

/-- What is read of a value that was stored. -/
theorem read_write_of_isTextual {v : Json} (h : v.IsTextual) : read (Json.write v) = items v.joined >>= chunks := by
  rw [read, Json.read_write h]

end Payload

namespace Store

/-- The errors that an entry is looked up under a guard against. -/
def guarded : List ErrorKind := [.malformed, .missingName, .unfit, .memberless]

/-- Looks a path up under a guard. An error that is not guarded against is passed on. -/
def getUnder (guard : List ErrorKind) (s : Store) (path : Text) : Except Payload.Fault Finding :=
  match s.row? (storageKey path) with
  | none => .ok .missing
  | some row => match Payload.read row.payload with
    | .ok chunks => .ok (.entry row.fingerprint chunks)
    | .error fault => if fault.kind ∈ guard then .ok (.unreadable row.payload fault) else .error fault

/-- Looks a path and a fingerprint up under a guard. -/
def lookupUnder (guard : List ErrorKind) (s : Store) (path fingerprint : Text) :
    Except Payload.Fault (Option (List Chunk)) :=
  (s.getUnder guard path).map (Finding.chunksFor? fingerprint)

end Store

/-- Texts that hold no chunks raise the errors that are guarded against, and no others. -/
theorem Payload.exists_fault_of_kind_iff {kind : ErrorKind} :
    (∃ source fault, read source = .error fault ∧ fault.kind = kind) ↔ kind ∈ Store.guarded := by
  constructor
  · rintro ⟨source, fault, -, rfl⟩
    cases fault with
    | json _ => simp [Fault.kind, Store.guarded]
    | notListed _ => simp [Fault.kind, Store.guarded]
    | chunk fault => cases fault <;> simp [Fault.kind, Store.guarded]
  · intro h
    have null : Json.IsTextual .null := trivial
    have arrayNull : Json.IsTextual (.array [.null]) := ⟨trivial, trivial⟩
    have arrayEmpty : Json.IsTextual (.array [.object []]) := ⟨⟨.nil, trivial⟩, trivial⟩
    cases kind with
    | malformed => exact ⟨[], _, rfl, rfl⟩
    | missingName => exact ⟨_, _, read_write_of_isTextual arrayEmpty, rfl⟩
    | unfit => exact ⟨_, _, read_write_of_isTextual null, rfl⟩
    | memberless => exact ⟨_, _, read_write_of_isTextual arrayNull, rfl⟩
    | other => exact absurd h (by decide)

namespace Store

/-- Nothing passes the guard, whatever text is stored. -/
theorem getUnder_guarded (s : Store) (path : Text) : s.getUnder guarded path = .ok (s.get path) := by
  unfold getUnder get
  cases s.row? (storageKey path) with
  | none => rfl
  | some row =>
    dsimp only
    cases hread : Payload.read row.payload with
    | ok chunks => rfl
    | error fault =>
      dsimp only
      rw [if_pos (Payload.exists_fault_of_kind_iff.1 ⟨_, fault, hread, rfl⟩)]

theorem lookupUnder_guarded (s : Store) (path fingerprint : Text) :
    s.lookupUnder guarded path fingerprint = .ok (s.lookup path fingerprint) := by
  rw [lookupUnder, getUnder_guarded]
  rfl

end Store

end SourceAtlas
