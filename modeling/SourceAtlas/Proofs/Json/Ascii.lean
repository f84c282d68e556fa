import SourceAtlas.Proofs.Json.RoundTrip
import SourceAtlas.Proofs.Text.Encodable

/-!
Written values are ASCII. Whatever the strings of a value hold, its written form has nothing but the first 128 code
points: all others are escaped, and an escape is spelt with hexadecimal digits.

Main statement: `isAscii_write`.
-/

namespace SourceAtlas

/-- A text of nothing but ASCII. -/
def Text.IsAscii (t : Text) : Prop := ∀ c ∈ t, c.isAscii = true

instance (t : Text) : Decidable t.IsAscii := decidable_of_iff (t.all CodePoint.isAscii = true) List.all_eq_true

namespace Text

variable {s t : Text}

/-- Texts put together are ASCII just if both are. -/
theorem isAscii_append : IsAscii (s ++ t) ↔ IsAscii s ∧ IsAscii t := List.forall_mem_append

theorem isAscii_cons {c : CodePoint} : IsAscii (c :: t) ↔ c.isAscii = true ∧ IsAscii t := List.forall_mem_cons

/-- Hexadecimal digits are ASCII. -/
theorem isAscii_hex (width n : Nat) : IsAscii (hex width n) := by
  have hdigit : ∀ m < 16, (hexDigit m).isAscii = true := by decide
  induction width generalizing n with
  | zero => nofun
  | succ width ih =>
    rw [hex, isAscii_append]
    exact ⟨ih _, by simpa [IsAscii] using hdigit _ (Nat.mod_lt n (by decide))⟩

/-- ASCII has no surrogates, so it can be encoded. -/
theorem IsAscii.exists_encode (h : IsAscii t) : ∃ bytes, Utf8.encode t = .ok bytes := by
  refine Utf8.exists_encode_iff.2 fun c hc => ?_
  have hlt : c.val < 128 := by simpa [CodePoint.isAscii] using h c hc
  have hle : ¬ 0xD800 ≤ c.val := by omega
  simp [CodePoint.isSurrogate, hle]

end Text

namespace Json

open Text

/-- So are escapes of code units. -/
theorem isAscii_escapeUnit (n : Nat) : IsAscii (escapeUnit n) := by
  have hmarks : IsAscii ("\\u" : Text) := by decide
  exact isAscii_append.2 ⟨hmarks, isAscii_hex 4 n⟩

/-- A character is written in ASCII. -/
theorem isAscii_writeChar (c : CodePoint) : IsAscii (writeChar c) := by
  unfold writeChar
  -- seven short escapes, then the character itself, one unit or two
  iterate 7
    split
    · decide
  split
  · next h =>
    rw [Bool.and_eq_true, decide_eq_true_iff, decide_eq_true_iff] at h
    rw [isAscii_cons]
    exact ⟨by simp only [CodePoint.isAscii, decide_eq_true_iff]; omega, nofun⟩
  split
  · exact isAscii_escapeUnit _
  · exact isAscii_append.2 ⟨isAscii_escapeUnit _, isAscii_escapeUnit _⟩

/-- So is a string. -/
theorem isAscii_writeString (t : Text) : IsAscii (writeString t) := by
  have hquote : IsAscii ("\"" : Text) := by decide
  refine isAscii_cons.2 ⟨by decide, isAscii_append.2 ⟨?_, hquote⟩⟩
  intro c hc
  obtain ⟨d, -, hc⟩ := List.mem_flatMap.1 hc
  exact isAscii_writeChar d c hc

mutual

/-- So is every value. -/
theorem isAscii_write : (v : Json) → v.IsTextual → IsAscii (write v)
  | .null, _ => by unfold write; decide
  | .bool b, _ => by cases b <;> (unfold write; decide)
  | .string t, _ => isAscii_writeString t
  | .array items, h => by
    rw [write, isAscii_cons, isAscii_append]
    exact ⟨by decide, isAscii_writeItems items h, by decide⟩
  | .object members, h => by
    rw [write, isAscii_cons, isAscii_append]
    exact ⟨by decide, isAscii_writeMembers members h.2, by decide⟩

/-- So are the items of an array. -/
theorem isAscii_writeItems : (items : List Json) → AreTextual items → IsAscii (writeItems items)
  | [], _ => nofun
  | [v], h => isAscii_write v h.1
  | v :: w :: more, h => by
    rw [writeItems_cons_cons, isAscii_append, isAscii_cons, isAscii_cons]
    exact ⟨isAscii_write v h.1, by decide, by decide, isAscii_writeItems (w :: more) h.2⟩

/-- So are the members of an object. -/
theorem isAscii_writeMembers : (members : List (Text × Json)) → HoldTextual members → IsAscii (writeMembers members)
  | [], _ => nofun
  | [(k, v)], h => by
    rw [writeMembers_singleton, isAscii_append, isAscii_cons, isAscii_cons]
    exact ⟨isAscii_writeString k, by decide, by decide, isAscii_write v h.1⟩
  | (k, v) :: m :: more, h => by
    rw [writeMembers_cons_cons, isAscii_append, isAscii_cons, isAscii_cons, isAscii_append, isAscii_cons,
      isAscii_cons]
    exact ⟨isAscii_writeString k, by decide, by decide, isAscii_write v h.1, by decide, by decide,
      isAscii_writeMembers (m :: more) h.2⟩

end

end Json

end SourceAtlas
