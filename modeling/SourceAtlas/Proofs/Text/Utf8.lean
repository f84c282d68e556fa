import Mathlib.Algebra.Group.Nat.Defs
import SourceAtlas.Text.Utf8

/-!
What is decoded can be encoded again. A byte that begins a sequence restricts the one behind it such that
the sequence comes to no surrogate, and what is no sequence comes to none either.

Main statement: `exists_encode_decode`.
-/

namespace SourceAtlas.Utf8

/-- A sequence that has begun comes to no surrogate: what it may come to lies below the surrogates, or above
them and in range. -/
def Pending.IsSound (p : Pending) : Prop :=
  (p.missing = 1 ∨ p.missing = 2 ∨ p.missing = 3) ∧ 0x80 ≤ p.low.toNat ∧ p.high.toNat ≤ 0xBF
    ∧ ((p.value * 64 + (p.high.toNat - 0x80) + 1) * 64 ^ (p.missing - 1) ≤ 0xD800
      ∨ (0xE000 ≤ (p.value * 64 + (p.low.toNat - 0x80)) * 64 ^ (p.missing - 1)
        ∧ (p.value * 64 + (p.high.toNat - 0x80) + 1) * 64 ^ (p.missing - 1) ≤ 0x110000))

instance (p : Pending) : Decidable p.IsSound := by unfold Pending.IsSound; infer_instance

/-- What a byte begins is sound: a code point that is no surrogate, or a sequence that comes to none. -/
def IsSoundStart : CodePoint ⊕ Option Pending → Prop
  | .inl c => c.isSurrogate = false
  | .inr none => True
  | .inr (some p) => p.IsSound

instance (start : CodePoint ⊕ Option Pending) : Decidable (IsSoundStart start) := by
  unfold IsSoundStart
  split <;> infer_instance

/-- What a first byte begins is sound. -/
theorem isSoundStart_begin? (b : UInt8) : IsSoundStart (begin? b) := by
  have all : ∀ n < 256, IsSoundStart (begin? (UInt8.ofNat n)) := by decide +kernel
  have h := all b.toNat b.toNat_lt
  rwa [UInt8.ofNat_toNat] at h

/-- Outside of their range there are no surrogates. -/
theorem isSurrogate_ofNat {n : Nat} (h : n < 0xD800 ∨ 0xE000 ≤ n ∧ n < 0x110000) :
    (CodePoint.ofNat n).isSurrogate = false := by
  have value : (CodePoint.ofNat n).val = n := Nat.mod_eq_of_lt (by omega)
  rw [CodePoint.isSurrogate, value, Bool.and_eq_false_iff, decide_eq_false_iff_not, decide_eq_false_iff_not]
  omega

section

variable {p : Pending} {b : UInt8}

/-- The last byte of a sound sequence makes a code point that is no surrogate. -/
theorem Pending.IsSound.last (h : p.IsSound) (hlow : p.low ≤ b) (hhigh : b ≤ p.high) (hone : p.missing = 1) :
    (CodePoint.ofNat (p.value * 64 + (b.toNat - 0x80))).isSurrogate = false := by
  obtain ⟨-, hmin, hmax, hrange⟩ := h
  rw [UInt8.le_iff_toNat_le] at hlow hhigh
  rw [hone, Nat.sub_self, Nat.pow_zero, Nat.mul_one, Nat.mul_one] at hrange
  exact isSurrogate_ofNat (by omega)

/-- Any other byte leaves a sound sequence: what this may come to is a part of what it might before. -/
theorem Pending.IsSound.next (h : p.IsSound) (hlow : p.low ≤ b) (hhigh : b ≤ p.high) (hmore : p.missing ≠ 1) :
    Pending.IsSound ⟨p.missing - 1, p.value * 64 + (b.toNat - 0x80), 0x80, 0xBF⟩ := by
  obtain ⟨hmissing, -, -, hrange⟩ := h
  rw [UInt8.le_iff_toNat_le] at hlow hhigh
  obtain ⟨m, hm⟩ : ∃ m, p.missing = m + 2 := ⟨p.missing - 2, by omega⟩
  rw [hm, Nat.add_sub_cancel (n := m + 1) (m := 1), Nat.pow_succ'] at hrange
  let value := p.value * 64 + (b.toNat - 0x80)
  have upper : (value * 64 + 63 + 1) * 64 ^ m
      ≤ (p.value * 64 + (p.high.toNat - 0x80) + 1) * (64 * 64 ^ m) := by
    rw [← Nat.mul_assoc]
    exact Nat.mul_le_mul_right _ (by omega)
  have lower : (p.value * 64 + (p.low.toNat - 0x80)) * (64 * 64 ^ m) ≤ (value * 64 + 0) * 64 ^ m := by
    rw [← Nat.mul_assoc]
    exact Nat.mul_le_mul_right _ (by omega)
  refine ⟨by dsimp only; omega, Nat.le_refl 0x80, Nat.le_refl 0xBF, ?_⟩
  have missing : p.missing - 1 - 1 = m := by omega
  dsimp only
  rw [missing]
  exact hrange.imp (Nat.le_trans upper) fun hbetween =>
    ⟨Nat.le_trans hbetween.1 lower, Nat.le_trans upper hbetween.2⟩

end

theorem decodeFrom_none_cons (b : UInt8) (bs : Bytes) : decodeFrom none (b :: bs) = match begin? b with
    | .inl c => c :: decodeFrom none bs
    | .inr none => replacement :: decodeFrom none bs
    | .inr next => decodeFrom next bs := rfl

theorem decodeFrom_some_cons (p : Pending) (b : UInt8) (bs : Bytes) : decodeFrom (some p) (b :: bs)
    = if p.low ≤ b && b ≤ p.high then
        if p.missing = 1 then CodePoint.ofNat (p.value * 64 + (b.toNat - 0x80)) :: decodeFrom none bs
        else decodeFrom (some ⟨p.missing - 1, p.value * 64 + (b.toNat - 0x80), 0x80, 0xBF⟩) bs
      else replacement :: decodeFrom none (b :: bs) := rfl

/-- Whatever sound sequence has begun, no surrogates are decoded. -/
theorem isSurrogate_of_mem_decodeFrom {pending : Option Pending} (h : ∀ p, pending = some p → p.IsSound)
    {bytes : Bytes} : ∀ c ∈ decodeFrom pending bytes, c.isSurrogate = false := by
  have plain : replacement.isSurrogate = false := by decide
  induction bytes generalizing pending with
  | nil =>
    cases pending with
    | none => exact fun c hc => absurd hc List.not_mem_nil
    | some p => exact fun c hc => List.mem_singleton.1 hc ▸ plain
  | cons b bs ih =>
    have none_sound : ∀ c ∈ decodeFrom none bs, c.isSurrogate = false := ih fun p hp => nomatch hp
    have fresh : ∀ c ∈ decodeFrom none (b :: bs), c.isSurrogate = false := by
      have start := isSoundStart_begin? b
      rw [decodeFrom_none_cons]
      split
      · next hbegin =>
        rw [hbegin] at start
        exact List.forall_mem_cons.2 ⟨start, none_sound⟩
      · exact List.forall_mem_cons.2 ⟨plain, none_sound⟩
      · next next hnext hbegin =>
        refine ih fun p hp => ?_
        rw [hbegin, hp] at start
        exact start
    cases pending with
    | none => exact fresh
    | some p =>
      rw [decodeFrom_some_cons]
      split
      · next hbounds =>
        rw [Bool.and_eq_true, decide_eq_true_iff, decide_eq_true_iff] at hbounds
        have sound := h p rfl
        split
        · next hone => exact List.forall_mem_cons.2 ⟨sound.last hbounds.1 hbounds.2 hone, none_sound⟩
        · next hmore =>
          exact ih fun q hq => Option.some.inj hq ▸ sound.next hbounds.1 hbounds.2 hmore
      · exact List.forall_mem_cons.2 ⟨plain, fresh⟩

/-- What is decoded can be encoded. -/
theorem exists_encode_decode (bytes : Bytes) : ∃ again, encode (decode bytes) = .ok again := by
  have plain : ∀ c ∈ decode bytes, c.isSurrogate = false :=
    isSurrogate_of_mem_decodeFrom fun p (hp : none = some p) => nomatch hp
  exact ⟨_, by rw [encode, firstSurrogates_eq_none_iff.2 plain]⟩

end SourceAtlas.Utf8
