import SourceAtlas.Text.Basic

/-!
UTF-8. Encoding refuses surrogates and says where they stand. Decoding never fails: every longest
beginning of a sequence that cannot go on becomes one U+FFFD. Texts that must be encodable, such as keys,
may have their surrogates spelt out first.
-/

namespace SourceAtlas

/-- A sequence of bytes. -/
abbrev Bytes := List UInt8

namespace Utf8

/-! ## Encoding -/

/-- The bytes of one code point, one to four by its size. -/
def encodeOne (c : CodePoint) : Bytes :=
  let n := c.val
  let tail (shift : Nat) : UInt8 := UInt8.ofNat (0x80 + n / shift % 64)
  if n < 0x80 then [UInt8.ofNat n]
  else if n < 0x800 then [UInt8.ofNat (0xC0 + n / 64), tail 1]
  else if n < 0x10000 then [UInt8.ofNat (0xE0 + n / 4096), tail 64, tail 1]
  else [UInt8.ofNat (0xF0 + n / 262144), tail 4096, tail 64, tail 1]

/-- A run of surrogates that cannot be encoded: the first of them, its position and how many more follow. -/
structure EncodeError where
  first : CodePoint
  position : Nat
  more : Nat
deriving DecidableEq, Repr

/-- The wording of an encoding error; a single surrogate is spelt out, a run is given by its ends. -/
def EncodeError.message (e : EncodeError) : Text :=
  let reason : Text := ": surrogates not allowed"
  if e.more = 0 then
    "'utf-8' codec can't encode character '\\u" ++ Text.hex 4 e.first.val ++ "' in position "
      ++ Text.ofNat e.position ++ reason
  else
    "'utf-8' codec can't encode characters in position " ++ Text.ofNat e.position ++ "-"
      ++ Text.ofNat (e.position + e.more) ++ reason

/-- The first run of surrogates, positions counted from `position`. -/
def firstSurrogates (position : Nat) : Text → Option EncodeError
  | [] => none
  | c :: cs =>
    if c.isSurrogate then some ⟨c, position, (cs.takeWhile CodePoint.isSurrogate).length⟩
    else firstSurrogates (position + 1) cs

/-- The bytes of a text without surrogates. -/
def encode (t : Text) : Except EncodeError Bytes :=
  match firstSurrogates 0 t with
  | some e => .error e
  | none => .ok (t.flatMap encodeOne)

/-- The first run of surrogates of which no byte of a file name is the first one, positions counted from `position`.
Names of files may hold surrogates that stand for bytes, and no others. -/
def firstUnnamable (position : Nat) : Text → Option EncodeError
  | [] => none
  | c :: cs =>
    if c.isSurrogate && !c.isByte then some ⟨c, position, (cs.takeWhile CodePoint.isSurrogate).length⟩
    else firstUnnamable (position + 1) cs

/-- Every surrogate written out as a backslash, `u` and four hexadecimal digits. -/
def spellSurrogates (t : Text) : Text :=
  t.flatMap fun c => if c.isSurrogate then ("\\u" : Text) ++ Text.hex 4 c.val else [c]

/-! ## Decoding -/

/-- A sequence that has begun: how many bytes are missing, the value so far, and the range that the next
byte must lie in. -/
structure Pending where
  missing : Nat
  value : Nat
  low : UInt8
  high : UInt8

/-- What a byte begins: a finished code point, a longer sequence, or nothing. -/
def begin? (b : UInt8) : CodePoint ⊕ Option Pending :=
  if b < 0x80 then .inl (CodePoint.ofNat b.toNat)
  else .inr <|
    if b < 0xC2 then none
    else if b < 0xE0 then some ⟨1, b.toNat - 0xC0, 0x80, 0xBF⟩
    else if b < 0xF0 then
      some ⟨2, b.toNat - 0xE0, if b = 0xE0 then 0xA0 else 0x80, if b = 0xED then 0x9F else 0xBF⟩
    else if b < 0xF5 then
      some ⟨3, b.toNat - 0xF0, if b = 0xF0 then 0x90 else 0x80, if b = 0xF4 then 0x8F else 0xBF⟩
    else none

/-- What stands for a sequence that is not UTF-8. -/
def replacement : CodePoint := '\uFFFD'

/-- Decodes with a sequence possibly begun. A byte that cannot continue it ends it and begins anew. -/
def decodeFrom : Option Pending → Bytes → Text
  | none, [] => []
  | some _, [] => [replacement]
  | pending, b :: bs =>
    let fresh (_ : Unit) : Text := match begin? b with
      | .inl c => c :: decodeFrom none bs
      | .inr none => replacement :: decodeFrom none bs
      | .inr next => decodeFrom next bs
    match pending with
    | none => fresh ()
    | some p =>
      if p.low ≤ b && b ≤ p.high then
        let value := p.value * 64 + (b.toNat - 0x80)
        if p.missing = 1 then CodePoint.ofNat value :: decodeFrom none bs
        else decodeFrom (some ⟨p.missing - 1, value, 0x80, 0xBF⟩) bs
      else replacement :: fresh ()

/-- The text of any bytes, with U+FFFD for what is not UTF-8. -/
def decode (bytes : Bytes) : Text := decodeFrom none bytes

/-! ### Small laws -/

theorem firstSurrogates_eq_none_iff {t : Text} {position : Nat} :
    firstSurrogates position t = none ↔ ∀ c ∈ t, c.isSurrogate = false := by
  induction t generalizing position with
  | nil => simp [firstSurrogates]
  | cons c cs ih => cases h : c.isSurrogate <;> simp [firstSurrogates, h, ih]

end Utf8

end SourceAtlas
