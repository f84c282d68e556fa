/-!
Texts as sequences of code points. A text may hold surrogate code points: file names keep undecodable
bytes in them, and escapes in string literals can spell them. The order on texts is the order of their
code points, read from the left.
-/

namespace SourceAtlas

/-- A code point, surrogates included. -/
abbrev CodePoint := Fin 0x110000

/-- A sequence of code points. -/
abbrev Text := List CodePoint

namespace CodePoint

/-! ## Code points -/

/-- The code point of a character. -/
def ofChar (c : Char) : CodePoint :=
  ⟨c.toNat, by
    have h : c.toNat = c.val.toNat := rfl
    have v := c.valid
    rw [h]
    rcases v with v | ⟨_, v⟩ <;> omega⟩

instance : Coe Char CodePoint := ⟨ofChar⟩

/-- The code point with a given number; numbers out of range wrap around. -/
def ofNat (n : Nat) : CodePoint := Fin.ofNat 0x110000 n

/-- The character of a code point that is no surrogate. -/
def toChar? (c : CodePoint) : Option Char :=
  if h : c.val.isValidChar then some (Char.ofNatAux c.val h) else none

/-- A code point reserved for pairs, which stands for no character on its own. -/
def isSurrogate (c : CodePoint) : Bool := 0xD800 ≤ c.val && c.val ≤ 0xDFFF

/-- The first half of a pair. -/
def isHighSurrogate (c : CodePoint) : Bool := 0xD800 ≤ c.val && c.val ≤ 0xDBFF

/-- The second half of a pair. -/
def isLowSurrogate (c : CodePoint) : Bool := 0xDC00 ≤ c.val && c.val ≤ 0xDFFF

/-- A surrogate that stands for a byte of a file name that is no UTF-8. -/
def isByte (c : CodePoint) : Bool := 0xDC80 ≤ c.val && c.val ≤ 0xDCFF

/-- The supplementary code point that a pair stands for. -/
def ofPair (high low : CodePoint) : CodePoint :=
  ofNat (0x10000 + (high.val - 0xD800) * 0x400 + (low.val - 0xDC00))

/-! ## ASCII -/

/-- One of the first 128 code points. -/
def isAscii (c : CodePoint) : Bool := c.val < 128

/-- A digit `0` to `9`. -/
def isAsciiDigit (c : CodePoint) : Bool := 48 ≤ c.val && c.val ≤ 57

/-- A letter `A` to `Z` or `a` to `z`. -/
def isAsciiLetter (c : CodePoint) : Bool :=
  (65 ≤ c.val && c.val ≤ 90) || (97 ≤ c.val && c.val ≤ 122)

/-- An ASCII letter or digit. -/
def isAsciiAlnum (c : CodePoint) : Bool := c.isAsciiLetter || c.isAsciiDigit

/-- Lower-cases `A` to `Z` and keeps everything else. -/
def asciiLower (c : CodePoint) : CodePoint :=
  if 65 ≤ c.val && c.val ≤ 90 then ofNat (c.val + 32) else c

/-- The value of a digit in a base of up to 36, letters of either case following `9`. -/
def digit? (base : Nat) (c : CodePoint) : Option Nat :=
  let value :=
    if c.isAsciiDigit then c.val - 48
    else if c.isAsciiLetter then c.asciiLower.val - 97 + 10
    else base
  if value < base then some value else none

end CodePoint

/-! ## Texts -/

namespace Text

/-- The text of a string. -/
def ofString (s : String) : Text := s.toList.map CodePoint.ofChar

instance : Coe String Text := ⟨ofString⟩

/-- The string of a text; a surrogate becomes U+FFFD, so this serves display only. -/
def toString (t : Text) : String := String.ofList (t.map fun c => c.toChar?.getD '\uFFFD')

/-- What follows a given beginning, if the text has it. -/
def after? : Text → Text → Option Text
  | [], t => some t
  | _ :: _, [] => none
  | b :: bs, c :: cs => if b = c then after? bs cs else none

/-- Does the text begin so? -/
def beginsWith (beginning t : Text) : Bool := (after? beginning t).isSome

/-- Does the text occur anywhere inside? -/
def occursIn (part : Text) : Text → Bool
  | [] => beginsWith part []
  | c :: cs => beginsWith part (c :: cs) || occursIn part cs

/-- The pieces between separators; there is one piece more than there are separators. -/
def split (separator : CodePoint) : Text → List Text
  | [] => [[]]
  | c :: cs =>
    if c = separator then [] :: split separator cs
    else match split separator cs with
      | [] => [[c]]
      | piece :: pieces => (c :: piece) :: pieces

/-- Pieces put together with a separator between them. -/
def join (separator : Text) : List Text → Text
  | [] => []
  | [piece] => piece
  | piece :: pieces => piece ++ separator ++ join separator pieces

/-- The text without its longest ending that holds only such code points. -/
def dropEndWhile (p : CodePoint → Bool) (t : Text) : Text := (t.reverse.dropWhile p).reverse

/-- The text without such code points at either end. -/
def trim (p : CodePoint → Bool) (t : Text) : Text := dropEndWhile p (t.dropWhile p)

/-- `n` copies of a text. -/
def times (n : Nat) (t : Text) : Text := (List.replicate n t).flatten

/-- The text in decimal digits of a number. -/
def ofNat (n : Nat) : Text := ofString (Nat.repr n)

/-- The text in decimal digits of an integer, with a sign if it is negative. -/
def ofInt : Int → Text
  | .ofNat n => ofNat n
  | .negSucc n => (CodePoint.ofChar '-') :: ofNat (n + 1)

/-- A hexadecimal digit in lower case. -/
def hexDigit (n : Nat) : CodePoint := CodePoint.ofNat (if n < 10 then 48 + n else 87 + n)

/-- The last `width` hexadecimal digits of a number. -/
def hex : (width : Nat) → Nat → Text
  | 0, _ => []
  | width + 1, n => hex width (n / 16) ++ [hexDigit (n % 16)]

/-! ### Small laws -/

theorem after?_eq_some_iff {beginning t rest : Text} :
    after? beginning t = some rest ↔ t = beginning ++ rest := by
  induction beginning generalizing t with
  | nil => simp [after?, eq_comm]
  | cons b bs ih =>
    cases t with
    | nil => simp [after?]
    | cons c cs =>
      by_cases h : b = c
      · simp [after?, h, ih]
      · simp [after?, h, Ne.symm h]

theorem split_ne_nil (separator : CodePoint) (t : Text) : split separator t ≠ [] := by
  induction t with
  | nil => simp [split]
  | cons c cs ih =>
    by_cases h : c = separator
    · simp [split, h]
    · simp only [split, h, if_false]
      split <;> simp

theorem join_split (separator : CodePoint) (t : Text) : join [separator] (split separator t) = t := by
  induction t with
  | nil => rfl
  | cons c cs ih =>
    cases hs : split separator cs with
    | nil => exact absurd hs (split_ne_nil separator cs)
    | cons piece pieces =>
      rw [hs] at ih
      by_cases h : c = separator
      · simp [split, h, hs, join, ih]
      · cases pieces with
        | nil => simpa [split, h, hs, join] using ih
        | cons p ps => simpa [split, h, hs, join] using ih

end Text

end SourceAtlas
