import SourceAtlas.Source.Token
import SourceAtlas.Text.Numeral

/-!
Number literals. Only two things matter of a number: where it ends, and whether it is imaginary. A number
may not run into a name, except for the few words that can follow an operand.
-/

namespace SourceAtlas.Source.Numeral

/-- A number that has been read: is it imaginary, and what follows it? -/
structure Reading where
  imaginary : Bool
  rest : Text
deriving DecidableEq, Repr

/-- A digit of a base. -/
def isDigitOf (base : Nat) (c : CodePoint) : Bool := (c.digit? base).isSome

/-- Does a text start with such a character? -/
def startsWith (p : CodePoint → Bool) (t : Text) : Bool :=
  match t with
  | c :: _ => p c
  | [] => false

/-- What follows the digits that a text starts with. An underscore must have a digit behind it. -/
def afterDigits (isDigit : CodePoint → Bool) : Text → Option Text
  | [] => some []
  | c :: cs =>
    if isDigit c then afterDigits isDigit cs
    else if c = '_' then
      match cs with
      | d :: ds => if isDigit d then afterDigits isDigit ds else none
      | [] => none
    else some (c :: cs)

/-! ## The end of a number -/

/-- The words that may follow a number without a blank, if no name goes on behind them. -/
def followers : List Text := ["and", "else", "for", "or", "not"]

/-- The words of two letters that may follow a number without a blank, whatever comes behind them. -/
def shortFollowers : List Text := ["if", "in", "is"]

/-- May a number stop before this? -/
def mayStop (t : Text) : Bool :=
  !startsWith continuesName t
    || shortFollowers.any (Text.beginsWith · t)
    || followers.any fun w => match Text.after? w t with
      | some rest => !startsWith continuesName rest
      | none => false

/-- Stops a number here. -/
def stopAt (imaginary : Bool) (t : Text) : Option Reading :=
  if mayStop t then some ⟨imaginary, t⟩ else none

/-- The mark of an imaginary number, if it comes next, and the end. -/
def ending (t : Text) : Option Reading :=
  match t with
  | c :: rest => if c = 'j' || c = 'J' then stopAt true rest else stopAt false t
  | [] => some ⟨false, []⟩

/-- The exponent, if one comes next, and the end. The letter may also begin a word that follows. -/
def exponent (t : Text) : Option Reading :=
  match t with
  | c :: rest =>
    if c = 'e' || c = 'E' then
      let (signed, digits) := match rest with
        | s :: more => if s = '+' || s = '-' then (true, more) else (false, rest)
        | [] => (false, [])
      if startsWith CodePoint.isAsciiDigit digits then afterDigits CodePoint.isAsciiDigit digits >>= ending
      else if signed then none
      else stopAt false t
    else ending t
  | [] => some ⟨false, []⟩

/-- The digits behind a point, if there are any, and the rest of the number. -/
def fraction (t : Text) : Option Reading :=
  if startsWith CodePoint.isAsciiDigit t then afterDigits CodePoint.isAsciiDigit t >>= exponent
  else exponent t

/-! ## Whole numbers -/

/-- A number in base sixteen, eight or two, from behind the letter of the base. An underscore may come
first. -/
def based (base : Nat) (t : Text) : Option Reading := do
  let digits := (Text.after? "_" t).getD t
  if !startsWith (isDigitOf base) digits then none
  else
    let rest ← afterDigits (isDigitOf base) digits
    if startsWith CodePoint.isAsciiDigit rest then none else stopAt false rest

/-- The base that a letter after a zero stands for. -/
def baseOf? (c : CodePoint) : Option Nat :=
  match c.asciiLower.toChar? with
  | some 'x' => some 16
  | some 'o' => some 8
  | some 'b' => some 2
  | _ => none

/-- A number whose first digits are decimal. Leading zeros are left to fractions and imaginary numbers, and
a whole number may not have too many digits. -/
def decimal (t : Text) : Option Reading := do
  let rest ← afterDigits CodePoint.isAsciiDigit t
  let digits := (t.take (t.length - rest.length)).filter CodePoint.isAsciiDigit
  let leadingZero := digits.head? = some '0'
  match rest with
  | c :: more =>
    if c = '.' then fraction more
    else if c = 'j' || c = 'J' then ending rest
    else
      let reading ← exponent rest
      let whole := !(c = 'e' || c = 'E') || reading.rest = rest
      if leadingZero then
        if c = 'e' || c = 'E' || digits.all (· = '0') then some reading else none
      else if whole && Text.maxDigits < digits.length then none
      else some reading
  | [] =>
    if leadingZero && !digits.all (· = '0') || !leadingZero && Text.maxDigits < digits.length then none
    else some ⟨false, []⟩

/-- Reads the number that a text starts with. -/
def read? (t : Text) : Option Reading :=
  match t with
  | c :: rest =>
    if c = '.' then fraction rest
    else if c = '0' then
      match rest with
      | d :: more => match baseOf? d with
        | some base => based base more
        | none => decimal t
      | [] => some ⟨false, []⟩
    else decimal t
  | [] => none

end SourceAtlas.Source.Numeral
