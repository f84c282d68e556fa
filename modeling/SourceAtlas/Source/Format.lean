import SourceAtlas.Source.Literal

/-!
Formatted string literals. Their body is a sequence of plain pieces and fields in braces. A field holds an
expression, possibly a conversion and possibly a format, which again is a sequence of pieces and fields.
The expression may hold neither backslashes nor comments, so quotes and brackets alone tell where it ends.
-/

namespace SourceAtlas.Source.Format

/-- Fields may stand in the format of a field, but not deeper. -/
def maxDepth : Nat := 2

/-! ## Pieces -/

/-- A plain piece: its text, whether it ends in a doubled brace, which stands for one brace and is followed
by a further piece, and what follows. -/
structure Piece where
  text : Text
  doubled : Bool
  rest : Text

/-- Puts a character before a piece. -/
def Piece.cons (c : CodePoint) (p : Piece) : Piece := { p with text := c :: p.text }

/-- Is a character a brace? -/
def isBrace (c : CodePoint) : Bool := c = '\x7b' || c = '\x7d'

/-- Reads a plain piece. Braces are doubled only outside fields, where a closing one must be. The braces
around the name of a character belong to the piece; `named` says that such a name has begun. -/
def piece (raw nested : Bool) : (named : Bool) → Text → Option Piece
  | _, [] => some ⟨[], false, []⟩
  | true, c :: cs => (piece raw nested (c ≠ '\x7d') cs).map (Piece.cons c)
  | false, c :: cs =>
    if c = '\\' && !raw then
      match cs with
      | [] => some ⟨[c], false, []⟩
      | d :: ds =>
        if d = 'N' then
          match ds with
          | e :: es =>
            if e = '\x7b' then
              (piece raw nested true es).map fun p => .cons c (.cons d (.cons e p))
            else none
          | [] => none
        else if isBrace d then (piece raw nested false (d :: ds)).map (Piece.cons c)
        else (piece raw nested false ds).map fun p => .cons c (.cons d p)
    else if isBrace c then
      if nested then some ⟨[], false, c :: cs⟩
      else if cs.head? = some c then some ⟨[c], true, cs.drop 1⟩
      else if c = '\x7d' then none
      else some ⟨[], false, c :: cs⟩
    else (piece raw nested false cs).map (Piece.cons c)

/-- Can the text of a piece be read? -/
def Piece.isValid (raw : Bool) (p : Piece) : Bool := raw || (StringLiteral.unescape p.text).isSome

/-! ## Expressions -/

/-- Does the text go on with the same character twice more? -/
def isTripled (c : CodePoint) (cs : Text) : Bool := Text.beginsWith [c, c] cs

/-- The end of a quoted text inside an expression: what is quoted, with the closing quotes, and the rest. -/
def quotedEnd? (quote : CodePoint) (triple : Bool) : Text → Option (Text × Text)
  | [] => none
  | c :: cs =>
    if c = '\\' then none
    else if c = quote then
      if triple then
        match cs with
        | d :: e :: rest =>
          if d = quote && e = quote then some ([c, d, e], rest)
          else (quotedEnd? quote triple cs).map fun (t, rest) => (c :: t, rest)
        | _ => (quotedEnd? quote triple cs).map fun (t, rest) => (c :: t, rest)
      else some ([c], cs)
    else (quotedEnd? quote triple cs).map fun (t, rest) => (c :: t, rest)

/-- The bracket that closes what a character opens. -/
def closing? (c : CodePoint) : Option CodePoint :=
  match c.toChar? with
  | some '(' => some ')'
  | some '[' => some ']'
  | some '\x7b' => some '\x7d'
  | _ => none

/-- May an expression end at this character? A conversion, a format, the brace at the end and a single
equals sign end it; a comparison does not. -/
def endsExpression (c : CodePoint) (next : Option CodePoint) : Bool :=
  c = ':' || c = '\x7d' || (c = '!' || c = '=') && next ≠ some '='

/-- Is this the first character of a comparison of two? -/
def startsComparison (c : CodePoint) (next : Option CodePoint) : Bool :=
  (c = '!' || c = '=' || c = '<' || c = '>') && next = some '='

/-- Reads an expression up to where it ends, with the closing brackets that are awaited. -/
def expression : (fuel : Nat) → (brackets : Text) → Text → Option (Text × Text)
  | 0, _, _ => none
  | _, _, [] => none
  | fuel + 1, brackets, c :: cs =>
    let goOn (taken : Text) (brackets rest : Text) : Option (Text × Text) :=
      (expression fuel brackets rest).map fun (t, rest) => (taken ++ t, rest)
    if c = '\\' || c = '#' then none
    else if c = '\'' || c = '"' then
      if isTripled c cs then do
        let (t, rest) ← quotedEnd? c true (cs.drop 2)
        goOn (c :: c :: c :: t) brackets rest
      else do
        let (t, rest) ← quotedEnd? c false cs
        goOn (c :: t) brackets rest
    else match closing? c with
    | some close => goOn [c] (close :: brackets) cs
    | none =>
      if brackets.isEmpty && startsComparison c cs.head? then goOn (c :: cs.take 1) brackets (cs.drop 1)
      else if brackets.isEmpty && endsExpression c cs.head? then some ([], c :: cs)
      else if c = ')' || c = ']' || c = '\x7d' then
        match brackets with
        | b :: outer => if b = c then goOn [c] outer cs else none
        | [] => none
      else goOn [c] brackets cs

/-- Is there nothing but blanks? -/
def isBare (t : Text) : Bool := t.all fun c => c = ' ' || c = '\t' || c = '\n' || c = '\x0c'

/-! ## Fields -/

/-- Skips an equals sign and the blanks behind it, if there is one. -/
def afterEquals (t : Text) : Text :=
  match Text.after? "=" t with
  | some rest => rest.dropWhile fun c => (9 ≤ c.val && c.val ≤ 13) || c = ' '
  | none => t

/-- Skips a conversion, if there is one. It is one of three letters. -/
def afterConversion? (t : Text) : Option Text :=
  match Text.after? "!" t with
  | some (c :: rest) =>
    if (c = 's' || c = 'r' || c = 'a') && Numeral.startsWith (fun d => d = ':' || d = '\x7d') rest then some rest
    else none
  | some [] => none
  | none => some t

/-- Reads pieces and fields: all of a body, or the format of a field up to the brace behind it. -/
def pieces (isExpression : Text → Bool) (raw : Bool) : (fuel : Nat) → (depth : Nat) → Text → Option Text
  | 0, _, _ => none
  | fuel + 1, depth, t => do
    let p ← piece raw (depth ≠ 0) false t
    if !p.isValid raw then none
    else if p.doubled then pieces isExpression raw fuel depth p.rest
    else match p.rest with
    | [] => some []
    | c :: cs =>
      if c = '\x7d' then some p.rest
      else if maxDepth ≤ depth then none
      else
        let (source, rest) ← expression (cs.length + 1) [] cs
        if isBare source || !isExpression source then none
        else
          let rest ← afterConversion? (afterEquals rest)
          let rest ← match Text.after? ":" rest with
            | some format => pieces isExpression raw fuel (depth + 1) format
            | none => some rest
          let rest ← Text.after? "\x7d" rest
          pieces isExpression raw fuel depth rest

/-- Is a formatted literal well formed? -/
def isWellFormed (isExpression : Text → Bool) (s : StringLiteral) : Bool :=
  pieces isExpression s.raw (2 * s.body.length + 2) 0 s.body = some []

end SourceAtlas.Source.Format
