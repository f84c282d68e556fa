import SourceAtlas.Source.Literal

/-!
From characters to tokens. Outside brackets the blanks at the start of a line tell its depth, and depths
become tokens of their own; inside brackets line ends count as blanks.
-/

namespace SourceAtlas.Source

/-! ## Depths -/

/-- The depth of a line, with tabs going to every eighth column and with tabs counted as one column. Both
have to agree on which of two lines is deeper. -/
structure Depth where
  column : Nat
  narrow : Nat
deriving DecidableEq, Repr

/-- No indentation. -/
def Depth.flush : Depth := ⟨0, 0⟩

/-- There may be this many open depths, the flush one included. -/
def maxDepths : Nat := 100

/-- So many brackets may be open at once. -/
def maxBrackets : Nat := 200

/-- The blanks at the start of a line: the depth they amount to, the first depth before a line was
continued with a backslash, and the text behind them. A form feed starts the count anew. -/
def margin (depth : Depth) (kept : Nat) : Text → Option (Depth × Nat × Text)
  | [] => some (depth, kept, [])
  | c :: cs =>
    if c = ' ' then margin ⟨depth.column + 1, depth.narrow + 1⟩ kept cs
    else if c = '\t' then margin ⟨(depth.column / 8 + 1) * 8, depth.narrow + 1⟩ kept cs
    else if c = '\x0c' then margin .flush kept cs
    else if c = '\\' then
      match cs with
      | d :: e :: rest =>
        if d = '\n' then margin depth (if kept = 0 then depth.column else kept) (e :: rest) else none
      | _ => none
    else some (depth, kept, c :: cs)

/-- Closes depths down to that of a line, and says how many were closed. -/
def close (depth : Depth) : List Depth → Option (Nat × List Depth)
  | [] => none
  | top :: below =>
    if depth.column < top.column then (close depth below).map fun (n, open_) => (n + 1, open_)
    else if depth = top then some (0, top :: below)
    else none

/-- The tokens that tell of a change of depth, and the depths that are open now, the innermost first. -/
def layout (depth : Depth) (depths : List Depth) : Option (List TokenKind × List Depth) :=
  match depths with
  | [] => none
  | top :: _ =>
    if top.column < depth.column then
      if depths.length < maxDepths && top.narrow < depth.narrow then some ([.indent], depth :: depths)
      else none
    else (close depth depths).map fun (n, open_) => (List.replicate n .dedent, open_)

/-! ## Tokens -/

/-- Where the lexer stands: the place, what is left, the open depths and the closing brackets it waits
for. -/
structure Lexer where
  place : Nat
  rest : Text
  depths : List Depth := [.flush]
  brackets : List Text := []

namespace Lexer

/-- The lexer behind some of the text. -/
def goTo (s : Lexer) (rest : Text) : Lexer :=
  { s with place := s.place + (s.rest.length - rest.length), rest }

/-- The text without blanks and a comment at its start. -/
def withoutBlanks (t : Text) : Text :=
  let t := t.dropWhile fun c : CodePoint => c == ' ' || c == '\t' || c == '\x0c'
  if t.head? = some '#' then t.dropWhile fun c : CodePoint => c != '\n' else t

/-- Brackets after a mark: an opening one waits for its counterpart, a closing one must be awaited. -/
def bracketsAfter (mark : Text) (brackets : List Text) : Option (List Text) :=
  match closing? mark with
  | some close => if brackets.length < maxBrackets then some (close :: brackets) else none
  | none =>
    if isClosing mark then
      match brackets with
      | b :: rest => if b = mark then some rest else none
      | [] => none
    else some brackets

/-- A mark, and what follows it. -/
def readMark? (t : Text) : Option (TokenKind × Text) := do
  let m ← mark? t
  return (.mark m, t.drop m.length)

/-- The token that a text starts with, and what follows it. -/
def readToken? (t : Text) : Option (TokenKind × Text) :=
  match t with
  | [] => none
  | c :: rest =>
    if startsName c || c = '"' || c = '\'' then
      match StringLiteral.marking? t with
      | some _ => (StringLiteral.read? t).map fun (literal, rest) => (.string literal, rest)
      | none =>
        let word := t.takeWhile continuesName
        (ofWord? word).map fun kind => (kind, t.drop word.length)
    else if c.isAsciiDigit || c = '.' && Numeral.startsWith CodePoint.isAsciiDigit rest then
      (Numeral.read? t).map fun reading => (.number reading.imaginary, reading.rest)
    else readMark? t

/-- The tokens from here on. `lineStart` says that the depth of a line has to be found out. -/
def tokens : (fuel : Nat) → (lineStart : Bool) → Lexer → Option (List Token)
  | 0, _, _ => none
  | fuel + 1, true, s => do
    let (depth, kept, rest) ← margin .flush 0 s.rest
    let here := s.goTo rest
    if Numeral.startsWith (fun c => c = '\n' || c = '#') rest then
      tokens fuel true (here.goTo ((withoutBlanks rest).drop 1))
    else if !here.brackets.isEmpty then tokens fuel false here
    else
      let depth : Depth := if kept = 0 then depth else ⟨kept, kept⟩
      let (kinds, depths) ← layout depth here.depths
      let more ← tokens fuel false { here with depths }
      return kinds.map (⟨·, here.place, here.place⟩) ++ more
  | fuel + 1, false, s =>
    let here := s.goTo (withoutBlanks s.rest)
    match here.rest with
    | [] => if here.brackets.isEmpty then some [⟨.finish, here.place, here.place⟩] else none
    | c :: rest =>
      if c = '\n' then
        let next := here.goTo rest
        if here.brackets.isEmpty then
          (tokens fuel true next).map (⟨.newline, here.place, here.place⟩ :: ·)
        else tokens fuel true next
      else if c = '\\' then
        match rest with
        | d :: e :: more => if d = '\n' then tokens fuel false (here.goTo (e :: more)) else none
        | _ => none
      else do
        let (kind, rest) ← readToken? here.rest
        let brackets ← match kind with
          | .mark m => bracketsAfter m here.brackets
          | _ => some here.brackets
        let next := { here.goTo rest with brackets }
        let more ← tokens fuel false next
        return ⟨kind, here.place, next.place⟩ :: more

end Lexer

/-- The tokens of a text whose lines end in line feeds, the last one too. -/
def lex (t : Text) : Option (List Token) :=
  Lexer.tokens (2 * t.length + 2) true { place := 0, rest := t }

end SourceAtlas.Source
