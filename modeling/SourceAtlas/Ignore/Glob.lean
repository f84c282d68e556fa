import SourceAtlas.Regex.Matcher

/-!
Globs: one component of an ignore rule as a regular expression that never crosses a slash. `*` stands for
any characters, `?` for one, brackets for one of a set, a backslash makes the next character plain.

Next to each expression stands the length of its usual written form, for a set with a range in the wrong
order is reported at its place there.
-/

namespace SourceAtlas.Ignore

/-- What is wrong with a rule: it is no rule at all, or a range of characters is in the wrong order. -/
inductive Fault where
  | invalid
  | badRange (low high : Text) (position : Nat)
deriving DecidableEq, Repr

/-- An expression and the length of its written form. -/
structure Written where
  regex : Regex
  length : Nat
deriving DecidableEq, Repr

/-- Any character but a slash. -/
def notSlash : Regex := .set ⟨true, [.one '/'], .exact⟩

/-- The characters that a backslash precedes in the written form. -/
def marked : Text := "()[]\x7b\x7d?*+-|^$\\.&~# \t\n\r\x0b\x0c"

/-- A plain character. -/
def plain (c : CodePoint) : Written := ⟨.char c .exact, if marked.contains c then 2 else 1⟩

/-! ## Sets -/

/-- A character as it is written in a set. -/
def setSymbol (c : CodePoint) : Text := if c = '\\' then "\\\\" else [c]

/-- The items of a set, starting at a place of the written form. A hyphen between two characters makes a
range, one at either end is plain. -/
def setItems (position : Nat) : Text → Except Fault (List Regex.Item)
  | [] => .ok []
  | [c] => .ok [.one c]
  | [c, d] => .ok [.one c, .one d]
  | c :: d :: e :: rest =>
    if d = '-' then
      if e < c then .error (.badRange (setSymbol c) (setSymbol e) position)
      else
        let width := (setSymbol c).length + 1 + (setSymbol e).length
        (setItems (position + width) rest).map (.range c e :: ·)
    else (setItems (position + (setSymbol c).length) (d :: e :: rest)).map (.one c :: ·)

/-- A set found behind an opening bracket: is it negated, what is inside, and what follows the closing
bracket. A closing bracket directly at the start belongs to the set. -/
structure Bracket where
  negated : Bool
  inside : Text
  rest : Text

/-- The set whose opening bracket stands before a text, if it is closed. -/
def bracket? (t : Text) : Option Bracket :=
  let (negated, body) := match t with
    | c :: rest => if c = '!' || c = '^' then (true, rest) else (false, t)
    | [] => (false, [])
  let (first, others) := match body with
    | c :: rest => if c = ']' then ([c], rest) else ([], body)
    | [] => ([], [])
  let more := others.takeWhile fun c : CodePoint => c != ']'
  match others.dropWhile fun c : CodePoint => c != ']' with
  | [] => none
  | _ :: rest => some ⟨negated, first ++ more, rest⟩

/-! ## Globs -/

/-- The items of a glob, each with the length of its written form. The result is `none` if a set is not
closed, which makes the whole rule void. `fuel` bounds the number of items by the length of the text. -/
def globItems (position : Nat) : (fuel : Nat) → Text → Except Fault (Option (List Written))
  | 0, _ => .ok (some [])
  | _, [] => .ok (some [])
  | fuel + 1, c :: rest =>
    let next (item : Written) (rest : Text) : Except Fault (Option (List Written)) :=
      (globItems (position + item.length) fuel rest).map fun items => items.map (item :: ·)
    if c = '\\' then
      match rest with
      | [] => .error .invalid
      | d :: rest => next (plain d) rest
    else if c = '*' then next ⟨.many 0 none .greedy notSlash, 5⟩ rest
    else if c = '?' then next ⟨notSlash, 4⟩ rest
    else if c = '[' then
      match bracket? rest with
      | none => .ok none
      | some b =>
        let opening := if b.negated then 2 else 1
        match setItems (position + opening) b.inside with
        | .error fault => .error fault
        | .ok items =>
          let length := opening + (b.inside.flatMap setSymbol).length + 1
          next ⟨.set ⟨b.negated, items, .exact⟩, length⟩ b.rest
    else next (plain c) rest

/-- The expressions of a glob that starts at a place of the written form. -/
def glob (position : Nat) (t : Text) : Except Fault (Option (List Written)) := globItems position t.length t

end SourceAtlas.Ignore
