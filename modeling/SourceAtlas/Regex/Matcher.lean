import SourceAtlas.Regex.Basic

/-!
Matching by backtracking. `Regex.run` follows an expression and hands every way to match it, best first,
to a continuation, until the continuation succeeds. A repetition never begins an optional round at the
place where the last optional round began, so it ends although its body may match nothing.
-/

namespace SourceAtlas.Regex

/-! ## States -/

/-- A captured stretch of the text. -/
structure Capture where
  group : Nat
  start : Nat
  stop : Nat
deriving DecidableEq, Repr

/-- A place in a text and the captures so far, the latest first. What lies before is kept in reverse. -/
structure State where
  position : Nat
  before : Text
  after : Text
  captures : List Capture
deriving DecidableEq, Repr

namespace State

/-- The state behind the next character, given what follows it. -/
def step (c : CodePoint) (rest : Text) (s : State) : State := ⟨s.position + 1, c :: s.before, rest, s.captures⟩

/-- The state `n` characters back, if there are so many. -/
def back? : Nat → State → Option State
  | 0, s => some s
  | n + 1, s => match s.before with
    | [] => none
    | c :: before => back? n ⟨s.position - 1, before, c :: s.after, s.captures⟩

/-- The latest capture of a group. -/
def capture? (index : Nat) (s : State) : Option Capture := s.captures.find? (·.group = index)

/-- The text that a group captured. -/
def captured? (index : Nat) (s : State) : Option Text :=
  (s.capture? index).map fun c =>
    ((s.before.reverse ++ s.after).drop c.start).take (c.stop - c.start)

end State

/-! ## Parts that never branch -/

/-- Does an anchor hold? In an empty text nothing is at the edge of a word, nor away from one. -/
def Anchor.holds (s : State) : Anchor → Bool
  | .textStart => s.before.isEmpty
  | .lineStart => match s.before with
    | [] => true
    | c :: _ => c = '\n'
  | .textEnd => s.after.isEmpty
  | .lastLineEnd => match s.after with
    | [] => true
    | c :: rest => c = '\n' && rest.isEmpty
  | .lineEnd => match s.after with
    | [] => true
    | c :: _ => c = '\n'
  | .wordEdge ascii negated =>
    let isWord : Option CodePoint → Bool := fun c => c.any fun c => Kind.word.has ascii c
    if s.before.isEmpty && s.after.isEmpty then false
    else (isWord s.before.head? != isWord s.after.head?) != negated

/-- Takes the next character if it passes a test. -/
def takeOne (p : CodePoint → Bool) (s : State) : Option State :=
  match s.after with
  | [] => none
  | c :: rest => if p c then some (s.step c rest) else none

/-- Takes a given text, letter by letter. -/
def takeText (f : Folding) : Text → State → Option State
  | [], s => some s
  | c :: cs, s => (takeOne (fun d => f.fold c = f.fold d) s).bind (takeText f cs)

/-! ## Repetition -/

/-- What is done with a state in order to complete a match. -/
abbrev Continue := State → Option State

/-- Is another round allowed after `count` of them? -/
def mayRepeat (count : Nat) : Option Nat → Bool
  | none => true
  | some most => count < most

/-- Rounds of a body, as many as possible first. `last` is where the last optional round began. -/
def greedy (body : Continue → Continue) (least : Nat) (most : Option Nat) (k : Continue) :
    (fuel count : Nat) → Option Nat → Continue
  | 0, _, _, _ => none
  | fuel + 1, count, last, s =>
    if count < least then body (greedy body least most k fuel (count + 1) last) s
    else if mayRepeat count most && last != some s.position then
      match body (greedy body least most k fuel (count + 1) (some s.position)) s with
      | some done => some done
      | none => k s
    else k s

/-- Rounds of a body, as few as possible first. -/
def lazy (body : Continue → Continue) (least : Nat) (most : Option Nat) (k : Continue) :
    (fuel count : Nat) → Option Nat → Continue
  | 0, _, _, _ => none
  | fuel + 1, count, last, s =>
    if count < least then body (lazy body least most k fuel (count + 1) last) s
    else match k s with
      | some done => some done
      | none =>
        if mayRepeat count most && last != some s.position then
          body (lazy body least most k fuel (count + 1) (some s.position)) s
        else none

/-- Rounds of a body, each taken the first way it matches and never given back. -/
def possessive (body : Continue → Continue) (least : Nat) (most : Option Nat) :
    (fuel count : Nat) → Option Nat → Continue
  | 0, _, _, _ => none
  | fuel + 1, count, last, s =>
    if count < least then
      (body some s).bind (possessive body least most fuel (count + 1) last)
    else if mayRepeat count most && last != some s.position then
      match body some s with
      | some next => possessive body least most fuel (count + 1) (some s.position) next
      | none => some s
    else some s

/-- Rounds enough for any repetition: the forced ones, one per character left, and two more. -/
def rounds (least : Nat) (s : State) : Nat := least + s.after.length + 2

/-! ## Expressions -/

/-- Follows an expression from a state and goes on with `k`. -/
def run : Regex → Continue → Continue
  | .fail, _, _ => none
  | .empty, k, s => k s
  | .char c f, k, s => (takeOne (f.agrees c) s).bind k
  | .set chars, k, s => (takeOne chars.has s).bind k
  | .any newlines, k, s => (takeOne (fun c => newlines || c != '\n') s).bind k
  | .anchor a, k, s => if a.holds s then k s else none
  | .seq first second, k, s => run first (run second k) s
  | .alt first second, k, s => match run first k s with
    | some done => some done
    | none => run second k s
  | .group index body, k, s =>
    run body (fun e => k { e with captures := ⟨index, s.position, e.position⟩ :: e.captures }) s
  | .same index f, k, s => ((s.captured? index).bind fun t => takeText f t s).bind k
  | .many least most greed body, k, s => match greed with
    | .greedy => greedy (run body) least most k (rounds least s) 0 none s
    | .lazy => lazy (run body) least most k (rounds least s) 0 none s
    | .possessive => (possessive (run body) least most (rounds least s) 0 none s).bind k
  | .ahead negated body, k, s => match run body some s with
    | some found => if negated then none else k { s with captures := found.captures }
    | none => if negated then k s else none
  | .behind negated least _ body, k, s => match (s.back? least).bind (run body some) with
    | some found => if negated then none else k { s with captures := found.captures }
    | none => if negated then k s else none
  | .atomic body, k, s => (run body some s).bind k
  | .whether index yes no, k, s =>
    if (s.capture? index).isSome then run yes k s else run no k s

/-! ## Searching -/

/-- The first match at or behind a place, searching from left to right. -/
def searchFrom (r : Regex) (position : Nat) (before : Text) : Text → Option State
  | [] => r.run some ⟨position, before, [], []⟩
  | c :: rest => match r.run some ⟨position, before, c :: rest, []⟩ with
    | some found => some found
    | none => searchFrom r (position + 1) (c :: before) rest

/-- The first match in a text. -/
def search (r : Regex) (t : Text) : Option State := r.searchFrom 0 [] t

/-- Does the expression match anywhere in a text? -/
def occursIn (r : Regex) (t : Text) : Bool := (r.search t).isSome

end SourceAtlas.Regex
