import SourceAtlas.Regex.Basic
import SourceAtlas.Regex.Fault
import SourceAtlas.Text.Numeral
import SourceAtlas.Unicode.Identifier
import SourceAtlas.Unicode.Names

/-!
Reading regular expressions. A pattern is read from left to right, one symbol at a time, a symbol being a
character or a backslash with the character after it; a fault is reported at the first symbol that shows
it. Along the way the reader keeps the groups, and the least and most characters that each part can take.
-/

namespace SourceAtlas.Regex

/-! ## What the reader keeps -/

/-- Counts of repetition, and widths, stay below this bound. -/
def countBound : Nat := 4294967295

/-- The least and the most characters that a part can take. -/
structure Width where
  least : Nat
  most : Nat
deriving DecidableEq, Repr

/-- Widths of whole parts are cut off at the bound. -/
def Width.clamp (w : Width) : Width := ⟨min w.least (countBound - 1), min w.most countBound⟩

/-- The settings that flags turn on and off. -/
structure Flags where
  ignoreCase : Bool := false
  multiline : Bool := false
  dotAll : Bool := false
  verbose : Bool := false
  ascii : Bool := false
  unicode : Bool := false
  template : Bool := false
deriving DecidableEq, Repr

namespace Flags

/-- The flags that are on in either. -/
def union (f g : Flags) : Flags :=
  ⟨f.ignoreCase || g.ignoreCase, f.multiline || g.multiline, f.dotAll || g.dotAll,
    f.verbose || g.verbose, f.ascii || g.ascii, f.unicode || g.unicode, f.template || g.template⟩

/-- The flags that are on in the first and off in the second. -/
def without (f g : Flags) : Flags :=
  ⟨f.ignoreCase && !g.ignoreCase, f.multiline && !g.multiline, f.dotAll && !g.dotAll,
    f.verbose && !g.verbose, f.ascii && !g.ascii, f.unicode && !g.unicode, f.template && !g.template⟩

/-- Is any flag on in both? -/
def meets (f g : Flags) : Bool :=
  f.ignoreCase && g.ignoreCase || f.multiline && g.multiline || f.dotAll && g.dotAll
    || f.verbose && g.verbose || f.ascii && g.ascii || f.unicode && g.unicode

/-- Is one of the two flags on that say which characters classes hold? -/
def hasKind (f : Flags) : Bool := f.ascii || f.unicode

/-- The flags inside a group that turns some on and others off. -/
def within (f on off : Flags) : Flags :=
  let base := if on.hasKind then { f with ascii := false, unicode := false } else f
  (base.union on).without off

/-- The flag of a letter. -/
def ofLetter? (c : CodePoint) : Option Flags :=
  match c.toChar? with
  | some 'i' => some { ignoreCase := true }
  | some 'm' => some { multiline := true }
  | some 's' => some { dotAll := true }
  | some 'x' => some { verbose := true }
  | some 'a' => some { ascii := true }
  | some 'u' => some { unicode := true }
  | some 't' => some { template := true }
  | some 'L' => some {}
  | _ => none

/-- How characters are compared under the flags. -/
def folding (f : Flags) : Folding := if f.ignoreCase then if f.ascii then .ascii else .unicode else .exact

end Flags

/-- What the reader has seen and what is left. `groups` is the number of the next group; `closed` holds the
widths of groups that are complete; `conditions` the groups that conditionals ask for, with the place of
the first question; `floor` the number of the next group at the start of the outermost look-behind. -/
structure Progress where
  rest : Text
  position : Nat
  flags : Flags
  groups : Nat := 1
  names : List (Text × Nat) := []
  closed : List (Nat × Width) := []
  conditions : List (Nat × Nat) := []
  floor : Option Nat := none

/-- A step of reading. -/
abbrev Reader := StateT Progress (Except Fault)

/-- A part of a sequence. Anchors cannot be repeated, and repetitions not again. -/
structure Part where
  regex : Regex
  width : Width
  isAnchor : Bool := false
  isRepeated : Bool := false

namespace Reader

/-! ## Symbols -/

/-- Reports a fault `back` characters before the next symbol. -/
def fail {α : Type} (cause : Cause) (back : Nat) : Reader α := do
  throw (.located cause ((← get).position - back))

/-- The symbol at the start of a text. -/
def symbol : Text → Text
  | [] => []
  | [c] => [c]
  | c :: d :: _ => if c = '\\' then [c, d] else [c]

/-- The next symbol, empty at the end. -/
def peek : Reader Text := do return symbol (← get).rest

/-- Goes to a place. A lone backslash there is a fault. -/
def goTo (position : Nat) (rest : Text) : Reader Unit := do
  if rest = "\\" then throw (.located .endsInBackslash position)
  modify fun s => { s with rest, position }

/-- Takes the next symbol, empty at the end. -/
def take : Reader Text := do
  let s ← get
  let this := symbol s.rest
  goTo (s.position + this.length) (s.rest.drop this.length)
  return this

/-- Takes the next symbol if it is a given character. -/
def accept (c : CodePoint) : Reader Bool := do
  if (← peek) = [c] then
    let _ ← take
    return true
  else return false

/-- Takes at most `n` symbols that are characters of a kind. -/
def takeWhile (p : CodePoint → Bool) : Nat → Reader Text
  | 0 => return []
  | n + 1 => do
    match ← peek with
    | [c] =>
      if p c then
        let _ ← take
        return c :: (← takeWhile p n)
      else return []
    | _ => return []

/-- Takes a name up to a terminator, which is taken too. -/
def takeName (terminator : CodePoint) (what : Text) : (fuel : Nat) → Text → Reader Text
  | 0, name => return name
  | fuel + 1, name => do
    let this ← take
    if this.isEmpty then
      if name.isEmpty then fail (.noName what) 0 else fail (.unterminatedName terminator) name.length
    else if this = [terminator] then
      if name.isEmpty then fail (.noName what) 1 else return name
    else takeName terminator what fuel (name ++ this)

/-- Takes a name up to a terminator, of any length. -/
def nameUntil (terminator : CodePoint) (what : Text) : Reader Text := do
  takeName terminator what ((← get).rest.length + 1) []

/-! ## Escapes -/

/-- A hexadecimal digit. -/
def isHex (c : CodePoint) : Bool := (c.digit? 16).isSome

/-- An octal digit. -/
def isOctal (c : CodePoint) : Bool := (c.digit? 8).isSome

/-- The number that digits spell in a base. -/
def valueIn (base : Nat) (t : Text) : Nat := t.foldl (fun n c => base * n + (c.digit? base).getD 0) 0

/-- A code point given by exactly `count` hexadecimal digits. -/
def hexEscape (letter : CodePoint) (count : Nat) : Reader CodePoint := do
  let digits ← takeWhile isHex count
  let escape : Text := '\\' :: letter :: digits
  if digits.length ≠ count then fail (.incompleteEscape escape) escape.length
  let n := valueIn 16 digits
  if 0x10FFFF < n then fail (.badEscape escape) escape.length
  return CodePoint.ofNat n

/-- A code point given by its name in braces. A name that has no encoding is not looked up. -/
def namedEscape : Reader CodePoint := do
  if !(← accept '\x7b') then fail .noBrace 0
  let name ← nameUntil '\x7d' "character name"
  if name.any CodePoint.isSurrogate then fail (.badEscape ['\\', 'N']) 2
  match Unicode.named? name with
  | some c => return c
  | none => fail (.undefinedCharacter name) (name.length + 4)

/-- The characters that one letter after a backslash stands for. -/
def control? (c : CodePoint) : Option CodePoint :=
  match c.toChar? with
  | some 'a' => some (CodePoint.ofNat 7)
  | some 'b' => some (CodePoint.ofNat 8)
  | some 'f' => some (CodePoint.ofNat 12)
  | some 'n' => some '\n'
  | some 'r' => some '\r'
  | some 't' => some '\t'
  | some 'v' => some (CodePoint.ofNat 11)
  | some '\\' => some '\\'
  | _ => none

/-- The class that one letter after a backslash stands for. -/
def kind? (ascii : Bool) (c : CodePoint) : Option Item :=
  match c.toChar? with
  | some 'd' => some (.kind .digit ascii false)
  | some 'D' => some (.kind .digit ascii true)
  | some 's' => some (.kind .space ascii false)
  | some 'S' => some (.kind .space ascii true)
  | some 'w' => some (.kind .word ascii false)
  | some 'W' => some (.kind .word ascii true)
  | _ => none

/-- An escape inside a set. -/
def setEscape (c : CodePoint) : Reader Item := do
  match control? c, kind? (← get).flags.ascii c with
  | some d, _ => return .one d
  | none, some item => return item
  | none, none =>
    if c = 'x' then return .one (← hexEscape c 2)
    else if c = 'u' then return .one (← hexEscape c 4)
    else if c = 'U' then return .one (← hexEscape c 8)
    else if c = 'N' then return .one (← namedEscape)
    else if isOctal c then
      let digits := c :: (← takeWhile isOctal 2)
      let n := valueIn 8 digits
      if 0xFF < n then fail (.octalTooLarge ('\\' :: digits)) (digits.length + 1)
      return .one (CodePoint.ofNat n)
    else if c.isAsciiAlnum then fail (.badEscape ['\\', c]) 2
    else return .one c

/-- Refuses a reference to a group that is not complete or that a look-behind around it defines. -/
def checkLookbehind (index : Nat) : Reader Unit := do
  let s ← get
  match s.floor with
  | none => return ()
  | some floor =>
    if (s.closed.lookup index).isNone then fail .openGroup 0
    if floor ≤ index then fail .groupOfLookbehind 0

/-- A reference to a group by its number, which ended `back` characters before. -/
def reference (index back : Nat) : Reader Part := do
  let s ← get
  if index < s.groups then
    match s.closed.lookup index with
    | none => fail .openGroup back
    | some width =>
      checkLookbehind index
      return ⟨.same index s.flags.folding, width, false, false⟩
  else fail (.invalidGroup index) (back - 1)

/-- A part of width one. -/
def single (r : Regex) : Part := ⟨r, ⟨1, 1⟩, false, false⟩

/-- An anchor. -/
def anchored (a : Anchor) : Part := ⟨.anchor a, ⟨0, 0⟩, true, false⟩

/-- An escape outside of sets. -/
def escape (c : CodePoint) : Reader Part := do
  let f := (← get).flags
  let char (d : CodePoint) : Part := single (.char d f.folding)
  if c = 'A' then return anchored .textStart
  else if c = 'Z' then return anchored .textEnd
  else if c = 'b' then return anchored (.wordEdge f.ascii false)
  else if c = 'B' then return anchored (.wordEdge f.ascii true)
  else match kind? f.ascii c, control? c with
  | some item, _ => return single (.set ⟨false, [item], f.folding⟩)
  | none, some d => return char d
  | none, none =>
    if c = 'x' then return char (← hexEscape c 2)
    else if c = 'u' then return char (← hexEscape c 4)
    else if c = 'U' then return char (← hexEscape c 8)
    else if c = 'N' then return char (← namedEscape)
    else if c = '0' then
      let digits ← takeWhile isOctal 2
      return char (CodePoint.ofNat (valueIn 8 digits))
    else if c.isAsciiDigit then
      let second ← takeWhile CodePoint.isAsciiDigit 1
      let octal := !second.isEmpty && isOctal c && second.all isOctal
      let third ← if octal then takeWhile isOctal 1 else pure []
      let digits := c :: (second ++ third)
      if third.isEmpty then reference (valueIn 10 digits) (digits.length + 1)
      else
        let n := valueIn 8 digits
        if 0xFF < n then fail (.octalTooLarge ('\\' :: digits)) (digits.length + 1)
        return char (CodePoint.ofNat n)
    else if c.isAsciiLetter then fail (.badEscape ['\\', c]) 2
    else return char c

/-! ## Sets -/

/-- The item of a symbol in a set. -/
def setItem : Text → Reader Item
  | [c] => return .one c
  | [_, c] => setEscape c
  | _ => return .one '\\'

/-- The items of a set up to the closing bracket. `start` is the place of the opening one; the bracket
directly after it is an item. -/
def setItems (start : Nat) : (fuel : Nat) → List Item → Reader (List Item)
  | 0, items => return items.reverse
  | fuel + 1, items => do
    let this ← take
    let unterminated : Reader (List Item) := do fail .unterminatedSet ((← get).position - start)
    if this.isEmpty then unterminated
    else if this = "]" && !items.isEmpty then return items.reverse
    else
      let low ← setItem this
      if ← accept '-' then
        let that ← take
        if that.isEmpty then unterminated
        else if that = "]" then return (Item.one '-' :: low :: items).reverse
        else
          let high ← setItem that
          match low, high with
          | .one a, .one b =>
            if b < a then fail (.badRange this that) (this.length + 1 + that.length)
            else setItems start fuel (.range a b :: items)
          | _, _ => fail (.badRange this that) (this.length + 1 + that.length)
      else setItems start fuel (low :: items)

/-- A set whose opening bracket has just been taken. -/
def bracket : Reader Part := do
  let start := (← get).position - 1
  let negated ← accept '^'
  let items ← setItems start ((← get).rest.length + 1) []
  return single (.set ⟨negated, items, (← get).flags.folding⟩)

/-! ## Repetition -/

/-- A bound of a repetition. -/
def bound? (digits : Text) : Reader (Option Nat) := do
  if digits.isEmpty then return none
  let n := valueIn 10 digits
  if countBound ≤ n then throw .countTooLarge
  return some n

/-- The bounds of a repetition whose first symbol has been taken; none if it is a brace that opens no
repetition. -/
def bounds? (mark : CodePoint) : Reader (Option (Nat × Option Nat)) := do
  if mark = '?' then return some (0, some 1)
  else if mark = '*' then return some (0, none)
  else if mark = '+' then return some (1, none)
  else
    let here ← get
    if (← peek) = "\x7d" then return none
    let low ← takeWhile CodePoint.isAsciiDigit here.rest.length
    let high ← if ← accept ',' then takeWhile CodePoint.isAsciiDigit here.rest.length else pure low
    if !(← accept '\x7d') then
      goTo here.position here.rest
      return none
    let least := (← bound? low).getD 0
    let most ← bound? high
    if most.any (· < least) then fail .leastAboveMost ((← get).position - here.position)
    return some (least, most)

/-- The mark behind a repetition that says what it tries first. At most one such mark is taken. -/
def greed : Reader Greed := do
  if ← accept '?' then return .lazy
  else do
    if ← accept '+' then return .possessive else return .greedy

/-- Repeats the last part. `here` is the place behind the first symbol of the repetition. -/
def repetition (here least : Nat) (most : Option Nat) : List Part → Reader (List Part)
  | [] => do fail .nothingToRepeat ((← get).position - here + 1)
  | last :: parts => do
    if last.isAnchor then fail .nothingToRepeat ((← get).position - here + 1)
    if last.isRepeated then fail .multipleRepeat ((← get).position - here + 1)
    let greed ← greed
    let width : Width := ⟨last.width.least * least, last.width.most * most.getD countBound⟩
    return ⟨.many least most greed last.regex, width, false, true⟩ :: parts

/-! ## Flags -/

/-- Does the symbol consist of one letter? -/
def isLetter : Text → Bool
  | [c] => Unicode.isIdentifierStart c && c != '_'
  | _ => false

/-- The flag of a symbol. -/
def flag? : Text → Option Flags
  | [c] => Flags.ofLetter? c
  | _ => none

/-- Flags that are turned on, from the symbol of the first one, up to the symbol that ends them. -/
def flagsOn : (fuel : Nat) → Text → Flags → Reader (Flags × Text)
  | 0, this, on => return (on, this)
  | fuel + 1, this, on => do
    match flag? this with
    | none => return (on, this)
    | some flag =>
      if this = "L" then fail .localeFlag 0
      let on := on.union flag
      if flag.hasKind && on.ascii && on.unicode then fail .clashingFlags 0
      let next ← take
      if next.isEmpty then fail .noFlagEnd 0
      else if next = ")" || next = "-" || next = ":" then return (on, next)
      else if (flag? next).isSome then flagsOn fuel next on
      else fail (if isLetter next then .unknownFlag else .noFlagEnd) next.length

/-- Flags that are turned off, up to the colon. -/
def flagsOff : (fuel : Nat) → Text → Flags → Reader Flags
  | 0, _, off => return off
  | fuel + 1, this, off => do
    match flag? this with
    | none => return off
    | some flag =>
      if flag.hasKind || this = "L" then fail .kindFlagOff 0
      let off := off.union flag
      let next ← take
      if next.isEmpty then fail .noColon 0
      else if next = ":" then return off
      else if (flag? next).isSome then flagsOff fuel next off
      else fail (if isLetter next then .unknownFlag else .noColon) next.length

/-- The flags of a group, from their first symbol: those of the whole pattern, or those turned on and off
inside the group. -/
def groupFlags (first : Text) : Reader (Flags ⊕ Flags × Flags) := do
  let fuel := (← get).rest.length + 1
  let (on, ending) ← if first = "-" then pure ({}, first) else flagsOn fuel first {}
  if ending = ")" then return .inl on
  if on.template then fail .globalFlagOn 1
  let off ← if ending = "-" then do
      let this ← take
      if this.isEmpty then fail .noFlag 0
      if (flag? this).isNone then fail (if isLetter this then .unknownFlag else .noFlag) this.length
      flagsOff fuel this {}
    else pure {}
  if off.template then fail .globalFlagOff 1
  if on.meets off then fail .flagOnAndOff 1
  return .inr (on, off)

/-! ## Groups -/

/-- Opens a group and returns its number. -/
def openGroup (name : Option Text) : Reader Nat := do
  let s ← get
  let index := s.groups
  modify fun s => { s with groups := index + 1 }
  match name with
  | none => return index
  | some name =>
    match s.names.lookup name with
    | some earlier => fail (.redefinition name index earlier) (name.length + 1)
    | none =>
      modify fun s => { s with names := (name, index) :: s.names }
      return index

/-- Refuses a group name that is no identifier. -/
def checkName (name : Text) : Reader Unit := do
  if !Unicode.isIdentifier name then fail (.badGroupName name) (name.length + 1)

/-- The group that a conditional asks for. -/
def condition : Reader Nat := do
  let name ← nameUntil ')' "group name"
  let back := name.length + 1
  let index ←
    if Unicode.isIdentifier name then
      match (← get).names.lookup name with
      | some index => pure index
      | none => fail (.unknownGroupName name) back
    else match Text.readInt? name with
      | some (.ofNat 0) => fail .zeroGroup back
      | some (.ofNat (index + 1)) => do
        if 1073741823 ≤ index + 1 then fail (.invalidGroup (index + 1)) back
        let s ← get
        if (s.conditions.lookup (index + 1)).isNone then
          let question := (index + 1, s.position - back)
          modify fun s => { s with conditions := s.conditions ++ [question] }
        pure (index + 1)
      | _ => fail (.badGroupName name) back
  checkLookbehind index
  return index

/-- Takes the parenthesis that closes the group opened at `start`. -/
def closing (start : Nat) : Reader Unit := do
  if !(← accept ')') then fail .unterminatedGroup ((← get).position - start)

/-- Skips a comment up to its closing parenthesis. -/
def comment (start : Nat) : (fuel : Nat) → Reader Unit
  | 0 => return ()
  | fuel + 1 => do
    if (← peek).isEmpty then fail .unterminatedComment ((← get).position - start)
    if (← take) = ")" then return () else comment start fuel

/-- Skips a comment up to the end of its line. -/
def lineComment : (fuel : Nat) → Reader Unit
  | 0 => return ()
  | fuel + 1 => do
    let this ← take
    if this.isEmpty || this = "\n" then return () else lineComment fuel

/-- The parts of a sequence as one expression. -/
def joined (parts : List Part) : Regex × Width :=
  let width : Width :=
    parts.foldl (fun w p => ⟨w.least + p.width.least, w.most + p.width.most⟩) ⟨0, 0⟩
  (sequence (parts.reverse.map Part.regex), width.clamp)

/-- The widths of alternatives. -/
def widest (first : Width) (more : List Width) : Width :=
  (more.foldl (fun w v => (⟨min w.least v.least, max w.most v.most⟩ : Width)) first).clamp

/-- What a parenthesis and what follows it open: nothing further, a part that is complete, the flags of the
whole pattern, or a group of some sort. -/
inductive Opening where
  | nothing
  | complete (part : Part)
  | globalFlags (flags : Flags)
  | captured (name : Option Text)
  | flagged (on off : Flags)
  | atomic
  | look (behind negated : Bool)
  | conditional (index : Nat)

/-- Reads what a parenthesis at `start`, just taken, opens. -/
def opening (start : Nat) : Reader Opening := do
  if !(← accept '?') then return .captured none
  let this ← take
  if this.isEmpty then fail .unexpectedEnd 0
  else if this = "P" then
    if ← accept '<' then
      let name ← nameUntil '>' "group name"
      checkName name
      return .captured (some name)
    else if ← accept '=' then
      let name ← nameUntil ')' "group name"
      checkName name
      match (← get).names.lookup name with
      | none => fail (.unknownGroupName name) (name.length + 1)
      | some index => return .complete (← reference index (name.length + 1))
    else
      let that ← take
      if that.isEmpty then fail .unexpectedEnd 0
      fail (.unknownExtension ("?P" ++ that)) (that.length + 2)
  else if this = ":" then return .flagged {} {}
  else if this = "#" then
    comment start ((← get).rest.length + 1)
    return .nothing
  else if this = "=" || this = "!" then return .look false (this = "!")
  else if this = "<" then
    let that ← take
    if that.isEmpty then fail .unexpectedEnd 0
    else if that = "=" || that = "!" then return .look true (that = "!")
    else fail (.unknownExtension ("?<" ++ that)) (that.length + 2)
  else if this = "(" then return .conditional (← condition)
  else if this = ">" then return .atomic
  else if (flag? this).isSome || this = "-" then
    match ← groupFlags this with
    | .inl flags => return .globalFlags flags
    | .inr (on, off) => return .flagged on off
  else fail (.unknownExtension ("?" ++ this)) (this.length + 1)

/-! ## Expressions -/

mutual

/-- Alternatives up to a closing parenthesis or the end. `outermost` says that no group is open. -/
def alternatives (outermost : Bool) : (fuel : Nat) → Reader (Regex × Width)
  | 0 => return (.empty, ⟨0, 0⟩)
  | fuel + 1 => do
    let first := joined (← parts outermost fuel [])
    let more ← furtherAlternatives fuel
    return (choice (first.1 :: more.map Prod.fst), widest first.2 (more.map Prod.snd))

/-- The alternatives after the first. -/
def furtherAlternatives : (fuel : Nat) → Reader (List (Regex × Width))
  | 0 => return []
  | fuel + 1 => do
    if ← accept '|' then
      let next := joined (← parts false fuel [])
      return next :: (← furtherAlternatives fuel)
    else return []

/-- Parts up to a bar, a closing parenthesis or the end, in reverse. `first` says that flags of the whole
pattern may still come. -/
def parts (first : Bool) : (fuel : Nat) → List Part → Reader (List Part)
  | 0, done => return done
  | fuel + 1, done => do
    let next ← peek
    if next.isEmpty || next = "|" || next = ")" then return done
    let this ← take
    let f := (← get).flags
    match this with
    | [c] =>
      if f.verbose && (c = ' ' || (9 ≤ c.val && c.val ≤ 13)) then parts first fuel done
      else if f.verbose && c = '#' then
        lineComment ((← get).rest.length + 1)
        parts first fuel done
      else if c = '[' then parts first fuel ((← bracket) :: done)
      else if c = '*' || c = '+' || c = '?' || c = '\x7b' then
        let here := (← get).position
        match ← bounds? c with
        | some (least, most) => parts first fuel (← repetition here least most done)
        | none => parts first fuel (single (.char c f.folding) :: done)
      else if c = '.' then parts first fuel (single (.any f.dotAll) :: done)
      else if c = '^' then
        parts first fuel (anchored (if f.multiline then .lineStart else .textStart) :: done)
      else if c = '$' then
        parts first fuel (anchored (if f.multiline then .lineEnd else .lastLineEnd) :: done)
      else if c = '(' then
        let start := (← get).position - 1
        match ← opening start with
        | .nothing => parts first fuel done
        | .complete part => parts first fuel (part :: done)
        | .globalFlags flags =>
          if !first || !done.isEmpty then fail .lateGlobalFlags ((← get).position - start)
          modify fun s => { s with flags := s.flags.union flags }
          parts first fuel done
        | .captured name =>
          let index ← openGroup name
          let (r, width) ← alternatives false fuel
          closing start
          modify fun s => { s with closed := (index, width) :: s.closed }
          parts first fuel (⟨.group index r, width, false, false⟩ :: done)
        | .flagged on off =>
          modify fun s => { s with flags := s.flags.within on off }
          let (r, width) ← alternatives false fuel
          closing start
          modify fun s => { s with flags := f }
          parts first fuel (⟨r, width, false, false⟩ :: done)
        | .atomic =>
          let (r, width) ← alternatives false fuel
          closing start
          parts first fuel (⟨.atomic r, width, false, false⟩ :: done)
        | .look isBehind negated =>
          let floor := (← get).floor
          if isBehind && floor.isNone then modify fun s => { s with floor := some s.groups }
          let (r, width) ← alternatives false fuel
          if isBehind then modify fun s => { s with floor }
          closing start
          let part : Regex := if isBehind then .behind negated width.least width.most r else .ahead negated r
          parts first fuel (⟨part, ⟨0, 0⟩, false, false⟩ :: done)
        | .conditional index =>
          let yes := joined (← parts false fuel [])
          let no ← if ← accept '|' then do
              let no := joined (← parts false fuel [])
              if (← peek) = "|" then fail .thirdBranch 0
              pure (some no)
            else pure none
          closing start
          let (r, width) := match no with
            | some no => (Regex.whether index yes.1 no.1,
                (⟨min yes.2.least no.2.least, max yes.2.most no.2.most⟩ : Width))
            | none => (Regex.whether index yes.1 .empty, ⟨0, yes.2.most⟩)
          parts first fuel (⟨r, width, false, false⟩ :: done)
      else parts first fuel (single (.char c f.folding) :: done)
    | [_, c] => parts first fuel ((← escape c) :: done)
    | _ => return done

end

/-- Why an expression cannot be used although it is spelt well, looked for from the outside in and from the left: a
look-behind of no fixed width, or a repetition under the template flag. -/
def refusal? (template : Bool) : Regex → Option Fault
  | .many _ _ greed body => if template then some (.templateRepetition greed) else refusal? template body
  | .behind _ least most body => if least ≠ most then some .looseLookbehind else refusal? template body
  | .seq first second => (refusal? template first).or (refusal? template second)
  | .alt first second => (refusal? template first).or (refusal? template second)
  | .whether _ yes no => (refusal? template yes).or (refusal? template no)
  | .group _ body => refusal? template body
  | .ahead _ body => refusal? template body
  | .atomic body => refusal? template body
  | .fail => none
  | .empty => none
  | .char _ _ => none
  | .set _ => none
  | .any _ => none
  | .anchor _ => none
  | .same _ _ => none

/-- Reads a whole pattern. -/
def whole (length : Nat) : Reader Regex := do
  let start ← get
  goTo start.position start.rest
  let (r, _) ← alternatives true (3 * length + 3)
  let s ← get
  if s.flags.ascii && s.flags.unicode then throw .globalFlagsClash
  if !s.rest.isEmpty then fail .unbalanced 0
  match s.conditions.find? fun c => s.groups ≤ c.1 with
  | some (index, position) => throw (.located (.invalidGroup index) position)
  | none =>
    match refusal? s.flags.template r with
    | some fault => throw fault
    | none => return r

end Reader

/-- The expression that a pattern spells, case being ignored throughout if asked for. -/
def read (ignoreCase : Bool) (pattern : Text) : Except Fault Regex :=
  (Reader.whole pattern.length).run' ⟨pattern, 0, { ignoreCase }, 1, [], [], [], none⟩

end SourceAtlas.Regex
