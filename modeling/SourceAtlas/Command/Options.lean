import SourceAtlas.Association
import SourceAtlas.Path
import SourceAtlas.Text.Numeral
import SourceAtlas.Text.Quoted

/-!
Command lines. Arguments are options, their values, or the directory. Long options may be cut short as
long as only one fits, short ones without values may share an argument, and behind two dashes nothing is an
option.

Readers of command lines differ in corners: here an argument such as `--opt=--` gives the option no value, and a
letter that is no option makes a fault of the short one before it. These are the corners of argparse as of 3.11.10.
-/

namespace SourceAtlas.Command

/-! ## Options -/

/-- The options there are. -/
inductive Key where
  | help
  | compress
  | query
  | ignoreCase
  | clear
  | clearDirectory
  | rebuild
  | cacheDirectory
  | batchSize
  | verbose
deriving DecidableEq, Repr

/-- The spellings of the options, in the order in which messages list them. -/
def spellings : List (Text × Key) := [
  ("-h", .help), ("--help", .help), ("--compress", .compress), ("-c", .compress), ("--query", .query),
  ("-q", .query), ("--ignore-case", .ignoreCase), ("-i", .ignoreCase), ("--clear", .clear),
  ("--clear-dir", .clearDirectory), ("--rebuild", .rebuild), ("--cache-dir", .cacheDirectory),
  ("--batch-size", .batchSize), ("--verbose", .verbose), ("-v", .verbose)]

/-- Does the option take a value? -/
def Key.takesValue : Key → Bool
  | .query | .cacheDirectory | .batchSize => true
  | _ => false

/-- The name by which messages call an option: all its spellings. -/
def Key.title (key : Key) : Text :=
  Text.join "/" ((spellings.filter fun s => s.2 = key).map Prod.fst)

/-- The options of which only one may be given. -/
def exclusive : List Key := [.clear, .clearDirectory, .rebuild]

/-- The size of batches that a command line asks for. Two dashes in place of a number leave it without a
value, and then no run can start. -/
inductive BatchSize where
  | standard
  | size (n : Int)
  | void
deriving DecidableEq, Repr

/-- What a command line asks for. -/
structure Options where
  directory : Text := "."
  compress : Bool := false
  query : Option Text := none
  ignoreCase : Bool := false
  clear : Bool := false
  clearDirectory : Bool := false
  rebuild : Bool := false
  cacheDirectory : Option Text := none
  batchSize : BatchSize := .standard
  verbose : Bool := false
deriving DecidableEq, Repr

/-- A command line that cannot be read. -/
inductive UsageFault where
  | ambiguous (argument : Text) (matches_ : List Text)
  | valueMissing (key : Key)
  | valueIgnored (key : Key) (value : Text)
  | notANumber (key : Key) (value : Text)
  | notAllowed (key other : Key)
  | unrecognized (arguments : List Text)
deriving DecidableEq, Repr

/-- The wording of a fault. -/
def UsageFault.message : UsageFault → Text
  | .ambiguous argument found =>
    "ambiguous option: " ++ argument ++ " could match " ++ Text.join ", " found
  | .valueMissing key => "argument " ++ key.title ++ ": expected one argument"
  | .valueIgnored key value =>
    "argument " ++ key.title ++ ": ignored explicit argument " ++ Text.quoted value
  | .notANumber key value => "argument " ++ key.title ++ ": invalid int value: " ++ Text.quoted value
  | .notAllowed key other => "argument " ++ key.title ++ ": not allowed with argument " ++ other.title
  | .unrecognized arguments => "unrecognized arguments: " ++ Text.join " " arguments

/-! ## Arguments -/

/-- What an argument is: a plain one, two dashes, an option that there is not, or an option as it is spelt,
perhaps with a value in the same argument. -/
inductive Argument where
  | plain (t : Text)
  | dashes
  | unknown (t : Text)
  | option (short : Bool) (key : Key) (value : Option Text)
deriving DecidableEq, Repr

/-- The argument as it stands on the command line, provided that it is no option. -/
def Argument.spelt : Argument → Text
  | .plain t => t
  | .dashes => "--"
  | .unknown t => t
  | .option _ _ _ => []

/-- Two dashes. -/
def twoDashes : Text := "--"

/-- Does a text start with one dash only? -/
def isShort (t : Text) : Bool := !Text.beginsWith twoDashes t

/-- A text up to the first equals sign, and what is behind it if there is one. -/
def cutAtEquals (t : Text) : Text × Option Text :=
  let before := t.takeWhile fun c : CodePoint => c != '='
  if before.length = t.length then (t, none) else (before, some (t.drop (before.length + 1)))

/-- The options that an argument may stand for, by their spellings, with the value in the argument. -/
def candidates (t : Text) : List (Text × Key × Option Text) :=
  if isShort t then
    spellings.filterMap fun (s, key) =>
      if s = t.take 2 then some (s, key, some (t.drop 2))
      else if Text.beginsWith t s then some (s, key, none)
      else none
  else
    let (start, value) := cutAtEquals t
    spellings.filterMap fun (s, key) => if Text.beginsWith start s then some (s, key, value) else none

/-- Does a text look like a negative number, with or without a point? -/
def isNegativeNumber (t : Text) : Bool :=
  match t with
  | [] => false
  | c :: rest =>
    let rest := if rest.getLast? = some '\n' then rest.dropLast else rest
    let whole := rest.takeWhile Unicode.isDecimal
    let behind := rest.drop whole.length
    c = '-' && (behind.isEmpty && !whole.isEmpty
      || behind.head? = some '.' && !(behind.drop 1).isEmpty && (behind.drop 1).all Unicode.isDecimal)

/-- What an argument is, if no two dashes came before it. -/
def classify (t : Text) : Except UsageFault Argument :=
  if t.head? ≠ some '-' then .ok (.plain t)
  else match Association.find? t spellings with
  | some key => .ok (.option (isShort t) key none)
  | none =>
    if t.length = 1 then .ok (.plain t)
    else
      let (start, value) := cutAtEquals t
      match value, Association.find? start spellings with
      | some _, some key => .ok (.option (isShort start) key value)
      | _, _ =>
        match candidates t with
        | [(s, key, value)] => .ok (.option (isShort s) key value)
        | [] => .ok (if isNegativeNumber t || t.contains ' ' then .plain t else .unknown t)
        | several => .error (.ambiguous t (several.map Prod.fst))

/-- What the arguments of a command line are. -/
def classifyAll : List Text → Except UsageFault (List Argument)
  | [] => .ok []
  | t :: rest =>
    if t = twoDashes then .ok (.dashes :: rest.map .plain)
    else do
      let first ← classify t
      return first :: (← classifyAll rest)

/-! ## Reading -/

/-- What has been read so far: the options, those of the exclusive ones that were given, whether there was
a directory, and arguments that mean nothing. -/
structure Reading where
  options : Options := {}
  given : List Key := []
  placed : Bool := false
  extras : List Text := []

/-- Reading ends early where help is asked for. -/
inductive Stop where
  | help
  | fault (fault : UsageFault)
deriving DecidableEq, Repr

/-- Sets an option that takes a value. Two dashes are no value. -/
def Reading.setValue (r : Reading) (key : Key) (value : Text) : Except Stop Reading :=
  let value? := if value = twoDashes then none else some value
  match key with
  | .query => .ok { r with options := { r.options with query := value? } }
  | .cacheDirectory => .ok { r with options := { r.options with cacheDirectory := value? } }
  | _ => match value? with
    | none => .ok { r with options := { r.options with batchSize := .void } }
    | some t => match Text.readInt? t with
      | some n => .ok { r with options := { r.options with batchSize := .size n } }
      | none => .error (.fault (.notANumber key t))

/-- Sets an option that takes no value. -/
def Reading.setSwitch (r : Reading) (key : Key) : Except Stop Reading :=
  if key = .help then .error .help
  else
    match if exclusive.contains key then exclusive.find? fun k => k ≠ key && r.given.contains k else none with
    | some other => .error (.fault (.notAllowed key other))
    | none =>
      let o := r.options
      .ok { r with
        given := key :: r.given
        options := match key with
          | .compress => { o with compress := true }
          | .ignoreCase => { o with ignoreCase := true }
          | .clear => { o with clear := true }
          | .clearDirectory => { o with clearDirectory := true }
          | .rebuild => { o with rebuild := true }
          | .verbose => { o with verbose := true }
          | _ => o }

/-- Sets several options that take no value. -/
def Reading.setSwitches (r : Reading) : List Key → Except Stop Reading
  | [] => .ok r
  | key :: rest => do (← r.setSwitch key).setSwitches rest

/-- The options without values that share an argument, and the one with a value at the end if there is
one: its value is the rest of the argument, or missing if nothing is left. -/
def sharedOptions (key : Key) : (letters : Text) → Except UsageFault (List Key × Option (Key × Option Text))
  | [] => .error (.valueIgnored key [])
  | letter :: rest =>
    match Association.find? (("-" : Text) ++ [letter]) spellings with
    | none => .error (.valueIgnored key (letter :: rest))
    | some next =>
      if next.takesValue then .ok ([key], some (next, if rest.isEmpty then none else some rest))
      else if rest.isEmpty then .ok ([key, next], none)
      else (sharedOptions next rest).map fun (keys, last) => (key :: keys, last)

/-- Takes the directory, if there has been none, or else nothing that has a meaning. -/
def Reading.takePlain (r : Reading) (t : Text) : Reading :=
  if r.placed then { r with extras := r.extras ++ [t] }
  else { r with placed := true, options := { r.options with directory := t } }

/-- Takes arguments that mean nothing. -/
def Reading.takeExtras (r : Reading) (extras : List Argument) : Reading :=
  { r with extras := r.extras ++ extras.map Argument.spelt }

/-- Takes the arguments behind the last option. Two dashes next to the directory are dropped. -/
def Reading.takeRest (r : Reading) (rest : List Argument) : Reading :=
  if r.placed then r.takeExtras rest
  else match rest with
  | .dashes :: first :: more => (r.takePlain first.spelt).takeExtras more
  | first :: .dashes :: more => (r.takePlain first.spelt).takeExtras more
  | [.dashes] => r
  | first :: more => (r.takePlain first.spelt).takeExtras more
  | [] => r

/-- Is an argument an option, known or not? -/
def Argument.isOption : Argument → Bool
  | .plain _ | .dashes => false
  | .unknown _ | .option _ _ _ => true

/-- Reads arguments from left to right. -/
def readFrom (r : Reading) : List Argument → Except Stop Reading
  | [] => .ok r
  | .plain t :: rest =>
    if rest.any Argument.isOption then readFrom (r.takePlain t) rest else .ok (r.takeRest (.plain t :: rest))
  | .dashes :: rest => .ok (r.takeRest (.dashes :: rest))
  | .unknown t :: rest => readFrom { r with extras := r.extras ++ [t] } rest
  | .option short key value :: rest =>
    let shared : Except UsageFault (List Key × Option (Key × Option Text)) :=
      if key.takesValue then .ok ([], some (key, value))
      else match value with
        | none => .ok ([key], none)
        | some v => if short then sharedOptions key v else .error (.valueIgnored key v)
    match shared with
    | .error fault => .error (.fault fault)
    | .ok (switches, none) => do readFrom (← r.setSwitches switches) rest
    | .ok (switches, some (last, some v)) => do
      readFrom (← (← r.setSwitches switches).setValue last v) rest
    | .ok (switches, some (last, none)) =>
      match rest with
      | .plain v :: rest => do readFrom (← (← r.setSwitches switches).setValue last v) rest
      | _ => .error (.fault (.valueMissing last))

/-- The options of a command line. -/
def read (arguments : List Text) : Except Stop Options := do
  let arguments ← (classifyAll arguments).mapError .fault
  let r ← readFrom {} arguments
  if r.extras.isEmpty then return r.options
  else throw (.fault (.unrecognized r.extras))

/-! ## Help -/

/-- How the program is called. -/
def usage : Text := Text.join "\n" [
  "usage: chizu [-h] [--compress] [--query PATTERN] [--ignore-case]",
  "             [--clear | --clear-dir | --rebuild] [--cache-dir CACHE_DIR]",
  "             [--batch-size BATCH_SIZE] [--verbose]",
  "             [directory]",
  ""]

/-- What the program says about itself. -/
def help : Text := usage ++ Text.join "\n" [
  "",
  "High-performance repository entity mapper",
  "",
  "positional arguments:",
  "  directory             Directory to map",
  "",
  "options:",
  "  -h, --help            show this help message and exit",
  "  --compress, -c        Compress mode (only show signatures)",
  "  --query PATTERN, -q PATTERN",
  "                        Search for a specific keyword (regex)",
  "  --ignore-case, -i     Ignore case distinctions",
  "  --clear               Clear the whole cache and exit",
  "  --clear-dir           Clear cache entries under the directory and exit",
  "  --rebuild             Clear cache entries under the directory, then map it",
  "  --cache-dir CACHE_DIR",
  "                        Cache location (default: ~/.cache/chizu)",
  "  --batch-size BATCH_SIZE",
  "                        Files processed concurrently",
  "  --verbose, -v         Verbose output",
  ""]

/-- What is said of a command line that cannot be read. -/
def complaint (fault : UsageFault) : Text := usage ++ "chizu: error: " ++ fault.message ++ "\n"

end SourceAtlas.Command
