import SourceAtlas.Command.Log
import SourceAtlas.Command.Options
import SourceAtlas.Settings

/-!
The program: it reads its command line and its settings, opens the cache and clears it, clears a part of it
or maps a directory. Every failure that it expects becomes one line about an error; a few faults are not
its own and end it without one.
-/

namespace SourceAtlas.Command

/-- Where the program runs. `storage` is how the files of databases read while it does. A working directory that is
not on the disk has been removed; databases answer every statement. -/
structure World where
  disk : Disk
  current : Path
  environment : Environment
  storage : Database.Storage := fun _ => []

/-- Faults that end the program without a line about an error: there is no home directory, a path has no
real path or no encoding, the query is no expression for a reason of its own, a list of patterns is not well formed,
the batches have no size, or a stored chunk cannot be shown. -/
inductive Escape where
  | noHome
  | unresolved (fault : Disk.Unresolved)
  | query (pattern : Text) (fault : Regex.Fault)
  | pattern (fault : Ignore.SpecFault)
  | voidBatches
  | outline (fault : Outline.Fault)

/-- The wording of what ends the program without a line about an error. -/
def Escape.message : Escape → Text
  | .noHome => Settings.Fault.noHome.message
  | .unresolved fault => fault.message
  | .query written fault => fault.message written
  | .pattern fault => fault.message
  | .voidBatches => "'<' not supported between instances of 'list' and 'int'"
  | .outline fault => fault.message

/-- Why the program stops early: with a line about an error, or without one. -/
inductive Halt where
  | error (message : Text)
  | escape (escape : Escape)

/-- What the program has done: the disk afterwards, what happened, and what it printed, or why it
stopped. -/
structure Conduct where
  disk : Disk
  events : List Event := []
  printed : Except Halt Text

/-! ## Faults -/

/-- What the fault of a path without a real path leads to, once the cache is open. -/
def haltOfPath : Disk.Unresolved → Halt
  | .loop path => .escape (.unresolved (.loop path))
  | fault => .error fault.message

/-- What a fault of the environment leads to. -/
def haltOfEnvironment : Settings.Fault → Halt
  | .noHome => .escape .noHome
  | .unresolved (.loop path) => .escape (.unresolved (.loop path))
  | .unresolved .nowhere => .escape (.unresolved .nowhere)
  | fault => .error ("invalid configuration: " ++ fault.message)

/-- What a fault of the place that a command line names for the cache leads to. -/
def haltOfPlace : Settings.Fault → Halt
  | .noHome => .escape .noHome
  | .unresolved fault => .escape (.unresolved fault)
  | fault => haltOfEnvironment fault

/-- What a fault of the query leads to. -/
def haltOfQuery (pattern : Text) (fault : Regex.Fault) : Halt :=
  if fault.isPatternError then .error ("invalid query pattern: " ++ fault.message pattern)
  else .escape (.query pattern fault)

/-- What a fault of an analysis leads to. -/
def haltOfAnalysis : Analysis.DirectoryFault → Halt
  | .scan (.unresolved fault) => haltOfPath fault
  | .scan (.pattern fault) =>
    if fault.isInvalid then .error fault.message else .escape (.pattern fault)
  | .run (.unresolved fault) => haltOfPath fault
  | fault => .error fault.message

/-! ## Printing -/

/-- Prints a line; a text with surrogates cannot be printed. -/
def printLine (t : Text) : Except Halt Text :=
  match Utf8.encode t with
  | .ok _ => .ok (t ++ "\n")
  | .error e => .error (.error e.message)

/-! ## Actions -/

/-- Clears all of the cache. -/
def clearAll (disk : Disk) (connection : Database.Connection) : Conduct :=
  let (table, rows) := (Database.table disk connection).clear
  ⟨Database.setTable disk connection table, [.cleared rows], .ok "Cache cleared.\n"⟩

/-- Clears what lies under a directory, and says so in the log; the number of rows comes last. -/
def clearUnder (disk : Disk) (connection : Database.Connection) (target : Path) : Disk × Event × Nat :=
  let (table, rows) := (Database.table disk connection).clearUnder target.toText
  let stem := Store.storageKey (Store.directoryStem target.toText)
  (Database.setTable disk connection table, .clearedUnder stem rows, rows)

/-- Clears what lies under a directory. -/
def clearDirectory (disk : Disk) (connection : Database.Connection) (target : Path) : Conduct :=
  let (changed, event, rows) := clearUnder disk connection target
  ⟨changed, [event],
    printLine ("Cleared " ++ Text.ofNat rows ++ " cache entries under " ++ target.toText ++ ".")⟩

/-- Scans a directory and stops there, since the batches have no size. `seen` is the disk as it is seen with the cache
open. -/
def scanOnly (disk seen : Disk) (settings : Settings) (target : Path) : Conduct :=
  match Scan.scan seen settings.exclusions target with
  | .error fault => ⟨disk, [], .error (haltOfAnalysis (.scan fault))⟩
  | .ok listing => ⟨disk, Event.ofListing listing, .error (.escape .voidBatches)⟩

/-- Maps a directory and prints its outline; an empty outline is not printed. -/
def mapDirectory (disk seen : Disk) (connection : Database.Connection) (settings : Settings)
    (outline : Outline) (target : Path) : Conduct :=
  let outcome := Analysis.directory seen settings.exclusions settings.batchSize target
    (Database.table disk connection)
  let printed := match outcome.result with
    | .error fault => .error (haltOfAnalysis fault)
    | .ok (findings, _) => match outline.render findings with
      | .error fault => .error (.escape (.outline fault))
      | .ok t => if t.isEmpty then .ok [] else printLine t
  ⟨Database.setTable disk connection outcome.store, Event.ofAnalysis outcome, printed⟩

/-- The real path of the directory that is asked for, seen from the working directory, which has to be there. -/
def targetOf (w : World) (o : Options) (disk : Disk) : Except Disk.Unresolved Path :=
  if Disk.isDirectory w.disk w.current then Disk.resolve disk (w.current.join (Path.ofText o.directory))
  else .error .nowhere

/-- What the program does once the cache is open. -/
def act (w : World) (o : Options) (settings : Settings) (outline : Outline) (disk : Disk)
    (connection : Database.Connection) : Conduct :=
  if o.clear then clearAll disk connection
  else
    match targetOf w o disk with
    | .error fault => ⟨disk, [], .error (haltOfPath fault)⟩
    | .ok target =>
      if o.clearDirectory then clearDirectory disk connection target
      else if !Disk.isDirectory disk target then ⟨disk, [], .error (.error (Scan.missingMessage target))⟩
      else
        let map (disk : Disk) : Conduct :=
          let seen := Database.seen disk connection w.storage
          if o.batchSize = .void then scanOnly disk seen settings target
          else mapDirectory disk seen connection settings outline target
        if o.rebuild then
          let (changed, event, _) := clearUnder disk connection target
          let mapped := map changed
          { mapped with events := event :: mapped.events }
        else map disk

/-! ## Runs -/

/-- The settings that a command line makes of those of the environment. The place of the cache is made real again. -/
def adjusted (w : World) (o : Options) (settings : Settings) : Except Settings.Fault Settings := do
  let place := match o.cacheDirectory with
    | some t => Path.ofText t
    | none => settings.cacheDirectory
  let place ← Settings.realPath w.disk w.current w.environment place
  let size := match o.batchSize with
    | .size n => n
    | _ => settings.batchSize
  return { settings with cacheDirectory := place, batchSize := size }

/-- The settings of a command line: those of the environment, unless the command line says otherwise. -/
def settingsOf (w : World) (o : Options) : Except Halt Settings := do
  let settings ← (Settings.ofEnvironment w.disk w.current w.environment).mapError haltOfEnvironment
  (adjusted w o settings).mapError haltOfPlace

/-- The outline that a command line asks for. -/
def outlineOf (o : Options) : Except Halt Outline :=
  (Outline.ofQuery o.query o.ignoreCase o.compress).mapError (haltOfQuery (o.query.getD []))

/-- What the program does with its options. -/
def conduct (w : World) (o : Options) : Conduct :=
  let prepared : Except Halt (Settings × Outline) := do
    let settings ← settingsOf w o
    let outline ← outlineOf o
    return (settings, outline)
  match prepared with
  | .error halt => ⟨w.disk, [], .error halt⟩
  | .ok (settings, outline) =>
    match Database.connect w.disk settings.databasePath with
    | (disk, .error fault) => ⟨disk, [.aborted], .error (.error fault.message)⟩
    | (disk, .ok connection) =>
      let done := act w o settings outline disk connection
      let aborted : List Event := match done.printed with
        | .error (.error _) => [.aborted]
        | _ => []
      { done with events := .opened settings.databasePath :: done.events ++ aborted }

/-- What a run of the program shows: its exit status and what it wrote to either output. -/
structure Report where
  status : Nat
  out : Text
  err : Text
deriving DecidableEq, Repr

/-- The log of a run, as it is written. Surrogates are spelt out in it. -/
def logOf (seconds : Text) (verbose : Bool) (events : List Event) : Text :=
  Utf8.spellSurrogates ((events.filter (Event.isTold verbose)).flatMap (Event.line seconds))

/-- Runs the program. `seconds` is how long its steps take, for the log. -/
def run (seconds : Text) (w : World) (arguments : List Text) : Disk × Except Escape Report :=
  match read arguments with
  | .error .help => (w.disk, .ok ⟨0, help, []⟩)
  | .error (.fault fault) => (w.disk, .ok ⟨2, [], Utf8.spellSurrogates (complaint fault)⟩)
  | .ok o =>
    let done := conduct w o
    let log := logOf seconds o.verbose done.events
    match done.printed with
    | .ok t => (done.disk, .ok ⟨0, t, log⟩)
    | .error (.error message) =>
      (done.disk, .ok ⟨1, [], log ++ Utf8.spellSurrogates ("Error: " ++ message ++ "\n")⟩)
    | .error (.escape escape) => (done.disk, .error escape)

end SourceAtlas.Command
