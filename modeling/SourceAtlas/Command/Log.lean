import SourceAtlas.Analysis
import SourceAtlas.Database

/-!
The log of the program: what happens while it runs, and how much each event matters.
-/

namespace SourceAtlas.Command

/-- How much an event matters. -/
inductive Level where
  | debug
  | info
  | warning
deriving DecidableEq, Repr

/-- The name of a level. -/
def Level.name : Level → Text
  | .debug => "DEBUG"
  | .info => "INFO"
  | .warning => "WARNING"

/-- What happens while the program runs. -/
inductive Event where
  | opened (path : Path)
  | cleared (rows : Nat)
  | clearedUnder (directory : Text) (rows : Nat)
  | notFollowed (failure : Disk.Failure)
  | scanned (listing : Listing)
  | discarded (key payload : Text) (fault : Payload.Fault)
  | found (shown : Text)
  | missed (shown : Text)
  | analyzed (statistics : Statistics)
  | aborted

namespace Event

/-- How much an event matters. -/
def level : Event → Level
  | .opened _ | .discarded .. | .found _ | .missed _ | .aborted => .debug
  | .cleared _ | .clearedUnder .. | .scanned _ | .analyzed _ => .info
  | .notFollowed _ => .warning

/-- The part of the program that an event happens in. -/
def origin : Event → Text
  | .opened _ | .cleared _ | .clearedUnder .. | .discarded .. => "chizu.cache"
  | .notFollowed _ | .scanned _ => "chizu.scanner"
  | .found _ | .missed _ | .analyzed _ => "chizu.pipeline"
  | .aborted => "chizu.cli"

/-- The wording of an event; `seconds` is how long it took, if that is told. -/
def message (seconds : Text) : Event → Text
  | .opened path => "Opened cache at " ++ path.toText
  | .cleared rows => "Cleared " ++ Text.ofNat rows ++ " cache entries"
  | .clearedUnder directory rows => "Cleared " ++ Text.ofNat rows ++ " cache entries under " ++ directory
  | .notFollowed failure => "Cannot stat " ++ failure.path.toText ++ ": " ++ failure.message
  | .scanned listing =>
    "Scanned " ++ Text.ofNat listing.files.length ++ " files (" ++ Text.ofNat listing.totalBytes
      ++ " bytes) in " ++ seconds ++ "s (" ++ Text.ofNat listing.ignored ++ " ignored)"
  | .discarded key payload fault =>
    "Discarding unreadable cache entry for " ++ key ++ ": " ++ fault.message payload
  | .found shown => "Cache hit: " ++ shown
  | .missed shown => "Cache miss: " ++ shown
  | .analyzed statistics => "Analysis complete: " ++ statistics.sentence seconds
  | .aborted => "Run aborted"

/-- The line of an event in the log. -/
def line (seconds : Text) (e : Event) : Text :=
  "[" ++ e.level.name ++ "] " ++ e.origin ++ ": " ++ e.message seconds ++ "\n"

/-- Is an event told? Without asking for more, only warnings are. -/
def isTold (verbose : Bool) (e : Event) : Bool := verbose || e.level = .warning

/-- The events of a file that has been handled. -/
def ofVisit (v : Visit) : List Event :=
  match v.answer with
  | .hit => [.found v.shown]
  | .miss => [.missed v.shown]
  | .unreadable payload fault => [.discarded v.key payload fault, .missed v.shown]

/-- The events of a scan that was completed. -/
def ofListing (listing : Listing) : List Event := listing.failures.map .notFollowed ++ [.scanned listing]

/-- The events of the analysis of a directory. -/
def ofAnalysis (o : Analysis.DirectoryOutcome) : List Event :=
  let scanned := match o.listing with
    | some listing => ofListing listing
    | none => []
  let analyzed := match o.result with
    | .ok (_, statistics) => [.analyzed statistics]
    | .error _ => []
  scanned ++ o.visits.flatMap ofVisit ++ analyzed

end Event

end SourceAtlas.Command
