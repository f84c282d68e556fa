import SourceAtlas.Scan
import SourceAtlas.Text.Numeral

/-!
Settings: where the cache is, how many files make a batch, and what scans leave out. They come from the
environment, and the place of the cache is made real whenever it is set.
-/

namespace SourceAtlas

/-- The users that are known: the home directory of the one who runs the program, and those of users by their names. -/
structure Users where
  own : Option Text := none
  named : List (Text × Text) := []

/-- The variables of an environment, and the users that are known in it. -/
structure Environment where
  values : List (Text × Text)
  users : Users := {}

/-- The settings of a run. -/
structure Settings where
  cacheDirectory : Path
  batchSize : Int
  exclusions : Scan.Exclusions

namespace Settings

/-- Why there are no settings: there is no home directory, the place of the cache has no real path or the name of a user
cannot be looked up, or the batch size is no whole number. -/
inductive Fault where
  | noHome
  | unresolved (fault : Disk.Unresolved)
  | batchSize (text : Text)
deriving DecidableEq, Repr

/-- The wording of a fault. -/
def Fault.message : Fault → Text
  | .noHome => "Could not determine home directory."
  | .unresolved fault => fault.message
  | .batchSize text => "CHIZU_BATCH_SIZE must be an integer, got " ++ Text.quoted text

/-! ## Paths -/

/-- What is known of a home directory: that of the user who runs the program, which a variable may set, or that of a
user by name. Users cannot be looked up by a name that no file could have. -/
def homeText? (environment : Environment) (user : Text) : Except Fault (Option Text) :=
  if user.isEmpty then
    .ok ((Association.find? ("HOME" : Text) environment.values).or environment.users.own)
  else match Utf8.firstUnnamable 0 user with
  | some error => .error (.unresolved (.unencodable error))
  | none =>
    if user.any (·.val = 0) then .error (.unresolved .null)
    else .ok (Association.find? user environment.users.named)

/-- The home directory of a user, no name standing for the one who runs the program. -/
def home (environment : Environment) (user : Text) : Except Fault Path := do
  match ← homeText? environment user with
  | none => .error .noHome
  | some t =>
    let stem := Text.dropEndWhile (· = '/') t
    if stem.head? = some '~' then .error .noHome
    else .ok (Path.ofText (if stem.isEmpty then "/" else stem))

/-- A path with a home directory in place of a tilde at its start, and of the name of a user behind it. -/
def expandHome (environment : Environment) (path : Path) : Except Fault Path :=
  match path.anchor, path.parts with
  | .relative, (c :: user) :: rest =>
    if c = '~' then (home environment user).map fun h => ⟨h.anchor, h.parts ++ rest⟩ else .ok path
  | _, _ => .ok path

/-- The real path of a cache directory, seen from the current directory. -/
def realPath (disk : Disk) (current : Path) (environment : Environment) (path : Path) :
    Except Fault Path := do
  let path ← expandHome environment path
  (Disk.resolveIn disk current path).mapError .unresolved

/-! ## Settings of an environment -/

/-- Where the cache is unless it is set, from the home directory on. -/
def standardPlace : Path := ⟨.relative, ["~", ".cache", "chizu"]⟩

/-- How many files make a batch unless it is set. -/
def standardBatchSize : Int := 50

/-- The value of a variable; an empty one counts as missing. -/
def valueOf? (name : Text) (environment : Environment) : Option Text :=
  match Association.find? name environment.values with
  | some t => if t.isEmpty then none else some t
  | none => none

/-- The batch size of an environment. -/
def batchSizeOf (environment : Environment) : Except Fault Int :=
  match valueOf? "CHIZU_BATCH_SIZE" environment with
  | none => .ok standardBatchSize
  | some t => match Text.readInt? t with
    | some n => .ok n
    | none => .error (.batchSize t)

/-- The settings of an environment. The usual place of the cache has to be real in any case. -/
def ofEnvironment (disk : Disk) (current : Path) (environment : Environment) : Except Fault Settings := do
  let usual ← realPath disk current environment (← expandHome environment standardPlace)
  let size ← batchSizeOf environment
  let place ← match valueOf? "CHIZU_CACHE_DIR" environment with
    | some t => realPath disk current environment (Path.ofText t)
    | none => realPath disk current environment usual
  return ⟨place, size, .standard⟩

/-- The path of the database of the cache. -/
def databasePath (s : Settings) : Path := s.cacheDirectory.child "cache.db"

end Settings

end SourceAtlas
