import SourceAtlas.Entity
import SourceAtlas.Fingerprint
import SourceAtlas.Outline
import SourceAtlas.Scan
import SourceAtlas.Statistics

/-!
Analysis runs: every file of a list is read and fingerprinted; its chunks come from the store if the stored
fingerprint is the same, and are extracted and stored if not. Files are handled in batches, one batch after
another, and the first failure ends the run. What has been stored until then stays.
-/

namespace SourceAtlas

/-- What the store had for a file. -/
inductive Answer where
  | hit
  | miss
  | unreadable (payload : Text) (fault : Payload.Fault)

/-- A file that has been handled: its key in the store, its path as seen from the root of the run, what the
store had for it, and its chunks. -/
structure Visit where
  key : Text
  shown : Text
  answer : Answer
  chunks : List Chunk

/-- Was the file answered from the store? -/
def Visit.isHit (v : Visit) : Bool :=
  match v.answer with
  | .hit => true
  | _ => false

namespace Analysis

/-- Why a run fails: its batches would be empty, its root has no real path, a path can be that of no file, a
file cannot be read, its content has no fingerprint, or the store is closed. -/
inductive Fault where
  | batchSize (size : Int)
  | unresolved (fault : Disk.Unresolved)
  | unnamable (fault : Disk.Unresolved)
  | unreadable (failure : Disk.Failure)
  | unencodable (error : Utf8.EncodeError)
  | storeClosed

/-- The wording of a fault. -/
def Fault.message : Fault → Text
  | .batchSize size => "batch_size must be at least 1, got " ++ Text.ofInt size
  | .unresolved fault => fault.message
  | .unnamable fault => fault.message
  | .unreadable failure => failure.message
  | .unencodable error => error.message
  | .storeClosed => "Cache store is closed"

/-! ## One file -/

/-- A file of a run: its path, and the path as seen from the root of the run. -/
structure Target where
  path : Path
  shown : Path
deriving DecidableEq, Repr

/-- The file of a path, absolute or as seen from the root. -/
def Target.ofPath (root path : Path) : Target :=
  ⟨root.join path, Path.relativeTo root (root.join path)⟩

/-- The key of a file in the store: its full path, so that equal files of different trees stay apart. -/
def Target.key (target : Target) : Text := target.path.toText

/-- The text of a file, with line ends and a byte order mark as they are, and its fingerprint. -/
def content (read : Path → Except Disk.Failure Bytes) (path : Path) : Except Fault (Text × Text) :=
  match Disk.refusal? path with
  | some fault => .error (.unnamable fault)
  | none => match read path with
    | .error failure => .error (.unreadable failure)
    | .ok bytes =>
      let source := Utf8.decode bytes
      match Fingerprint.ofText source with
      | .error e => .error (.unencodable e)
      | .ok fingerprint => .ok (source, fingerprint)

/-- What a finding answers to a question for a fingerprint: the chunks on a hit, and how to call it. -/
def answerTo (fingerprint : Text) (finding : Store.Finding) : Option (List Chunk) × Answer :=
  match finding with
  | .unreadable payload fault => (none, .unreadable payload fault)
  | other => match other.chunksFor? fingerprint with
    | some chunks => (some chunks, .hit)
    | none => (none, .miss)

/-- Handles one file. Files without chunks are stored too. -/
def visit (read : Path → Except Disk.Failure Bytes) (policy : Policy) (store : Store) (target : Target) :
    Except Fault (Visit × Store) := do
  let (source, fingerprint) ← content read target.path
  match answerTo fingerprint (store.get target.key) with
  | (some chunks, answer) => return (⟨target.key, target.shown.toText, answer, chunks⟩, store)
  | (none, answer) =>
    let chunks := extract policy target.shown source
    return (⟨target.key, target.shown.toText, answer, chunks⟩, store.put target.key fingerprint chunks)

/-! ## Runs -/

/-- How far a run has come: the store, the files handled, and the failure that has ended it. -/
structure Progress where
  store : Store
  visits : List Visit := []
  fault : Option Fault := none

/-- Handles files one by one, up to the first failure. -/
def visitAll (read : Path → Except Disk.Failure Bytes) (policy : Policy) (store : Store) :
    List Target → Progress
  | [] => { store }
  | target :: rest =>
    match visit read policy store target with
    | .error fault => { store, fault := some fault }
    | .ok (v, after) =>
      let more := visitAll read policy after rest
      { more with visits := v :: more.visits }

/-- Cuts a list into pieces of a length; `fuel` is the length of the list. -/
def batchesFrom {α : Type} (size : Nat) : (fuel : Nat) → List α → List (List α)
  | 0, _ => []
  | fuel + 1, items => if items.isEmpty then [] else items.take size :: batchesFrom size fuel (items.drop size)

/-- The batches of a list. Only the last may be shorter than the others. -/
def batches {α : Type} (size : Nat) (items : List α) : List (List α) := batchesFrom size items.length items

/-- Handles batches one after another, up to the first with a failure. -/
def visitBatches (read : Path → Except Disk.Failure Bytes) (policy : Policy) (store : Store) :
    List (List Target) → Progress
  | [] => { store }
  | batch :: rest =>
    let done := visitAll read policy store batch
    match done.fault with
    | some _ => done
    | none =>
      let more := visitBatches read policy done.store rest
      { more with visits := done.visits ++ more.visits }

/-- Takes in the chunks of one file; a file without chunks is left out. -/
def collectOne (findings : Findings) (v : Visit) : Findings :=
  if v.chunks.isEmpty then findings else Association.set v.shown v.chunks findings

/-- The chunks of the files handled, by their paths as seen from the root. -/
def collect (visits : List Visit) : Findings := visits.foldl collectOne []

/-- The statistics of a run over so many files. -/
def statistics (files : Nat) (visits : List Visit) : Statistics :=
  let findings := collect visits
  { files := files
    hits := (visits.filter Visit.isHit).length
    misses := (visits.filter fun v => !v.isHit).length
    filesWithEntities := findings.length
    chunks := findings.foldl (fun total f => total + f.2.length) 0 }

/-- What a run leaves: the store, the files handled, and the findings with their statistics if nothing
failed. -/
structure Outcome where
  store : Store
  visits : List Visit := []
  result : Except Fault (Findings × Statistics)

/-- The files of a run by its root and paths. -/
def targets (root : Path) (paths : List Path) : List Target := paths.map (Target.ofPath root)

/-- Runs over files of a tree whose root is real. -/
def runFrom (read : Path → Except Disk.Failure Bytes) (policy : Policy) (size : Nat) (root : Path)
    (paths : List Path) (store : Store) : Outcome :=
  let done := visitBatches read policy store (batches size (targets root paths))
  match done.fault with
  | some fault => ⟨done.store, done.visits, .error fault⟩
  | none => ⟨done.store, done.visits, .ok (collect done.visits, statistics paths.length done.visits)⟩

/-- Runs over files of a tree. -/
def run (disk : Disk) (policy : Policy) (size : Int) (root : Path) (paths : List Path) (store : Store) :
    Outcome :=
  if size < 1 then ⟨store, [], .error (.batchSize size)⟩
  else match Disk.resolve disk root with
  | .error fault => ⟨store, [], .error (.unresolved fault)⟩
  | .ok root => runFrom (Disk.read disk) policy size.toNat root paths store

/-! ## Pipelines -/

/-- How many files make a batch unless a pipeline is told otherwise. -/
def standardSize : Int := 50

/-- What the runs of one pipeline have in common: the policy, how many files make a batch, and the statistics
of the last run that was completed. -/
structure Pipeline where
  policy : Policy := .excludeImports
  size : Int := standardSize
  last : Option Statistics := none

/-- Takes down the statistics of a run that was completed. -/
def Pipeline.record (p : Pipeline) : Except Fault (Findings × Statistics) → Pipeline
  | .ok (_, counts) => { p with last := some counts }
  | .error _ => p

/-- Runs over files of a tree, in batches of the size asked for or else of the pipeline's own. -/
def Pipeline.run (p : Pipeline) (disk : Disk) (size? : Option Int) (root : Path) (paths : List Path)
    (store : Store) : Outcome × Pipeline :=
  let outcome := Analysis.run disk p.policy (size?.getD p.size) root paths store
  (outcome, p.record outcome.result)

/-! ## Closed stores -/

/-- Runs over files of a tree with a closed store: it gets no further than the first file, which is read
before the store is asked. -/
def runClosed (disk : Disk) (policy : Policy) (size : Int) (root : Path) (paths : List Path) :
    Except Fault (Findings × Statistics) :=
  match paths with
  | [] => (run disk policy size root [] .empty).result
  | first :: _ => (run disk policy size root [first] .empty).result >>= fun _ => .error .storeClosed

/-! ## Directories -/

/-- Why a directory cannot be analysed. -/
inductive DirectoryFault where
  | scan (fault : Scan.Fault)
  | run (fault : Fault)

/-- The wording of a fault. -/
def DirectoryFault.message : DirectoryFault → Text
  | .scan fault => fault.message
  | .run fault => fault.message

/-- What the analysis of a directory leaves: the listing if the scan was completed, the store, the files
handled, and the findings. -/
structure DirectoryOutcome where
  listing : Option Listing := none
  store : Store
  visits : List Visit := []
  result : Except DirectoryFault (Findings × Statistics)

/-- Scans a directory and runs over the files found, leaving imports out. -/
def directory (disk : Disk) (exclusions : Scan.Exclusions) (size : Int) (root : Path) (store : Store) :
    DirectoryOutcome :=
  match Scan.scan disk exclusions root with
  | .error fault => { store, result := .error (.scan fault) }
  | .ok listing =>
    let outcome := run disk .excludeImports size root (listing.files.map FoundFile.path) store
    ⟨some listing, outcome.store, outcome.visits, outcome.result.mapError .run⟩

/-- Scans a directory and runs over the files found with a closed store. -/
def directoryClosed (disk : Disk) (exclusions : Scan.Exclusions) (size : Int) (root : Path) :
    Except DirectoryFault (Findings × Statistics) :=
  match Scan.scan disk exclusions root with
  | .error fault => .error (.scan fault)
  | .ok listing =>
    (runClosed disk .excludeImports size root (listing.files.map FoundFile.path)).mapError .run

end Analysis

end SourceAtlas
