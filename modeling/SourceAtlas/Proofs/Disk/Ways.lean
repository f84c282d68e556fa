import SourceAtlas.Proofs.Disk.Names

/-!
Ways over a disk. Where paths lead is decided by the links and the directories on the way alone. Disks on which these
stand at the same places have the same directories, and their paths the same real paths, whatever else there is.

Main statements: `SameWays.isDirectory_eq`, `SameWays.resolve_eq`.
-/

namespace SourceAtlas

/-- What a way finds at a place: a link to go through, a directory to go on in, or neither. -/
inductive Signpost where
  | link (target : Text)
  | directory
  | other
deriving DecidableEq

/-- What a way finds where this stands. -/
def Node.signpost : Option Node → Signpost
  | some (.link target) => .link target
  | some (.directory _) => .directory
  | _ => .other

namespace Disk

/-- Disks with the same links and directories at the same places. -/
structure SameWays (a b : Disk) : Prop where
  signpost_eq : ∀ names, Node.signpost (a.find? names) = Node.signpost (b.find? names)
  linkCount_eq : a.linkCount = b.linkCount

variable {a b : Disk}

theorem SameWays.symm (h : SameWays a b) : SameWays b a :=
  ⟨fun names => (h.signpost_eq names).symm, h.linkCount_eq.symm⟩

/-- Disks with the same ways as a third one have the same ways. -/
theorem SameWays.trans {c : Disk} (h : SameWays a b) (hnext : SameWays b c) : SameWays a c :=
  ⟨fun names => (h.signpost_eq names).trans (hnext.signpost_eq names), h.linkCount_eq.trans hnext.linkCount_eq⟩

/-! ## Walks -/

/-- How a walk ends: among too many links, at a directory, or otherwise. -/
inductive Ending where
  | loop
  | directory
  | other
deriving DecidableEq

/-- How a walk has ended. -/
def Ending.of : Except Fault Spot → Ending
  | .error .tooManyLinks => .loop
  | .ok ⟨_, some (.directory _)⟩ => .directory
  | _ => .other

/-- How a walk ends where nothing is left to follow. -/
def Ending.at : Signpost → Ending
  | .directory => .directory
  | _ => .other

/-- How a walk ends behind a name, by what is found there: how it ends through the link, or further on. -/
def Ending.behind (through last : Bool) (entered : Text → Ending) (onward : Ending) : Signpost → Ending
  | .link target => if last && !through then .other else entered target
  | .directory => if last then .directory else onward
  | .other => .other

/-- A walk that comes to a place ends at what stands there. -/
theorem ending_ok (names : List Text) (found : Option Node) :
    Ending.of (.ok ⟨names, found⟩) = Ending.at (Node.signpost found) := by
  rcases found with _ | node
  · rfl
  · cases node <;> rfl

/-- To ask for a directory does not change how a walk ends. -/
theorem ending_demand (asked : Bool) (x : Except Fault Spot) : Ending.of (x >>= Spot.demand asked) = Ending.of x := by
  rcases x with fault | ⟨names, _ | node⟩
  · rfl
  · cases asked <;> rfl
  · cases asked <;> cases node <;> rfl

/-- The first name of a walk decides how it goes on, by what stands under it. -/
theorem ending_walkWith_cons {disk : Disk} {through : Bool} {enter : List Text → List Text → Except Fault Spot}
    {done rest : List Text} {name : Text} (hname : name ≠ Path.above) :
    Ending.of (walkWith disk through enter done (name :: rest))
      = Ending.behind through rest.isEmpty
        (fun target => Ending.of (enter (if (Path.ofText target).isAbsolute then [] else done)
          ((Path.ofText target).parts ++ rest)))
        (Ending.of (walkWith disk through enter (done ++ [name]) rest))
        (Node.signpost (disk.find? (done ++ [name]))) := by
  rw [walkWith, if_neg hname]
  rcases disk.find? (done ++ [name]) with _ | node
  · dsimp only
    split <;> rfl
  · cases node with
    | link target =>
      dsimp only [Node.signpost, Ending.behind]
      split
      · rfl
      · exact ending_demand _ _
    | _ =>
      dsimp only [Node.signpost, Ending.behind, Node.isDirectory]
      split <;> rfl

/-- A walk ends alike on disks with the same ways. -/
theorem SameWays.ending_walkWith (h : SameWays a b) (through : Bool)
    {enter other : List Text → List Text → Except Fault Spot}
    (henter : ∀ start names, Ending.of (enter start names) = Ending.of (other start names))
    (done names : List Text) :
    Ending.of (walkWith a through enter done names) = Ending.of (walkWith b through other done names) := by
  induction names generalizing done with
  | nil => rw [walkWith, walkWith, ending_ok, ending_ok, h.signpost_eq]
  | cons name rest ih =>
    by_cases hname : name = Path.above
    · rw [walkWith, walkWith, if_pos hname, if_pos hname]
      exact ih _
    · rw [ending_walkWith_cons hname, ending_walkWith_cons hname, h.signpost_eq, ih]
      simp only [henter]

/-- So a whole walk does. -/
theorem SameWays.ending_walk (h : SameWays a b) (through : Bool) (path : Path) :
    Ending.of (walk a through path) = Ending.of (walk b through path) := by
  have from_ : ∀ links done names,
      Ending.of (walkFrom a through links done names) = Ending.of (walkFrom b through links done names) := by
    intro links
    -- the induction is on how many links may still be gone through
    induction links with
    | zero => exact fun done names => h.ending_walkWith through (fun _ _ => rfl) done names
    | succ links ih => exact fun done names => h.ending_walkWith through ih done names
  exact from_ maxLinks [] path.parts

/-! ## Directories and loops -/

/-- A path leads into a loop just if its walk ends so. -/
theorem look_eq_tooManyLinks_iff {disk : Disk} {path : Path} :
    look disk path = .error .tooManyLinks ↔ Ending.of (walk disk true path) = .loop := by
  rw [look]
  rcases walk disk true path with fault | ⟨names, _ | node⟩
  · cases fault <;> simp [Ending.of, bind, Except.bind]
  · simp [Ending.of, bind, Except.bind, throw, throwThe, MonadExceptOf.throw]
  · cases node <;> simp [Ending.of, bind, Except.bind, pure, Except.pure]

/-- A path leads to a directory just if its walk ends at one. -/
theorem isDirectory_iff_ending {disk : Disk} {path : Path} :
    isDirectory disk path = true ↔ Ending.of (walk disk true path) = .directory := by
  rw [isDirectory, look]
  rcases walk disk true path with fault | ⟨names, _ | node⟩
  · cases fault <;> simp [Ending.of, bind, Except.bind]
  · simp [Ending.of, bind, Except.bind, throw, throwThe, MonadExceptOf.throw]
  · cases node <;> simp [Ending.of, bind, Except.bind, pure, Except.pure, Node.isDirectory]

/-- The same paths lead to directories on disks with the same ways. -/
theorem SameWays.isDirectory_eq (h : SameWays a b) (path : Path) : isDirectory a path = isDirectory b path := by
  rw [Bool.eq_iff_iff, isDirectory_iff_ending, isDirectory_iff_ending, h.ending_walk]

/-! ## Real paths -/

/-- What comes of a path behind a name, by what is found there: behind the end of the link, or further on. -/
def Resolved.behind (followed : Text → Resolved) (onward : Resolved) : Signpost → Resolved
  | .link target => followed target
  | _ => onward

/-- What comes of a path behind the end of a link, if that has an end. -/
def Resolved.followedBy (rest : List Text) (onward : Path → Resolved) : Resolved → Resolved
  | .left path => .left (path.followedBy rest)
  | .real place => onward place

/-- The first name of a path that is made real decides likewise. -/
theorem resolveWith_cons {disk : Disk} {current : Path} {enter : List Path → Path → List Text → Resolved}
    {open_ : List Path} {done : Path} {rest : List Text} {name : Text} (hsaid : ¬ Path.isSilent name = true)
    (hname : name ≠ Path.above) :
    resolveWith disk current enter open_ done (name :: rest)
      = Resolved.behind
        (fun target => if open_.contains (done.child name) then .left ((done.child name).followedBy rest)
          else (enter (done.child name :: open_) (if (Path.ofText target).isAbsolute then .ofNames [] else done)
            (Text.split '/' target)).followedBy rest fun place => resolveWith disk current enter open_ place rest)
        (resolveWith disk current enter open_ (done.child name) rest)
        (Node.signpost (disk.find? (placeOf current (done.child name)))) := by
  rw [resolveWith, if_neg hsaid, if_neg hname]
  dsimp only
  rcases disk.find? (placeOf current (done.child name)) with _ | node
  · rfl
  · cases node with
    | link target =>
      dsimp only [Node.signpost, Resolved.behind]
      split
      · rfl
      · split <;> simp only [Resolved.followedBy, *]
    | _ => rfl

/-- Paths come to the same on disks with the same ways. -/
theorem SameWays.resolveWith_eq (h : SameWays a b) {current : Path}
    {enter other : List Path → Path → List Text → Resolved}
    (henter : ∀ open_ start pieces, enter open_ start pieces = other open_ start pieces)
    (open_ : List Path) (done : Path) (pieces : List Text) :
    resolveWith a current enter open_ done pieces = resolveWith b current other open_ done pieces := by
  induction pieces generalizing done with
  | nil => rfl
  | cons piece rest ih =>
    by_cases hsaid : Path.isSilent piece = true
    · rw [resolveWith, resolveWith, if_pos hsaid, if_pos hsaid]
      exact ih _
    · by_cases hname : piece = Path.above
      · rw [resolveWith, resolveWith, if_neg hsaid, if_neg hsaid, if_pos hname, if_pos hname]
        exact ih _
      · rw [resolveWith_cons hsaid hname, resolveWith_cons hsaid hname, h.signpost_eq]
        simp only [henter, ih]

/-- So they do from any place on. -/
theorem SameWays.resolveFrom_eq (h : SameWays a b) (current : Path) (links : Nat) (open_ : List Path) (done : Path)
    (pieces : List Text) :
    resolveFrom a current links open_ done pieces = resolveFrom b current links open_ done pieces := by
  induction links generalizing open_ done pieces with
  | zero => exact h.resolveWith_eq (fun _ _ _ => rfl) open_ done pieces
  | succ links ih => exact h.resolveWith_eq ih open_ done pieces

/-- Whole paths come to the same, seen from anywhere. -/
theorem SameWays.resolved_eq (h : SameWays a b) : resolved a = resolved b ∧ resolvedIn a = resolvedIn b := by
  refine ⟨funext fun path => ?_, funext fun current => funext fun path => ?_⟩
  · rw [resolved, resolved, h.resolveFrom_eq, h.linkCount_eq]
  · rw [resolvedIn, resolvedIn, h.resolveFrom_eq, h.linkCount_eq]

/-- Real names are the same. -/
theorem SameWays.realNames_eq (h : SameWays a b) : realNames a = realNames b ∧ realNamesIn a = realNamesIn b := by
  have absolute : realNames a = realNames b := funext fun path => by rw [realNames, realNames, h.resolved_eq.1]
  refine ⟨absolute, funext fun current => funext fun path => ?_⟩
  rw [realNamesIn, realNamesIn, h.resolved_eq.1, h.resolved_eq.2, absolute]

/-- A path is refused on the way on both disks or on neither. -/
theorem SameWays.refusalOnWay?_eq (h : SameWays a b) (shown : Path → Path) (path : Path) (real : List Text) :
    refusalOnWay? a shown path real = refusalOnWay? b shown path real := by
  rw [refusalOnWay?, refusalOnWay?, h.resolved_eq.1]

/-- Names have the same real path, or none for the same reason. -/
theorem SameWays.realPathOf_eq (h : SameWays a b) (names : List Text) : realPathOf a names = realPathOf b names := by
  have loops : look a (.ofNames names) = .error .tooManyLinks ↔ look b (.ofNames names) = .error .tooManyLinks := by
    rw [look_eq_tooManyLinks_iff, look_eq_tooManyLinks_iff, h.ending_walk]
  unfold realPathOf
  split
  · next hloop => rw [loops.1 hloop]
  · next hloop =>
    split
    · next hother => exact absurd (loops.2 hother) hloop
    · rfl

/-- A path has the same real path, or none for the same reason, on disks with the same ways. -/
theorem SameWays.resolve_eq (h : SameWays a b) (path : Path) : resolve a path = resolve b path := by
  rw [resolve, resolve, h.refusalOnWay?_eq, h.realNames_eq.1, h.realPathOf_eq]

/-- Seen from a working directory as well. -/
theorem SameWays.resolveIn_eq (h : SameWays a b) (current path : Path) :
    resolveIn a current path = resolveIn b current path := by
  rw [resolveIn, resolveIn, h.resolve_eq, h.refusalOnWay?_eq, h.isDirectory_eq, h.realNames_eq.2, h.realPathOf_eq]

end Disk

end SourceAtlas
