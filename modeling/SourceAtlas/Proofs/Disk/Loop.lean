import SourceAtlas.Proofs.Disk.Real
import SourceAtlas.Proofs.Disk.Ways

/-!
Links that lead back to themselves. A path that meets none is made real in full: no link is left under its real
names, so that a directory there is its own real path. Where a link leads back to itself, the rest of the path is
left as it is, and what comes of it may still go through links.

Main statements: `isLinkFree_iff_resolve_eq`, `resolve_eq_self`.
-/

namespace SourceAtlas.Disk

variable {disk : Disk}

/-- A path is left as it is when it is made real, since a link on it leads back to itself. -/
def MeetsLoop (disk : Disk) (path : Path) : Prop := (resolved disk path).isLeft = true

/-- A path meets loops alike on disks with the same ways. -/
theorem SameWays.meetsLoop_iff {other : Disk} (h : SameWays disk other) {path : Path} :
    MeetsLoop disk path ↔ MeetsLoop other path := by
  rw [MeetsLoop, MeetsLoop, h.resolved_eq.1]

/-- Every name says something and is not two dots, and nowhere under the names there is a link. -/
def IsLinkFree (disk : Disk) (names : List Text) : Prop :=
  ∀ front name, front ++ [name] <+: names → Path.isSilent name = false ∧ name ≠ Path.above
    ∧ ∀ target, disk.find? (front ++ [name]) ≠ some (.link target)

theorem isLinkFree_nil : IsLinkFree disk [] := by
  intro front name h
  simp at h

/-- Names that are free of links are so up to any of them. -/
theorem IsLinkFree.of_prefix {front names : List Text} (h : IsLinkFree disk names) (hfront : front <+: names) :
    IsLinkFree disk front := fun _ _ hbegins => h _ _ (hbegins.trans hfront)

/-- They stay so with one more name under which there is no link. -/
theorem IsLinkFree.snoc {done : List Text} (h : IsLinkFree disk done) {name : Text}
    (hsaid : Path.isSilent name = false) (hname : name ≠ Path.above)
    (hfind : ∀ target, disk.find? (done ++ [name]) ≠ some (.link target)) : IsLinkFree disk (done ++ [name]) := by
  intro front other hbegins
  rcases List.prefix_concat_iff.1 hbegins with heq | hbegins
  · obtain ⟨rfl, hlast⟩ := List.append_inj' heq rfl
    obtain rfl := List.singleton_inj.1 hlast
    exact ⟨hsaid, hname, hfind⟩
  · exact h front other hbegins

/-! ## Making names real -/

/-- A place is written from the root on, and its names are free of links. -/
def IsFreePlace (disk : Disk) (place : Path) : Prop := ∃ names, place = .ofNames names ∧ IsLinkFree disk names

/-- A path that is made real in full comes to names without links. -/
theorem isFreePlace_of_resolveWith {current : Path} {enter : List Path → Path → List Text → Resolved}
    (henter : ∀ open_ start pieces fin, IsFreePlace disk start → enter open_ start pieces = .real fin →
      IsFreePlace disk fin)
    {open_ : List Path} {done fin : Path} {pieces : List Text} (hdone : IsFreePlace disk done)
    (h : resolveWith disk current enter open_ done pieces = .real fin) : IsFreePlace disk fin := by
  induction pieces generalizing done with
  | nil => exact Resolved.real.inj h ▸ hdone
  | cons piece rest ih =>
    obtain ⟨names, rfl, hnames⟩ := hdone
    unfold resolveWith at h
    split at h
    · exact ih ⟨names, rfl, hnames⟩ h
    · next hsaid =>
      split at h
      · exact ih ⟨names.dropLast, rfl, hnames.of_prefix (List.dropLast_prefix names)⟩ h
      · next hname =>
        dsimp only at h
        split at h
        · next target hfind =>
          split at h
          · cases h
          · have start :
                IsFreePlace disk (if (Path.ofText target).isAbsolute then .ofNames [] else .ofNames names) := by
              split
              · exact ⟨[], rfl, isLinkFree_nil⟩
              · exact ⟨names, rfl, hnames⟩
            split at h
            · cases h
            · next mid hmid => exact ih (henter _ _ _ _ start hmid) h
        · next hfind =>
          exact ih ⟨names ++ [piece], rfl,
            hnames.snoc (Bool.eq_false_iff.2 hsaid) hname fun target htarget => hfind target htarget⟩ h

/-- What was come to without a loop is free of links. -/
theorem isFreePlace_of_resolveFrom {current : Path} {links : Nat} {open_ : List Path} {done fin : Path}
    {pieces : List Text} (hdone : IsFreePlace disk done)
    (h : resolveFrom disk current links open_ done pieces = .real fin) : IsFreePlace disk fin := by
  -- the induction is on how many links may still be entered
  induction links generalizing open_ done pieces fin with
  | zero => exact isFreePlace_of_resolveWith (fun _ _ _ _ _ hleft => by cases hleft) hdone h
  | succ links ih => exact isFreePlace_of_resolveWith (fun _ _ _ _ hstart hmid => ih hstart hmid) hdone h

/-- Names without links are real already, whatever is behind them. -/
theorem IsLinkFree.resolveFrom_append {front back : List Text} (h : IsLinkFree disk (front ++ back)) (current : Path)
    (links : Nat) (open_ : List Path) (rest : List Text) :
    resolveFrom disk current links open_ (.ofNames front) (back ++ rest)
      = resolveFrom disk current links open_ (.ofNames (front ++ back)) rest := by
  induction back generalizing front with
  | nil => rw [List.nil_append, List.append_nil]
  | cons name more ih =>
    have parts : front ++ name :: more = front ++ [name] ++ more := by simp
    rw [parts] at h ⊢
    obtain ⟨hsaid, hname, hlink⟩ := h front name (List.prefix_append _ more)
    rw [List.cons_append, resolveFrom_pass links hsaid hname hlink]
    exact ih h

/-- A walk along names without links never goes through too many. -/
theorem IsLinkFree.walkWith_ne {front back : List Text} (h : IsLinkFree disk (front ++ back)) {through : Bool}
    {enter : List Text → List Text → Except Fault Spot} :
    walkWith disk through enter front back ≠ .error .tooManyLinks := by
  induction back generalizing front with
  | nil => simp [walkWith]
  | cons name rest ih =>
    have parts : front ++ name :: rest = front ++ [name] ++ rest := by simp
    rw [parts] at h
    obtain ⟨-, hname, hlink⟩ := h front name (List.prefix_append _ rest)
    rw [walkWith, if_neg hname]
    split
    · split <;> simp
    · next target hfind => exact absurd hfind (hlink target)
    · split
      · simp
      · split
        · exact ih h
        · simp

/-! ## Real paths -/

/-- The real names of a path that meets no loop are without links. -/
theorem isLinkFree_realNames {path : Path} (h : ¬ MeetsLoop disk path) : IsLinkFree disk (realNames disk path) := by
  rw [realNames]
  rw [MeetsLoop] at h
  cases heq : resolved disk path with
  | real place =>
    obtain ⟨names, rfl, hnames⟩ := isFreePlace_of_resolveFrom ⟨[], rfl, isLinkFree_nil⟩ heq
    exact hnames
  | left path =>
    rw [heq] at h
    exact absurd rfl h

/-- A path without links meets no loop, and is resolved to itself if its names can be those of files. -/
theorem IsLinkFree.resolve_eq {place : Path} (h : IsLinkFree disk place.parts) :
    ¬ MeetsLoop disk place
      ∧ (place.anchor = .root → place.isSound = true → resolve disk place = .ok place) := by
  have free : IsLinkFree disk ([] ++ place.parts) := h
  have made : resolved disk place = .real (.ofNames place.parts) := by
    have behind := free.resolveFrom_append (.ofNames []) (disk.linkCount + 1) [] []
    rwa [List.append_nil, resolveFrom_nil] at behind
  refine ⟨by simp [MeetsLoop, made, Resolved.isLeft], fun hroot hsound => ?_⟩
  have names : realNames disk place = place.parts := by
    rw [realNames, made]
    rfl
  have self : Path.ofNames place.parts = place := by rw [Path.ofNames, ← hroot]
  have enough : look disk place ≠ .error .tooManyLinks := by
    have walked : walk disk true place ≠ .error .tooManyLinks := free.walkWith_ne
    unfold look
    rcases hwalk : walk disk true place with fault | ⟨fin, _ | node⟩
    · rw [hwalk] at walked
      exact fun heq => walked (congrArg _ (Except.error.inj heq))
    all_goals
      intro heq
      cases heq
  refine resolve_eq_ok_iff.2 ⟨(refusalOnWay?_eq_none_iff hsound).2 ?_, ?_, enough⟩
  · rwa [names, self]
  · rw [names, self]

/-- A path from the root is without links just if it meets no loop and is its own real path. -/
theorem isLinkFree_iff_resolve_eq {place : Path} (hroot : place.anchor = .root) (hsound : place.isSound = true) :
    IsLinkFree disk place.parts ↔ ¬ MeetsLoop disk place ∧ resolve disk place = .ok place := by
  constructor
  · intro h
    exact ⟨h.resolve_eq.1, h.resolve_eq.2 hroot hsound⟩
  · rintro ⟨hloop, h⟩
    have free := isLinkFree_realNames hloop
    rwa [← show place.parts = realNames disk place from congrArg Path.parts (eq_ofNames_of_resolve h)] at free

/-- The real path of a path that meets no loop is its own real path. -/
theorem resolve_eq_self {path real : Path} (hloop : ¬ MeetsLoop disk path) (h : resolve disk path = .ok real) :
    resolve disk real = .ok real := by
  have free : IsLinkFree disk real.parts := by
    rw [eq_ofNames_of_resolve h]
    exact isLinkFree_realNames hloop
  exact free.resolve_eq.2 (congrArg Path.anchor (eq_ofNames_of_resolve h)) (isSound_of_resolve h)

end SourceAtlas.Disk
