import Mathlib.Data.List.Perm.Subperm
import SourceAtlas.Proofs.Disk.Names

/-!
Real paths of what is there. A walk goes through the links on its way one after another, while making names real
enters one link from within another. If the walk ends somewhere, then no link on the way leads back to itself, and
both come to the same names. None of these is a link, so that the real path of a directory is real itself.

Main statement: `resolve_of_isDirectory`.
-/

namespace SourceAtlas

namespace Node

/-! ## Places -/

theorem find?_append (node : Node) (front back : List Text) :
    node.find? (front ++ back) = (node.find? front).bind (find? back) := by
  induction front generalizing node with
  | nil => rfl
  | cons name rest ih =>
    cases node with
    | directory entries =>
      rw [List.cons_append, find?, find?]
      cases Association.find? name entries with
      | none => rfl
      | some next => exact ih next
    | _ => rfl

/-- What something stands in is a directory. -/
theorem exists_directory_of_find?_concat {node found : Node} {names : List Text} {name : Text}
    (h : node.find? (names ++ [name]) = some found) :
    ∃ entries, node.find? names = some (.directory entries) ∧ Association.find? name entries = some found := by
  rw [find?_append] at h
  obtain ⟨directory, hdirectory, hfound⟩ := Option.bind_eq_some_iff.1 h
  cases directory with
  | directory entries =>
    obtain ⟨next, hnext, hsame⟩ := Option.bind_eq_some_iff.1 hfound
    exact ⟨entries, hdirectory, hnext.trans hsame⟩
  | _ => cases hfound

/-- What stands above something is a directory. -/
theorem exists_directory_of_prefix {node found : Node} {front names : List Text}
    (h : node.find? names = some found) (hfront : front <+: names) (hne : front ≠ names) :
    ∃ entries, node.find? front = some (.directory entries) := by
  obtain ⟨more, rfl⟩ := hfront
  obtain ⟨name, rest, rfl⟩ : ∃ name rest, more = name :: rest := by
    refine List.exists_cons_of_ne_nil ?_
    rintro rfl
    exact hne (List.append_nil front).symm
  rw [List.append_cons, find?_append] at h
  obtain ⟨next, hnext, -⟩ := Option.bind_eq_some_iff.1 h
  obtain ⟨entries, hentries, -⟩ := exists_directory_of_find?_concat hnext
  exact ⟨entries, hentries⟩

theorem isName_of_find? {entries : List (Text × Node)} (h : areWellFormed entries = true) {name : Text}
    {node : Node} (hnode : Association.find? name entries = some node) : Path.isName name = true := by
  induction entries with
  | nil => cases hnode
  | cons e rest ih =>
    obtain ⟨hname, -, -, hrest⟩ := areWellFormed_cons.1 h
    rw [Association.find?] at hnode
    split at hnode
    · next heq => exact heq ▸ hname
    · exact ih hrest hnode

/-- What stands on a well-formed disk has a name such as there are. -/
theorem isName_of_find?_concat {disk found : Node} (hdisk : disk.isWellFormed = true) {names : List Text}
    {name : Text} (h : disk.find? (names ++ [name]) = some found) : Path.isName name = true := by
  obtain ⟨entries, hdirectory, hentry⟩ := exists_directory_of_find?_concat h
  exact isName_of_find? (isWellFormed_find? hdisk hdirectory) hentry

theorem isName_of_mem_of_find? {node found : Node} (hnode : node.isWellFormed = true) {names : List Text}
    (h : node.find? names = some found) : ∀ name ∈ names, Path.isName name = true := by
  intro name hname
  obtain ⟨front, back, rfl⟩ := List.append_of_mem hname
  rw [List.append_cons, find?_append] at h
  obtain ⟨next, hnext, -⟩ := Option.bind_eq_some_iff.1 h
  exact isName_of_find?_concat hnode hnext

/-! ## Places of links -/

mutual

/-- The places of the links on a disk. -/
def linkPlaces : Node → List (List Text)
  | .directory entries => linkPlacesOf entries
  | .link _ => [[]]
  | _ => []

/-- The places of the links in the entries of a directory. -/
def linkPlacesOf : List (Text × Node) → List (List Text)
  | [] => []
  | (name, node) :: rest => (linkPlaces node).map (name :: ·) ++ linkPlacesOf rest

end

mutual

theorem length_linkPlaces (node : Node) : node.linkPlaces.length = node.linkCount := by
  match node with
  | .directory entries => exact length_linkPlacesOf entries
  | .link _ => rfl
  | .file _ => rfl
  | .database _ => rfl
  | .special => rfl

theorem length_linkPlacesOf (entries : List (Text × Node)) :
    (linkPlacesOf entries).length = linkCountOf entries := by
  match entries with
  | [] => rfl
  | (name, node) :: rest =>
    rw [linkPlacesOf, linkCountOf, List.length_append, List.length_map, length_linkPlaces node,
      length_linkPlacesOf rest]

end

theorem mem_linkPlaces {node : Node} {place : List Text} {target : Text}
    (h : node.find? place = some (.link target)) : place ∈ node.linkPlaces := by
  induction place generalizing node with
  | nil =>
    obtain rfl := Option.some.inj h
    exact List.mem_singleton_self []
  | cons name rest ih =>
    cases node with
    | directory entries =>
      obtain ⟨next, hnext, hlink⟩ := Option.bind_eq_some_iff.1 h
      have inside := ih hlink
      clear h
      rw [linkPlaces]
      induction entries with
      | nil => cases hnext
      | cons e others ihe =>
        rw [Association.find?] at hnext
        rw [linkPlacesOf, List.mem_append]
        split at hnext
        · next heq =>
          rw [Option.some.inj hnext, heq]
          exact .inl (List.mem_map_of_mem inside)
        · exact .inr (ihe hnext)
    | _ => cases h

/-- There are no more distinct places of links than there are links. -/
theorem length_le_linkCount {node : Node} {places : List (List Text)} (hdistinct : places.Nodup)
    (h : ∀ place ∈ places, ∃ target, node.find? place = some (.link target)) :
    places.length ≤ node.linkCount := by
  rw [← length_linkPlaces]
  refine (List.subperm_of_subset hdistinct fun place hplace => ?_).length_le
  obtain ⟨target, htarget⟩ := h place hplace
  exact mem_linkPlaces htarget

end Node

namespace Disk

variable {disk : Disk}

/-! ## Walks -/

/-- Where the names of a link start. -/
def startOf (done : List Text) (target : Text) : List Text :=
  if (Path.ofText target).isAbsolute then [] else done

/-- Names are walked through at most so many links, up to a place at which something stands. -/
inductive Walks (disk : Disk) (fin : List Text) (node : Node) : Nat → List Text → List Text → Prop
  | nil {links : Nat} (hfind : disk.find? fin = some node) : Walks disk fin node links fin []
  | up {links : Nat} {done rest : List Text} (more : Walks disk fin node links done.dropLast rest) :
      Walks disk fin node links done (Path.above :: rest)
  | pass {links : Nat} {done rest : List Text} {name : Text} {found : Node} (hname : name ≠ Path.above)
      (hfind : disk.find? (done ++ [name]) = some found) (hlink : found.isLink = false)
      (hdirectory : rest ≠ [] → found.isDirectory = true)
      (more : Walks disk fin node links (done ++ [name]) rest) : Walks disk fin node links done (name :: rest)
  | follow {links : Nat} {done rest : List Text} {name target : Text} (hname : name ≠ Path.above)
      (hfind : disk.find? (done ++ [name]) = some (.link target))
      (hdirectory : rest = [] → Path.endsSilently target = true → node.isDirectory = true)
      (more : Walks disk fin node links (startOf done target) ((Path.ofText target).parts ++ rest)) :
      Walks disk fin node (links + 1) done (name :: rest)

/-! ### The ends of links -/

/-- A walk that is not asked to end in a directory may end anywhere. -/
theorem bind_demand_false (x : Except Fault Spot) : x >>= Spot.demand false = x := by
  rcases x with fault | ⟨names, _ | node⟩ <;> rfl

/-- A walk ends at something just if it does when nothing is asked, and at a directory if that is. -/
theorem bind_demand_eq_some_iff {x : Except Fault Spot} {asked : Bool} {fin : List Text} {node : Node} :
    x >>= Spot.demand asked = .ok ⟨fin, some node⟩
      ↔ x = .ok ⟨fin, some node⟩ ∧ (asked = true → node.isDirectory = true) := by
  rcases x with fault | ⟨names, _ | found⟩
  · exact ⟨nofun, nofun⟩
  · cases asked <;> simp [bind, Except.bind, Spot.demand]
  · cases asked
    · simp [bind, Except.bind, Spot.demand]
    · cases hfound : found.isDirectory
      · simp only [bind, Except.bind, Spot.demand, hfound]
        refine ⟨nofun, fun ⟨hspot, hnode⟩ => ?_⟩
        cases hspot
        rw [hnode trivial] at hfound
        cases hfound
      · simp only [bind, Except.bind, Spot.demand, hfound]
        refine ⟨fun hspot => ⟨hspot, fun _ => ?_⟩, fun h => h.1⟩
        cases hspot
        exact hfound

/-- A walk that ends at nothing did so before anything was asked. -/
theorem eq_none_of_bind_demand {x : Except Fault Spot} {asked : Bool} {fin : List Text}
    (h : x >>= Spot.demand asked = .ok ⟨fin, none⟩) : x = .ok ⟨fin, none⟩ := by
  rcases x with fault | ⟨names, _ | found⟩
  · cases h
  · cases asked
    · exact h
    · cases h
  · cases asked <;> cases hfound : found.isDirectory <;> simp [bind, Except.bind, Spot.demand, hfound] at h

section

variable {enter : List Text → List Text → Except Fault Spot} {through : Bool} {done rest : List Text}
  {name : Text}

/-- However many links may be gone through, each name is followed in the same way. -/
theorem exists_walkFrom_eq (disk : Disk) (through : Bool) (links : Nat) :
    ∃ enter, ∀ done names, walkFrom disk through links done names = walkWith disk through enter done names := by
  cases links with
  | zero => exact ⟨_, fun _ _ => rfl⟩
  | succ links => exact ⟨_, fun _ _ => rfl⟩

theorem walkWith_above : walkWith disk through enter done (Path.above :: rest)
    = walkWith disk through enter done.dropLast rest := by
  rw [walkWith, if_pos rfl]

theorem walkWith_none (hname : name ≠ Path.above) (hfind : disk.find? (done ++ [name]) = none) :
    walkWith disk through enter done (name :: rest)
      = if rest.isEmpty then .ok ⟨done ++ [name], none⟩ else .error .notFound := by
  rw [walkWith, if_neg hname, hfind]

theorem walkWith_link (hname : name ≠ Path.above) {target : Text}
    (hfind : disk.find? (done ++ [name]) = some (.link target)) :
    walkWith disk through enter done (name :: rest)
      = if rest.isEmpty && !through then .ok ⟨done ++ [name], some (.link target)⟩
        else enter (startOf done target) ((Path.ofText target).parts ++ rest)
          >>= Spot.demand (rest.isEmpty && Path.endsSilently target) := by
  rw [walkWith, if_neg hname, hfind]
  rfl

theorem walkWith_pass (hname : name ≠ Path.above) {found : Node}
    (hfind : disk.find? (done ++ [name]) = some found) (hlink : found.isLink = false)
    (hdirectory : rest ≠ [] → found.isDirectory = true) :
    walkWith disk through enter done (name :: rest) = walkWith disk through enter (done ++ [name]) rest := by
  rw [walkWith, if_neg hname, hfind]
  cases rest with
  | nil => cases found with
    | link target => cases hlink
    | _ => rw [walkWith, hfind]; rfl
  | cons next more => cases found with
    | directory entries => rfl
    | link target => cases hlink
    | _ => cases hdirectory (List.cons_ne_nil next more)

end

/-- A walk that ends at something, one name at a time. -/
theorem walks_of_walkWith {fin : List Text} {node : Node} {enter : List Text → List Text → Except Fault Spot}
    {links : Nat} (hmore : ∀ start names, enter start names = .ok ⟨fin, some node⟩ →
      ∃ fewer, links = fewer + 1 ∧ Walks disk fin node fewer start names)
    {done names : List Text} (h : walkWith disk true enter done names = .ok ⟨fin, some node⟩) :
    Walks disk fin node links done names := by
  induction names generalizing done with
  | nil =>
    obtain ⟨rfl, hfind⟩ := Spot.mk.inj (Except.ok.inj h)
    exact .nil hfind
  | cons name rest ih =>
    by_cases hname : name = Path.above
    · subst hname
      exact .up (ih (walkWith_above.symm.trans h))
    cases hfind : disk.find? (done ++ [name]) with
    | none =>
      rw [walkWith_none hname hfind] at h
      split at h
      · cases h
      · cases h
    | some found =>
      by_cases hlink : found.isLink = true
      · cases found with
        | link target =>
          rw [walkWith_link hname hfind, Bool.not_true, Bool.and_false, if_neg Bool.false_ne_true] at h
          obtain ⟨hentered, hasked⟩ := bind_demand_eq_some_iff.1 h
          obtain ⟨fewer, rfl, hwalks⟩ := hmore _ _ hentered
          exact .follow hname hfind (fun hrest hends => hasked (by rw [hrest, hends]; rfl)) hwalks
        | _ => cases hlink
      · have hlink : found.isLink = false := Bool.eq_false_iff.2 hlink
        -- a walk that goes on behind something goes on in a directory
        have hdirectory : rest ≠ [] → found.isDirectory = true := by
          intro hrest
          rw [walkWith, if_neg hname, hfind] at h
          cases found with
          | directory entries => rfl
          | link target => cases hlink
          | _ => simp [hrest, Node.isDirectory] at h
        rw [walkWith_pass hname hfind hlink hdirectory] at h
        exact .pass hname hfind hlink hdirectory (ih h)

theorem walkFrom_eq_some_iff {fin : List Text} {node : Node} {links : Nat} {done names : List Text} :
    walkFrom disk true links done names = .ok ⟨fin, some node⟩ ↔ Walks disk fin node links done names := by
  constructor
  · intro h
    induction links generalizing done names with
    | zero =>
      refine walks_of_walkWith ?_ h
      exact fun _ _ h => nomatch h
    | succ links ih => exact walks_of_walkWith (fun _ _ h => ⟨links, rfl, ih h⟩) h
  · intro h
    induction h with
    | @nil links hfind =>
      obtain ⟨enter, heq⟩ := exists_walkFrom_eq disk true links
      rw [heq, walkWith, hfind]
    | @up links done rest _ ih =>
      obtain ⟨enter, heq⟩ := exists_walkFrom_eq disk true links
      rw [heq, walkWith_above, ← heq, ih]
    | @pass links done rest name found hname hfind hlink hdirectory _ ih =>
      obtain ⟨enter, heq⟩ := exists_walkFrom_eq disk true links
      rw [heq, walkWith_pass hname hfind hlink hdirectory, ← heq, ih]
    | @follow links done rest name target hname hfind hdirectory _ ih =>
      rw [walkFrom, walkWith_link hname hfind, Bool.not_true, Bool.and_false, if_neg Bool.false_ne_true]
      refine bind_demand_eq_some_iff.2 ⟨ih, fun hasked => ?_⟩
      rw [Bool.and_eq_true, List.isEmpty_iff] at hasked
      exact hdirectory hasked.1 hasked.2

/-- A path leads to something exactly if its names are walked up to there. -/
theorem look_eq_ok_iff {path : Path} {node : Node} :
    look disk path = .ok node ↔ ∃ fin, Walks disk fin node maxLinks [] path.parts := by
  simp only [← walkFrom_eq_some_iff]
  change look disk path = .ok node ↔ ∃ fin, walk disk true path = .ok ⟨fin, some node⟩
  unfold look
  rcases walk disk true path with fault | ⟨names, _ | found⟩
  · simp [bind, Except.bind]
  · simp [bind, Except.bind, throw, throwThe, MonadExceptOf.throw]
  · simp [bind, Except.bind, pure, Except.pure, eq_comm]

namespace Walks

variable {fin done names : List Text} {node : Node} {links : Nat}

theorem find? (h : Walks disk fin node links done names) : disk.find? fin = some node := by
  induction h with
  | nil hfind => exact hfind
  | up _ ih => exact ih
  | pass _ _ _ _ _ ih => exact ih
  | follow _ _ _ _ ih => exact ih

/-- All names on the way are such as there are, or two dots. -/
theorem isName (hdisk : disk.isWellFormed = true) (h : Walks disk fin node links done names) :
    ∀ name ∈ names, name = Path.above ∨ Path.isName name = true := by
  induction h with
  | nil _ => exact fun name hname => nomatch hname
  | up _ ih => exact List.forall_mem_cons.2 ⟨.inl rfl, ih⟩
  | pass _ hfind _ _ _ ih => exact List.forall_mem_cons.2 ⟨.inr (Node.isName_of_find?_concat hdisk hfind), ih⟩
  | follow _ hfind _ _ ih =>
    exact List.forall_mem_cons.2 ⟨.inr (Node.isName_of_find?_concat hdisk hfind),
      fun name hname => ih name (List.mem_append_right _ hname)⟩

/-- What a walk ends in stands in a directory that the names before the last lead to. -/
theorem exists_directory {front : List Text} {last : Text} (hlast : last ≠ Path.above)
    (h : Walks disk fin node links done (front ++ [last])) :
    ∃ mid entries, Walks disk mid (.directory entries) links done front := by
  generalize hall : front ++ [last] = all at h
  induction h generalizing front with
  | nil => exact absurd hall (by simp)
  | up _ ih =>
    cases front with
    | nil => exact absurd (List.cons.inj hall).1 hlast
    | cons name more =>
      obtain ⟨rfl, hmore⟩ := List.cons.inj hall
      obtain ⟨mid, entries, hmid⟩ := ih hmore
      exact ⟨mid, entries, .up hmid⟩
  | pass hname hfind hlink hdirectory _ ih =>
    cases front with
    | nil =>
      obtain ⟨entries, hentries, -⟩ := Node.exists_directory_of_find?_concat hfind
      exact ⟨_, entries, .nil hentries⟩
    | cons name more =>
      obtain ⟨rfl, hmore⟩ := List.cons.inj hall
      obtain ⟨mid, entries, hmid⟩ := ih hmore
      refine ⟨mid, entries, .pass hname hfind hlink (fun _ => hdirectory ?_) hmid⟩
      rw [← hmore]
      simp
  | @follow _ _ rest _ target hname hfind _ _ ih =>
    cases front with
    | nil =>
      obtain ⟨entries, hentries, -⟩ := Node.exists_directory_of_find?_concat hfind
      exact ⟨_, entries, .nil hentries⟩
    | cons name more =>
      obtain ⟨rfl, hmore⟩ := List.cons.inj hall
      have names : (Path.ofText target).parts ++ more ++ [last] = (Path.ofText target).parts ++ rest :=
        (List.append_assoc _ _ _).trans (congrArg _ hmore)
      obtain ⟨mid, entries, hmid⟩ := ih names
      exact ⟨mid, entries, .follow hname hfind (fun _ _ => rfl) hmid⟩

end Walks

/-! ## Where names lead -/

/-- Names lead from a place to another one, through so many links: where those of a link lead, the other names
start. -/
inductive Leads (disk : Disk) : List Text → List Text → Nat → List Text → Prop
  | nil (done : List Text) : Leads disk done [] 0 done
  | up {done rest fin : List Text} {links : Nat} (more : Leads disk done.dropLast rest links fin) :
      Leads disk done (Path.above :: rest) links fin
  | pass {done rest fin : List Text} {name : Text} {links : Nat} {found : Node} (hname : name ≠ Path.above)
      (hfind : disk.find? (done ++ [name]) = some found) (hlink : found.isLink = false)
      (more : Leads disk (done ++ [name]) rest links fin) : Leads disk done (name :: rest) links fin
  | follow {done rest mid fin : List Text} {name target : Text} {inner outer : Nat} (hname : name ≠ Path.above)
      (hfind : disk.find? (done ++ [name]) = some (.link target))
      (enter : Leads disk (startOf done target) (Path.ofText target).parts inner mid)
      (more : Leads disk mid rest outer fin) : Leads disk done (name :: rest) (inner + outer + 1) fin

namespace Leads

variable {done names fin : List Text} {links : Nat}

theorem exists_mid {front back : List Text} (h : Leads disk done (front ++ back) links fin) :
    ∃ mid first second, Leads disk done front first mid ∧ Leads disk mid back second fin := by
  induction front generalizing done links with
  | nil => exact ⟨done, 0, links, .nil done, h⟩
  | cons name rest ih =>
    cases h with
    | up more =>
      obtain ⟨mid, first, second, hfirst, hsecond⟩ := ih more
      exact ⟨mid, first, second, .up hfirst, hsecond⟩
    | pass hname hfind hlink more =>
      obtain ⟨mid, first, second, hfirst, hsecond⟩ := ih more
      exact ⟨mid, first, second, .pass hname hfind hlink hfirst, hsecond⟩
    | follow hname hfind enter more =>
      obtain ⟨mid, first, second, hfirst, hsecond⟩ := ih more
      exact ⟨mid, _, second, .follow hname hfind enter hfirst, hsecond⟩

/-- Names lead to one place only, and they say through how many links. -/
theorem unique (h : Leads disk done names links fin) {others : Nat} {other : List Text}
    (h' : Leads disk done names others other) : links = others ∧ fin = other := by
  induction h generalizing others other with
  | nil =>
    cases h'
    exact ⟨rfl, rfl⟩
  | up _ ih =>
    cases h' with
    | up more => exact ih more
    | pass hname => exact absurd rfl hname
    | follow hname => exact absurd rfl hname
  | pass hname hfind hlink _ ih =>
    cases h' with
    | up => exact absurd rfl hname
    | pass _ _ _ more => exact ih more
    | follow _ hother =>
      obtain rfl := Option.some.inj (hfind.symm.trans hother)
      cases hlink
  | follow hname hfind _ _ ihenter ihmore =>
    cases h' with
    | up => exact absurd rfl hname
    | pass _ hother hlink =>
      obtain rfl := Option.some.inj (hfind.symm.trans hother)
      cases hlink
    | follow _ hother enter more =>
      obtain rfl := Node.link.inj (Option.some.inj (hfind.symm.trans hother))
      obtain ⟨rfl, rfl⟩ := ihenter enter
      obtain ⟨rfl, rfl⟩ := ihmore more
      exact ⟨rfl, rfl⟩

end Leads

/-- A walk that ends at something leads there. -/
theorem Walks.exists_leads {fin done names : List Text} {node : Node} {links : Nat}
    (h : Walks disk fin node links done names) : ∃ count, Leads disk done names count fin := by
  induction h with
  | nil _ => exact ⟨0, .nil _⟩
  | up _ ih =>
    obtain ⟨count, hleads⟩ := ih
    exact ⟨count, .up hleads⟩
  | pass hname hfind hlink _ _ ih =>
    obtain ⟨count, hleads⟩ := ih
    exact ⟨count, .pass hname hfind hlink hleads⟩
  | follow hname hfind _ _ ih =>
    obtain ⟨count, hleads⟩ := ih
    obtain ⟨mid, inner, outer, hinner, houter⟩ := hleads.exists_mid
    exact ⟨_, .follow hname hfind hinner houter⟩

/-! ## Making names real -/

/-- The names of the link at a place lead on through so many links. -/
def Costs (disk : Disk) (place : List Text) (count : Nat) : Prop :=
  ∃ done name target mid, place = done ++ [name] ∧ disk.find? place = some (.link target)
    ∧ Leads disk (startOf done target) (Path.ofText target).parts count mid

theorem Costs.unique {place : List Text} {count other : Nat} (h : Costs disk place count)
    (h' : Costs disk place other) : count = other := by
  obtain ⟨done, name, target, mid, rfl, hfind, hleads⟩ := h
  obtain ⟨done', name', target', mid', hplace, hfind', hleads'⟩ := h'
  obtain ⟨rfl, -⟩ := List.append_inj' hplace rfl
  obtain rfl := Node.link.inj (Option.some.inj (hfind.symm.trans hfind'))
  exact (hleads.unique hleads').1

/-- The links that are being gone through are distinct, and the names of each lead on through at least so many
links. -/
structure AreOpen (disk : Disk) (open_ : List (List Text)) (count : Nat) : Prop where
  distinct : open_.Nodup
  costs : ∀ place ∈ open_, ∃ cost, count ≤ cost ∧ Costs disk place cost

theorem AreOpen.mono {open_ : List (List Text)} {count fewer : Nat} (h : AreOpen disk open_ count)
    (hle : fewer ≤ count) : AreOpen disk open_ fewer := by
  refine ⟨h.distinct, fun place hplace => ?_⟩
  obtain ⟨cost, hcount, hcosts⟩ := h.costs place hplace
  exact ⟨cost, Nat.le_trans hle hcount, hcosts⟩

theorem AreOpen.length_le {open_ : List (List Text)} {count : Nat} (h : AreOpen disk open_ count) :
    open_.length ≤ disk.linkCount := by
  refine Node.length_le_linkCount h.distinct fun place hplace => ?_
  obtain ⟨_, -, _, _, target, _, -, hfind, -⟩ := h.costs place hplace
  exact ⟨target, hfind⟩

section

variable {open_ : List Path} {done rest : List Text} {name : Text} (links : Nat)

theorem resolveFrom_nil {current place : Path} :
    resolveFrom disk current links open_ place [] = .real place := by
  cases links with
  | _ => rw [resolveFrom, resolveWith]

theorem resolveFrom_above {current place : Path} : resolveFrom disk current links open_ place (Path.above :: rest)
    = resolveFrom disk current links open_ place.up rest := by
  have said : ¬ Path.isSilent Path.above = true := by decide
  cases links with
  | _ => rw [resolveFrom, resolveWith, if_neg said, if_pos rfl]

/-- A path from the root is written with the names of its place, wherever it is seen from. -/
theorem placeOf_ofNames (current : Path) (names : List Text) : placeOf current (.ofNames names) = names := rfl

theorem child_ofNames (names : List Text) (name : Text) :
    (Path.ofNames names).child name = .ofNames (names ++ [name]) := rfl

theorem resolveFrom_pass {current : Path} (hsaid : Path.isSilent name = false) (hname : name ≠ Path.above)
    (hfind : ∀ target, disk.find? (done ++ [name]) ≠ some (.link target)) :
    resolveFrom disk current links open_ (.ofNames done) (name :: rest)
      = resolveFrom disk current links open_ (.ofNames (done ++ [name])) rest := by
  have step : ∀ enter, resolveWith disk current enter open_ (.ofNames done) (name :: rest)
      = resolveWith disk current enter open_ (.ofNames (done ++ [name])) rest := by
    intro enter
    rw [resolveWith, if_neg (Bool.eq_false_iff.1 hsaid), if_neg hname]
    dsimp only
    rw [child_ofNames, placeOf_ofNames]
    split
    · next target htarget => exact absurd htarget (hfind target)
    · rfl
  cases links with
  | _ => rw [resolveFrom, step]

theorem resolveFrom_follow {current : Path} (hsaid : Path.isSilent name = false) (hname : name ≠ Path.above)
    {target : Text} (hfind : disk.find? (done ++ [name]) = some (.link target))
    (hopen : Path.ofNames (done ++ [name]) ∉ open_) {mid : Path}
    (hinner : resolveFrom disk current links (.ofNames (done ++ [name]) :: open_) (.ofNames (startOf done target))
      (Text.split '/' target) = .real mid) :
    resolveFrom disk current (links + 1) open_ (.ofNames done) (name :: rest)
      = resolveFrom disk current (links + 1) open_ mid rest := by
  have closed : open_.contains (Path.ofNames (done ++ [name])) = false := by simpa using hopen
  have start : (if (Path.ofText target).isAbsolute then Path.ofNames [] else .ofNames done)
      = .ofNames (startOf done target) := by
    rw [startOf]
    split <;> rfl
  rw [resolveFrom, resolveWith, if_neg (Bool.eq_false_iff.1 hsaid), if_neg hname]
  dsimp only
  rw [child_ofNames, placeOf_ofNames, hfind]
  dsimp only
  rw [closed, if_neg Bool.false_ne_true, start, hinner]

/-- What is made real of the names of a text is made real of its pieces, among which are others that say nothing. -/
theorem resolveWith_eq_real_of_filter {current : Path} {enter : List Path → Path → List Text → Resolved}
    {place fin : Path} {pieces : List Text}
    (h : resolveWith disk current enter open_ place (pieces.filter fun piece => !Path.isSilent piece) = .real fin) :
    resolveWith disk current enter open_ place pieces = .real fin := by
  induction pieces generalizing place with
  | nil => exact h
  | cons piece rest ih =>
    rw [resolveWith]
    split
    · next hsilent =>
      rw [List.filter_cons_of_neg (by simpa using hsilent)] at h
      exact ih h
    · next hsaid =>
      rw [List.filter_cons_of_pos (by simpa using hsaid), resolveWith, if_neg hsaid] at h
      split
      · next hstep =>
        rw [if_pos hstep] at h
        exact ih h
      · next hne =>
        rw [if_neg hne] at h
        dsimp only at h ⊢
        split at h
        · next target hfind =>
          split at h
          · cases h
          · next hopen =>
            rw [if_neg hopen]
            split at h
            · cases h
            · exact ih h
        · exact ih h

theorem resolveFrom_split {current : Path} {place fin : Path} {t : Text}
    (h : resolveFrom disk current links open_ place (Path.ofText t).parts = .real fin) :
    resolveFrom disk current links open_ place (Text.split '/' t) = .real fin := by
  cases links with
  | _ => exact resolveWith_eq_real_of_filter h

end

/-- Something stands only under names that say something. -/
theorem isSilent_of_find? (hdisk : disk.isWellFormed = true) {done : List Text} {name : Text} {found : Node}
    (hfind : disk.find? (done ++ [name]) = some found) : Path.isSilent name = false := by
  have h := Node.isName_of_find?_concat hdisk hfind
  simp only [Path.isName, Bool.and_eq_true] at h
  rw [Path.isSilent, Bool.or_eq_false_iff]
  exact ⟨by simpa using h.1.1.1.1, by simpa using h.1.1.2⟩

/-- Names that lead to a place are made real as the names of this place. No link is entered within itself, since
its names would then lead on through more links than they do. -/
theorem Leads.resolveFrom_eq (hdisk : disk.isWellFormed = true) {current : Path} {done names fin : List Text}
    {count : Nat} (h : Leads disk done names count fin) {open_ : List (List Text)} (hopen : AreOpen disk open_ count)
    {links : Nat} (hlinks : links + open_.length = disk.linkCount + 1) :
    resolveFrom disk current links (open_.map Path.ofNames) (.ofNames done) names = .real (.ofNames fin) := by
  induction h generalizing open_ links with
  | nil => exact resolveFrom_nil links
  | up _ ih =>
    rw [resolveFrom_above]
    exact ih hopen hlinks
  | pass hname hfind hlink _ ih =>
    rw [resolveFrom_pass links (isSilent_of_find? hdisk hfind) hname, ih hopen hlinks]
    intro target htarget
    rw [Option.some.inj (hfind.symm.trans htarget)] at hlink
    cases hlink
  | @follow done rest mid fin name target inner outer hname hfind enter _ ihenter ihmore =>
    have cost : Costs disk (done ++ [name]) inner := ⟨done, name, target, mid, rfl, hfind, enter⟩
    have closed : done ++ [name] ∉ open_ := by
      intro hmem
      obtain ⟨other, hle, hother⟩ := hopen.costs _ hmem
      have := cost.unique hother
      omega
    have opened : AreOpen disk ((done ++ [name]) :: open_) inner :=
      ⟨List.nodup_cons.2 ⟨closed, hopen.distinct⟩,
        List.forall_mem_cons.2 ⟨⟨inner, Nat.le_refl inner, cost⟩, (hopen.mono (by omega)).costs⟩⟩
    have bound := opened.length_le
    rw [List.length_cons] at bound
    obtain ⟨fewer, rfl⟩ : ∃ fewer, links = fewer + 1 := ⟨links - 1, by omega⟩
    have inside := ihenter opened (show fewer + _ = _ by rw [List.length_cons]; omega)
    have written : Path.ofNames (done ++ [name]) ∉ open_.map Path.ofNames := by
      rintro hmem
      obtain ⟨place, hplace, heq⟩ := List.mem_map.1 hmem
      exact closed ((Path.mk.inj heq).2 ▸ hplace)
    rw [resolveFrom_follow fewer (isSilent_of_find? hdisk hfind) hname hfind written (resolveFrom_split fewer inside),
      ihmore (hopen.mono (by omega)) hlinks]

/-- The real names of a path that leads somewhere are those of where it leads. -/
theorem realNames_of_leads (hdisk : disk.isWellFormed = true) {path : Path} {count : Nat} {fin : List Text}
    (h : Leads disk [] path.parts count fin) : realNames disk path = fin := by
  have nothing : AreOpen disk [] count := ⟨List.nodup_nil, fun place hplace => nomatch hplace⟩
  have made : resolved disk path = .real (.ofNames fin) :=
    h.resolveFrom_eq hdisk nothing (Nat.add_zero _)
  rw [realNames, made]
  rfl

/-! ## Names without links -/

/-- Something stands under all the names, and nowhere a link. -/
def AreReal (disk : Disk) (names : List Text) : Prop :=
  ∀ front name, front ++ [name] <+: names → name ≠ Path.above
    ∧ ∃ found, disk.find? (front ++ [name]) = some found ∧ found.isLink = false

theorem areReal_nil : AreReal disk [] := fun front name h => absurd h (by simp)

theorem AreReal.of_prefix {front names : List Text} (h : AreReal disk names) (hfront : front <+: names) :
    AreReal disk front := fun _ _ hbegins => h _ _ (hbegins.trans hfront)

theorem AreReal.snoc {done : List Text} (h : AreReal disk done) {name : Text} (hname : name ≠ Path.above)
    {found : Node} (hfind : disk.find? (done ++ [name]) = some found) (hlink : found.isLink = false) :
    AreReal disk (done ++ [name]) := by
  intro front other hbegins
  rcases List.prefix_concat_iff.1 hbegins with heq | hbegins
  · obtain ⟨rfl, hlast⟩ := List.append_inj' heq rfl
    obtain rfl := List.singleton_inj.1 hlast
    exact ⟨hname, found, hfind, hlink⟩
  · exact h front other hbegins

/-- From real names a path leads to real names. -/
theorem Leads.areReal {done names fin : List Text} {count : Nat} (h : Leads disk done names count fin)
    (hdone : AreReal disk done) : AreReal disk fin := by
  induction h with
  | nil => exact hdone
  | @up done _ _ _ _ ih => exact ih (hdone.of_prefix (List.dropLast_prefix done))
  | pass hname hfind hlink _ ih => exact ih (hdone.snoc hname hfind hlink)
  | @follow done _ _ _ _ target _ _ _ _ _ _ ihenter ihmore =>
    have start : AreReal disk (startOf done target) := by
      unfold startOf
      split
      · exact areReal_nil
      · exact hdone
    exact ihmore (ihenter start)

/-- Real names lead to themselves. -/
theorem AreReal.leads {front back : List Text} (h : AreReal disk (front ++ back)) :
    Leads disk front back 0 (front ++ back) := by
  induction back generalizing front with
  | nil =>
    rw [List.append_nil]
    exact .nil front
  | cons name rest ih =>
    have parts : front ++ name :: rest = front ++ [name] ++ rest := by simp
    obtain ⟨hname, found, hfind, hlink⟩ := h front name (parts ▸ List.prefix_append _ rest)
    rw [parts] at h ⊢
    exact .pass hname hfind hlink (ih h)

/-- Real names are walked through without links. -/
theorem AreReal.walks {front back : List Text} {node : Node} (h : AreReal disk (front ++ back))
    (hfind : disk.find? (front ++ back) = some node) (links : Nat) :
    Walks disk (front ++ back) node links front back := by
  induction back generalizing front with
  | nil =>
    rw [List.append_nil] at hfind ⊢
    exact .nil hfind
  | cons name rest ih =>
    have parts : front ++ name :: rest = front ++ [name] ++ rest := by simp
    obtain ⟨hname, found, hfound, hlink⟩ := h front name (parts ▸ List.prefix_append _ rest)
    rw [parts] at h hfind ⊢
    refine .pass hname hfound hlink (fun hrest => ?_) (ih h hfind)
    cases rest with
    | nil => exact absurd rfl hrest
    | cons next more =>
      -- the next name is found in the directory of this one
      obtain ⟨-, inner, hinner, -⟩ := h (front ++ [name]) next (by simp)
      obtain ⟨entries, hentries, -⟩ := Node.exists_directory_of_find?_concat hinner
      rw [← Option.some.inj (hentries.symm.trans hfound)]
      rfl

/-! ## Real paths -/

/-- A path whose names are such as there are, or two dots, has only names that files can have. -/
theorem isSound_of_isName {path : Path} (h : ∀ name ∈ path.parts, name = Path.above ∨ Path.isName name = true) :
    path.isSound = true := by
  rw [Path.isSound, List.all_eq_true]
  intro name hname
  rcases h name hname with rfl | hname
  · decide
  · simp only [Path.isName, Bool.and_eq_true] at hname
    exact hname.2

theorem AreReal.isName (hdisk : disk.isWellFormed = true) {names : List Text} (h : AreReal disk names) :
    ∀ name ∈ names, Path.isName name = true := by
  intro name hname
  obtain ⟨front, back, rfl⟩ := List.append_of_mem hname
  obtain ⟨-, found, hfind, -⟩ := h front name (by simp)
  exact Node.isName_of_find?_concat hdisk hfind

/-- A path under whose real names something stands is resolved to itself. -/
theorem AreReal.resolve_eq (hdisk : disk.isWellFormed = true) {names : List Text} (h : AreReal disk names)
    {node : Node} (hfind : disk.find? names = some node) :
    look disk (Path.ofNames names) = .ok node ∧ resolve disk (Path.ofNames names) = .ok (Path.ofNames names) := by
  have walks : Walks disk names node maxLinks [] names := @AreReal.walks disk [] names node h hfind maxLinks
  have leads : Leads disk [] names 0 names := @AreReal.leads disk [] names h
  have hlook : look disk (Path.ofNames names) = .ok node := look_eq_ok_iff.2 ⟨names, walks⟩
  have real : realNames disk (Path.ofNames names) = names := realNames_of_leads hdisk leads
  have hsound : (Path.ofNames names).isSound = true :=
    isSound_of_isName fun name hname => .inr (h.isName hdisk name hname)
  refine ⟨hlook, resolve_eq_ok_iff.2 ⟨(refusalOnWay?_eq_none_iff hsound).2 ?_, ?_, ?_⟩⟩
  · rw [real]
    exact hsound
  · rw [real]
  · rw [hlook]
    exact nofun

/-- A path that leads to a directory is resolved to a path under whose names there are no links. It leads to a
directory as well, and is resolved to itself. -/
theorem resolve_of_isDirectory (hdisk : disk.isWellFormed = true) {path real : Path}
    (hpath : isDirectory disk path = true) (h : resolve disk path = .ok real) :
    AreReal disk real.parts ∧ isDirectory disk real = true ∧ resolve disk real = .ok real := by
  unfold isDirectory at hpath
  split at hpath
  · next node hlook =>
    obtain ⟨fin, hwalks⟩ := look_eq_ok_iff.1 hlook
    obtain ⟨count, hleads⟩ := hwalks.exists_leads
    have hreal := hleads.areReal areReal_nil
    obtain ⟨hlook', hself⟩ := hreal.resolve_eq hdisk hwalks.find?
    rw [eq_ofNames_of_resolve h, realNames_of_leads hdisk hleads]
    refine ⟨hreal, ?_, hself⟩
    rw [isDirectory, hlook']
    exact hpath
  · cases hpath

/-- Where a path without two dots leads to a directory, every beginning of it does. -/
theorem isDirectory_of_prefix {front names : List Text} (hfront : front <+: names)
    (hnames : ∀ name ∈ names, name ≠ Path.above) (h : isDirectory disk (Path.ofNames names) = true) :
    isDirectory disk (Path.ofNames front) = true := by
  obtain ⟨back, rfl⟩ := hfront
  induction back using List.reverseRecOn with
  | nil => rwa [List.append_nil] at h
  | append_singleton back last ih =>
    rw [← List.append_assoc] at h hnames
    refine ih (fun name hname => hnames name (List.mem_append_left _ hname)) ?_
    unfold isDirectory at h
    split at h
    · next node hlook =>
      obtain ⟨fin, hwalks⟩ := look_eq_ok_iff.1 hlook
      obtain ⟨mid, entries, hmid⟩ := hwalks.exists_directory (hnames last (by simp))
      rw [isDirectory, look_eq_ok_iff.2 ⟨mid, hmid⟩]
      rfl
    · cases h

/-- A path that leads to a directory is resolved to the place where a directory stands. -/
theorem exists_resolve_of_isDirectory (hdisk : disk.isWellFormed = true) {path : Path}
    (h : isDirectory disk path = true) :
    ∃ real entries, resolve disk path = .ok real ∧ real.anchor = .root
      ∧ disk.find? real.parts = some (.directory entries) ∧ isDirectory disk real = true := by
  have hdirectory := h
  unfold isDirectory at h
  split at h
  · next node hlook =>
    obtain ⟨fin, hwalks⟩ := look_eq_ok_iff.1 hlook
    obtain ⟨count, hleads⟩ := hwalks.exists_leads
    have hsound : path.isSound = true := isSound_of_isName (hwalks.isName hdisk)
    obtain ⟨hreal, hself⟩ := (hleads.areReal areReal_nil).resolve_eq hdisk hwalks.find?
    have hresolve : resolve disk path = .ok (Path.ofNames fin) := by
      refine resolve_eq_ok_iff.2 ⟨(refusalOnWay?_eq_none_iff hsound).2 ?_, ?_, ?_⟩
      · rw [realNames_of_leads hdisk hleads]
        exact isSound_of_resolve hself
      · rw [realNames_of_leads hdisk hleads]
      · rw [hreal]
        exact nofun
    cases node with
    | directory entries =>
      exact ⟨_, entries, hresolve, rfl, hwalks.find?, (resolve_of_isDirectory hdisk hdirectory hresolve).2.1⟩
    | _ => cases h
  · cases h

end Disk

end SourceAtlas
