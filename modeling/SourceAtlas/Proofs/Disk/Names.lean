import Mathlib.Data.List.TakeWhile
import SourceAtlas.Disk.Walk
import SourceAtlas.Proofs.Path

/-!
Names on disks. On a disk as there are, every directory has each name once, and no name is empty, a dot, two
dots, holds a separator, or cannot be that of a file. What holds of all names in a path and in the links of a disk
holds of the real names as well, and none of these is two dots.

Main statements: `forall_mem_realNames`, `resolve_eq_ok_iff`.
-/

namespace SourceAtlas

/-! ## Well-formed disks -/

/-- May an entry of a directory have this name? -/
def Path.isName (name : Text) : Bool :=
  !name.isEmpty && !name.contains Store.separator && name != here && name != above
    && isSoundName name

/-- A name holds no separator. -/
theorem Path.not_mem_of_isName {name : Text} (h : isName name = true) : Store.separator ∉ name := by
  simp only [isName, Bool.and_eq_true] at h
  simpa using h.1.1.1.2

theorem Path.ne_nil_of_isName {name : Text} (h : isName name = true) : name ≠ [] := by
  rintro rfl
  cases h

/-- A name is not two dots. -/
theorem Path.ne_above_of_isName {name : Text} (h : isName name = true) : name ≠ above := by
  simp only [isName, Bool.and_eq_true] at h
  simpa using h.1.2

namespace Node

mutual

/-- Are all names on a disk such as there are, and each once in its directory? -/
def isWellFormed : Node → Bool
  | .directory entries => areWellFormed entries
  | _ => true

/-- Are the names of entries distinct and such as there are, here and further down? -/
def areWellFormed : List (Text × Node) → Bool
  | [] => true
  | (name, node) :: rest =>
    Path.isName name && rest.all (fun e => e.1 != name) && isWellFormed node && areWellFormed rest

end

/-- Entries are well formed just if each has a name, another one than the rest, and is well formed further down. -/
theorem areWellFormed_cons {name : Text} {node : Node} {rest : List (Text × Node)} :
    areWellFormed ((name, node) :: rest) = true
      ↔ Path.isName name = true ∧ (∀ e ∈ rest, e.1 ≠ name) ∧ node.isWellFormed = true
        ∧ areWellFormed rest = true := by
  simp [areWellFormed, and_assoc]

/-- An entry of a well-formed directory is well formed. -/
theorem isWellFormed_of_find? {entries : List (Text × Node)} {name : Text} {node : Node}
    (h : areWellFormed entries = true) (hnode : Association.find? name entries = some node) :
    node.isWellFormed = true := by
  induction entries with
  | nil => cases hnode
  | cons e rest ih =>
    obtain ⟨-, -, hfirst, hrest⟩ := areWellFormed_cons.1 h
    rw [Association.find?] at hnode
    split at hnode
    · exact Option.some.inj hnode ▸ hfirst
    · exact ih hrest hnode

/-- What stands at a place of a well-formed disk is well formed. -/
theorem isWellFormed_find? {node found : Node} {names : List Text} (h : node.isWellFormed = true)
    (hfound : node.find? names = some found) : found.isWellFormed = true := by
  induction names generalizing node with
  | nil => exact Option.some.inj hfound ▸ h
  | cons name rest ih =>
    cases node with
    | directory entries =>
      obtain ⟨next, hnext, hfound⟩ := Option.bind_eq_some_iff.1 hfound
      exact ih (isWellFormed_of_find? h hnext) hfound
    | _ => cases hfound

end Node

/-! ## Pieces of paths -/

namespace Path

/-- No name of a path holds a separator. -/
def IsSpelt (p : Path) : Prop := ∀ name ∈ p.parts, Store.separator ∉ name

/-- So are the paths that can be written down. -/
theorem isSpelt_ofText (t : Text) : (ofText t).IsSpelt := by
  intro name hname
  exact Text.not_mem_of_mem_split (List.mem_filter.1 hname).1

/-- Every piece that says something has a property. -/
def AreSaid (p : Text → Prop) (pieces : List Text) : Prop := ∀ piece ∈ pieces, isSilent piece = false → p piece

variable {p : Text → Prop} {pieces : List Text}

theorem areSaid_cons {piece : Text} :
    AreSaid p (piece :: pieces) ↔ (isSilent piece = false → p piece) ∧ AreSaid p pieces := List.forall_mem_cons

theorem areSaid_append {more : List Text} : AreSaid p (pieces ++ more) ↔ AreSaid p pieces ∧ AreSaid p more :=
  List.forall_mem_append

/-- The names of a text are its pieces that say something. -/
theorem areSaid_split {t : Text} (h : ∀ name ∈ (ofText t).parts, p name) : AreSaid p (Text.split '/' t) :=
  fun piece hpiece hsaid => h piece (List.mem_filter.2 ⟨hpiece, by rw [hsaid]; rfl⟩)

/-- What a path and the pieces behind it have in common, the whole has too. -/
theorem areSaid_followedBy {path : Path} (hpath : AreSaid p path.parts) (hpieces : AreSaid p pieces) :
    AreSaid p (path.followedBy pieces).parts := by
  unfold followedBy
  split
  · exact (areSaid_cons.1 hpieces).2
  · exact areSaid_append.2 ⟨hpath, hpieces⟩

/-- The names of a path have a property, and none of them is two dots if it starts at the root. -/
def HasNames (p : Text → Prop) (path : Path) : Prop :=
  ∀ name ∈ path.parts, p name ∧ (path.isAbsolute = true → name ≠ above)

theorem hasNames_ofNames_nil : (ofNames []).HasNames p := nofun

theorem HasNames.areSaid {path : Path} (h : path.HasNames p) : AreSaid p path.parts :=
  fun name hname _ => (h name hname).1

/-- A further name that is not two dots keeps it so. -/
theorem HasNames.child {path : Path} (h : path.HasNames p) {name : Text} (hname : p name) (hne : name ≠ above) :
    (path.child name).HasNames p := by
  intro other hother
  rcases List.mem_append.1 hother with hother | hother
  · exact h other hother
  · obtain rfl := List.mem_singleton.1 hother
    exact ⟨hname, fun _ => hne⟩

/-- So does a step up. -/
theorem HasNames.up {path : Path} (h : path.HasNames p) (habove : p above) : path.up.HasNames p := by
  unfold Path.up
  split
  · next hstep =>
    rw [Bool.and_eq_true, decide_eq_true_eq] at hstep
    intro other hother
    refine ⟨?_, fun habsolute => absurd hstep.1 (of_decide_eq_true habsolute)⟩
    rcases List.mem_append.1 hother with hother | hother
    · exact (h other hother).1
    · exact List.mem_singleton.1 hother ▸ habove
  · exact fun other hother => h other (List.dropLast_subset path.parts hother)

end Path

/-! ## Real names -/

namespace Disk

/-- What a path comes to has names of a property, as far as they say something. -/
def Resolved.HasNames (p : Text → Prop) : Resolved → Prop
  | .real place => place.HasNames p
  | .left path => Path.AreSaid p path.parts

/-- Every name that a link of the disk leads through has a property. -/
def LinksHaveNames (disk : Disk) (p : Text → Prop) : Prop :=
  ∀ place target, disk.find? place = some (.link target) → ∀ name ∈ (Path.ofText target).parts, p name

section

variable {disk : Disk} {p : Text → Prop} {current done : Path} {open_ : List Path} {pieces : List Text}

/-- One leg of the way to a real path keeps a property of names, provided that the links on it do. -/
theorem resolveWith_hasNames (hlinks : LinksHaveNames disk p) {enter : List Path → Path → List Text → Resolved}
    (henter : ∀ open_ start pieces, start.HasNames p → Path.AreSaid p pieces → (enter open_ start pieces).HasNames p)
    (hdone : done.HasNames p) (hpieces : Path.AreSaid p pieces) :
    (resolveWith disk current enter open_ done pieces).HasNames p := by
  induction pieces generalizing done with
  | nil => exact hdone
  | cons piece rest ih =>
    obtain ⟨hpiece, hrest⟩ := Path.areSaid_cons.1 hpieces
    unfold resolveWith
    split
    · exact ih hdone hrest
    · next hsaid =>
      have hpiece := hpiece (Bool.eq_false_iff.2 hsaid)
      split
      · next hstep => exact ih (hdone.up (hstep ▸ hpiece)) hrest
      · next hne =>
        -- the piece is a name, to be looked up and followed if it is that of a link
        have place := hdone.child hpiece hne
        dsimp only
        split
        · next target hfind =>
          split
          -- a link that is open already leaves all other pieces as they are
          · exact Path.areSaid_followedBy place.areSaid hrest
          -- another link is entered, and the other pieces follow where it leads
          · have start : Path.HasNames p (if (Path.ofText target).isAbsolute then .ofNames [] else done) := by
              split
              · exact Path.hasNames_ofNames_nil
              · exact hdone
            have inner := henter (done.child piece :: open_) _ _ start (Path.areSaid_split (hlinks _ _ hfind))
            split
            · next heq =>
              rw [heq] at inner
              exact Path.areSaid_followedBy inner hrest
            · next heq =>
              rw [heq] at inner
              exact ih inner hrest
        · exact ih place hrest

/-- So does the whole way, from any place on. -/
theorem resolveFrom_hasNames (hlinks : LinksHaveNames disk p) (links : Nat) (hdone : done.HasNames p)
    (hpieces : Path.AreSaid p pieces) : (resolveFrom disk current links open_ done pieces).HasNames p := by
  -- the induction is on how many links may still be entered
  induction links generalizing open_ done pieces with
  | zero =>
    exact resolveWith_hasNames hlinks (fun _ _ _ hstart hinner => Path.areSaid_followedBy hstart.areSaid hinner)
      hdone hpieces
  | succ links ih => exact resolveWith_hasNames hlinks (fun _ _ _ hstart hinner => ih hstart hinner) hdone hpieces

/-- The names of what a path comes to have what it and the working directory have in common, and none is two dots. -/
theorem forall_mem_namesOf {r : Resolved} (h : r.HasNames p) (hcurrent : ∀ name ∈ current.parts, p name) :
    ∀ name ∈ namesOf current r, p name ∧ name ≠ Path.above := by
  intro name hname
  cases r with
  | real place =>
    rw [namesOf, placeOf] at hname
    split at hname
    · next habsolute => exact (h name hname).imp_right fun hne => hne habsolute
    · obtain ⟨hmem, hne⟩ := Path.mem_collapse hname
      refine ⟨?_, hne⟩
      rcases List.mem_append.1 hmem with hmem | hmem
      · exact hcurrent name hmem
      · exact (h name hmem).1
  | left path =>
    obtain ⟨hmem, hne⟩ := Path.mem_collapse hname
    obtain ⟨hmem, hsaid⟩ := List.mem_filter.1 hmem
    refine ⟨?_, hne⟩
    have said : Path.AreSaid p (current.join path).parts := by
      unfold Path.join
      split
      · exact h
      · exact Path.areSaid_append.2 ⟨fun name hname _ => hcurrent name hname, h⟩
    exact said name hmem (by simpa using hsaid)

/-- What the names of a path and of all links have in common, the real names have too; and none is two dots. -/
theorem forall_mem_realNames (hlinks : LinksHaveNames disk p) {path : Path} (hpath : ∀ name ∈ path.parts, p name) :
    ∀ name ∈ realNames disk path, p name ∧ name ≠ Path.above :=
  forall_mem_namesOf
    (resolveFrom_hasNames hlinks _ Path.hasNames_ofNames_nil fun name hname _ => hpath name hname) nofun

/-- So do those of a path that is seen from a working directory whose names have it. -/
theorem forall_mem_realNamesIn (hlinks : LinksHaveNames disk p) (hcurrent : ∀ name ∈ current.parts, p name)
    {path : Path} (hpath : ∀ name ∈ path.parts, p name) :
    ∀ name ∈ realNamesIn disk current path, p name ∧ name ≠ Path.above := by
  unfold realNamesIn
  split
  · exact forall_mem_namesOf (resolveFrom_hasNames hlinks _ nofun fun name hname _ => hpath name hname) hcurrent
  · refine forall_mem_realNames hlinks fun name hname => ?_
    unfold Path.join at hname
    split at hname
    · exact hpath name hname
    · exact (List.mem_append.1 hname).elim (hcurrent name) (hpath name)

end

/-! ## Real paths -/

/-- A path is refused unless all its names can be those of files. -/
theorem refusal?_eq_none_iff {path : Path} : refusal? path = none ↔ path.isSound = true := by
  rw [refusal?]
  split
  · next h => simp [h]
  · next h => simp [h]

/-- Where nothing is refused while names are made real, the names that come of it can be those of files. -/
theorem isSound_of_refusalOnWay? {disk : Disk} {shown : Path → Path} {path : Path} {real : List Text}
    (h : refusalOnWay? disk shown path real = none) : (Path.ofNames real).isSound = true := by
  unfold refusalOnWay? at h
  dsimp only at h
  split at h
  · cases h
  · exact refusal?_eq_none_iff.1 h

/-- Of a path whose names can be those of files, only the real names can be refused. -/
theorem refusalOnWay?_eq_none_iff {disk : Disk} {shown : Path → Path} {path : Path} {real : List Text}
    (h : path.isSound = true) :
    refusalOnWay? disk shown path real = none ↔ (Path.ofNames real).isSound = true := by
  have front : path.parts.takeWhile Path.isSoundName = path.parts :=
    List.takeWhile_eq_self_iff.2 (List.all_eq_true.1 h)
  rw [refusalOnWay?, front, List.drop_length]
  exact refusal?_eq_none_iff

/-- Real names are those of a real path unless they go through too many links. -/
theorem realPathOf_eq_ok_iff {disk : Disk} {names : List Text} {real : Path} :
    realPathOf disk names = .ok real ↔ real = Path.ofNames names ∧ look disk real ≠ .error .tooManyLinks := by
  unfold realPathOf
  split
  · next hloop =>
    refine ⟨nofun, ?_⟩
    rintro ⟨rfl, hlook⟩
    exact absurd hloop hlook
  · next hlook =>
    constructor
    · intro heq
      obtain rfl := Except.ok.inj heq
      exact ⟨rfl, hlook⟩
    · rintro ⟨rfl, -⟩
      rfl

/-- What a path is resolved to: the path of the real names, if no name is refused on the way and no loop of links
is left in it. -/
theorem resolve_eq_ok_iff {disk : Disk} {path real : Path} :
    resolve disk path = .ok real ↔ refusalOnWay? disk id path (realNames disk path) = none
      ∧ real = Path.ofNames (realNames disk path) ∧ look disk real ≠ .error .tooManyLinks := by
  rw [resolve]
  split
  · next hrefused => simp [hrefused]
  · next hrefused => rw [realPathOf_eq_ok_iff, and_iff_right hrefused]

/-- The names of a real path can be those of files. -/
theorem isSound_of_resolve {disk : Disk} {path real : Path} (h : resolve disk path = .ok real) :
    real.isSound = true := by
  obtain ⟨hway, rfl, -⟩ := resolve_eq_ok_iff.1 h
  exact isSound_of_refusalOnWay? hway

/-- A real path is made of the real names. -/
theorem eq_ofNames_of_resolve {disk : Disk} {path real : Path} (h : resolve disk path = .ok real) :
    real = Path.ofNames (realNames disk path) := (resolve_eq_ok_iff.1 h).2.1

end Disk

end SourceAtlas
