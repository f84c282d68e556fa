import Mathlib.Data.Set.Card
import SourceAtlas.Proofs.Except
import SourceAtlas.Proofs.Scan.Order

/-!
What a scan lists and what it skips. A file is listed if it is reached through directories of which none is
ignored, and is not ignored itself; what is counted are the ignored files and directories in the directories
that are entered. Nothing else is listed or counted, and nothing twice.

Main statement: `scan_exact`.
-/

namespace SourceAtlas

/-- Is it a file? A cache database is one as well. -/
def Node.isRegular : Node → Bool
  | .file _ => true
  | .database _ => true
  | _ => false

/-- Links are gone through, so that no path leads to one. -/
theorem Disk.isLink_of_look {disk node : Disk} (hdisk : disk.isLink = false) {path : Path}
    (h : look disk path = .ok node) : node.isLink = false := by
  obtain ⟨fin, hwalks⟩ := look_eq_ok_iff.1 h
  obtain ⟨count, hleads⟩ := hwalks.exists_leads
  have hfind := hwalks.find?
  rcases List.eq_nil_or_concat fin with rfl | ⟨front, name, rfl⟩
  · exact Option.some.inj hfind ▸ hdisk
  · rw [List.concat_eq_append] at hleads hfind
    obtain ⟨-, found, hfound, hlink⟩ := hleads.areReal areReal_nil front name (List.prefix_refl _)
    exact Option.some.inj (hfound.symm.trans hfind) ▸ hlink

namespace Scan

/-! ## Places -/

/-- Names as rules see them: a path from the root of the scan. -/
def relative (names : List Text) : Text := Text.join "/" names

theorem relative_append {front more : List Text} (hfront : front ≠ []) (hmore : more ≠ []) :
    relative (front ++ more) = relative front ++ "/" ++ relative more := Text.join_append hfront hmore

theorem exists_relative_cons (name : Text) (more : List Text) : ∃ rest, relative (name :: more) = name ++ rest := by
  cases more with
  | nil => exact ⟨[], (List.append_nil name).symm⟩
  | cons next more => exact ⟨"/" ++ relative (next :: more), List.append_assoc _ _ _⟩

/-- Rules see the path of names such as there are as it stands. -/
theorem seen_relative_append {names : List Text} (hne : names ≠ [])
    (hnames : ∀ name ∈ names, Path.isName name = true) (t : Text) :
    Ignore.Spec.seen (relative names ++ t) = relative names ++ t := by
  obtain ⟨name, more, rfl⟩ := List.exists_cons_of_ne_nil hne
  have hname := hnames name List.mem_cons_self
  have hslash : ('/' : CodePoint) ∉ name := Path.not_mem_of_isName hname
  obtain ⟨rest, hrest⟩ := exists_relative_cons name more
  rw [hrest, List.append_assoc]
  cases name with
  | nil => cases hname
  | cons c name =>
    have hc : ('/' : CodePoint) ≠ c := fun heq => hslash (heq ▸ List.mem_cons_self)
    have hdot : Text.after? "./" (c :: name ++ (rest ++ t)) = none := by
      by_cases heq : ('.' : CodePoint) = c
      · cases name with
        | nil =>
          rw [← heq] at hname
          exact absurd hname (by decide)
        | cons d name =>
          have hd : ('/' : CodePoint) ≠ d := fun heq => hslash (heq ▸ by simp)
          exact (if_pos heq).trans (if_neg hd)
      · exact if_neg heq
    have root : Text.after? "/" (c :: name ++ (rest ++ t)) = none := if_neg hc
    rw [Ignore.Spec.seen, root, hdot]
    rfl

/-- No directory on the way to a place is ignored, nor is the one at the place. Directories are matched with a
slash at their end. -/
def IsEntered (spec : Ignore.Spec) (names : List Text) : Prop :=
  ∀ front, front ≠ [] → front <+: names → spec.ignores (relative front ++ "/") = false

section

variable (disk : Disk) (spec : Ignore.Spec) (place : List Text) (tree : Node) (names : List Text)

/-- At a place of the tree stands a file of this size, or a link to one. The tree stands on the disk at
`place`. -/
def IsFile (size : Nat) : Prop :=
  ∃ node content, tree.find? names = some node
    ∧ (if node.isLink then Disk.look disk (.ofNames (place ++ names)) = .ok content else content = node)
    ∧ content.isRegular = true ∧ content.size = size

/-- A file in a directory that is entered, and not ignored. -/
structure IsListed (size : Nat) : Prop where
  file : IsFile disk place tree names size
  entered : IsEntered spec names.dropLast
  kept : spec.ignores (relative names) = false

/-- A file or a directory in a directory that is entered, and ignored. -/
structure IsSkipped : Prop where
  entry : names ≠ []
  entered : IsEntered spec names.dropLast
  ignored : ((∃ size, IsFile disk place tree names size) ∧ spec.ignores (relative names) = true)
    ∨ ((∃ entries, tree.find? names = some (.directory entries)) ∧ spec.ignores (relative names ++ "/") = true)

/-- A listing has the files that are to be listed at some places, and counts those that are to be skipped. -/
structure Covers (places : Set (List Text)) (l : Listing) : Prop where
  mem_files : ∀ f, f ∈ l.files
    ↔ ∃ names ∈ places, IsListed disk spec place tree names f.size ∧ f.path = .ofNames (place ++ names)
  encard_skipped : {names ∈ places | IsSkipped disk spec place tree names}.encard = l.ignored

end

/-- The places below a directory. -/
def below (front : List Text) : Set (List Text) := {names | ∃ more, more ≠ [] ∧ names = front ++ more}

variable {disk : Disk} {spec : Ignore.Spec} {place : List Text} {tree : Node}

theorem isEntered_nil : IsEntered spec [] := fun _ hne hfront => absurd (List.prefix_nil.1 hfront) hne

theorem isEntered_concat {front : List Text} {name : Text} : IsEntered spec (front ++ [name])
    ↔ IsEntered spec front ∧ spec.ignores (relative (front ++ [name]) ++ "/") = false := by
  constructor
  · intro h
    exact ⟨fun other hne hother => h other hne (hother.trans (List.prefix_append front [name])),
      h _ (by simp) (List.prefix_refl _)⟩
  · rintro ⟨hfront, hlast⟩ other hne hother
    rcases List.prefix_concat_iff.1 hother with rfl | hother
    · exact hlast
    · exact hfront other hne hother

theorem exists_append_of_prefix_dropLast {front names : List Text} (hne : front ≠ [])
    (h : front <+: names.dropLast) : ∃ more, more ≠ [] ∧ names = front ++ more := by
  obtain ⟨between, hbetween⟩ := h
  have hnames : names ≠ [] := by
    rintro rfl
    exact hne (List.append_eq_nil_iff.1 hbetween).1
  obtain ⟨init, last, rfl⟩ := (List.eq_nil_or_concat names).resolve_left hnames
  rw [List.concat_eq_append, List.dropLast_concat] at hbetween
  exact ⟨between ++ [last], by simp, by rw [List.concat_eq_append, ← hbetween, List.append_assoc]⟩

theorem isEntered_append_iff {front back : List Text} : IsEntered spec (front ++ back)
    ↔ IsEntered spec front ∧ ∀ between, between ≠ [] → between <+: back →
      spec.ignores (relative (front ++ between) ++ "/") = false := by
  constructor
  · intro h
    refine ⟨fun other hne hother => h other hne (hother.trans (List.prefix_append front back)), ?_⟩
    intro between hne hbetween
    exact h _ (List.append_ne_nil_of_right_ne_nil front hne) ((List.prefix_append_right_inj front).2 hbetween)
  · rintro ⟨hfront, hback⟩ other hne hother
    rcases List.prefix_or_prefix_of_prefix hother (List.prefix_append front back) with hshort | ⟨between, rfl⟩
    · exact hfront other hne hshort
    · by_cases hbetween : between = []
      · subst hbetween
        rw [List.append_nil] at hne ⊢
        exact hfront front hne (List.prefix_refl front)
      · exact hback between hbetween ((List.prefix_append_right_inj front).1 hother)

theorem isFile_iff {names : List Text} {node : Node} (hfind : tree.find? names = some node) (size : Nat) :
    IsFile disk place tree names size
      ↔ ∃ content, (if node.isLink then Disk.look disk (.ofNames (place ++ names)) = .ok content
          else content = node) ∧ content.isRegular = true ∧ content.size = size := by
  rw [IsFile, hfind]
  constructor
  · rintro ⟨other, content, hother, h⟩
    obtain rfl := Option.some.inj hother
    exact ⟨content, h⟩
  · rintro ⟨content, h⟩
    exact ⟨node, content, rfl, h⟩

/-- The root of a scan is no file itself. -/
theorem IsFile.ne_nil {entries : List (Text × Node)} {names : List Text} {size : Nat}
    (h : IsFile disk place (.directory entries) names size) : names ≠ [] := by
  rintro rfl
  obtain ⟨node, content, hnode, hcontent, hregular, -⟩ := h
  obtain rfl := Option.some.inj hnode
  obtain rfl : content = .directory entries := hcontent
  cases hregular

theorem IsFile.isName {names : List Text} {size : Nat} (h : IsFile disk place tree names size)
    (htree : tree.isWellFormed = true) : ∀ name ∈ names, Path.isName name = true := by
  obtain ⟨node, _, hnode, -⟩ := h
  exact Node.isName_of_mem_of_find? htree hnode

theorem isListed_iff {names : List Text} {size : Nat} : IsListed disk spec place tree names size
    ↔ IsFile disk place tree names size ∧ IsEntered spec names.dropLast ∧ spec.ignores (relative names) = false :=
  ⟨fun h => ⟨h.file, h.entered, h.kept⟩, fun ⟨file, entered, kept⟩ => ⟨file, entered, kept⟩⟩

/-- What is listed or skipped stands at a place of the tree. -/
theorem exists_of_isListed {names : List Text} {size : Nat} (h : IsListed disk spec place tree names size) :
    ∃ node, tree.find? names = some node := by
  obtain ⟨node, _, hnode, -⟩ := h.file
  exact ⟨node, hnode⟩

theorem exists_of_isSkipped {names : List Text} (h : IsSkipped disk spec place tree names) :
    ∃ node, tree.find? names = some node := by
  rcases h.ignored with ⟨⟨_, node, _, hnode, -⟩, -⟩ | ⟨⟨entries, hnode⟩, -⟩
  · exact ⟨node, hnode⟩
  · exact ⟨_, hnode⟩

/-! ## Listings put together -/

namespace Covers

variable {a b : Listing} {A B : Set (List Text)}

theorem encard_eq_zero (h : ∀ names ∈ A, ¬ IsSkipped disk spec place tree names) :
    {names ∈ A | IsSkipped disk spec place tree names}.encard = 0 := by
  rw [Set.encard_eq_zero]
  exact Set.eq_empty_of_forall_notMem fun names hnames => h names hnames.1 hnames.2

/-- Where nothing is listed or skipped, nothing is found. -/
theorem of_nothing {l : Listing} (hfiles : l.files = []) (hignored : l.ignored = 0)
    (h : ∀ names ∈ A, (∀ size, ¬ IsListed disk spec place tree names size)
      ∧ ¬ IsSkipped disk spec place tree names) : Covers disk spec place tree A l := by
  constructor
  · intro f
    rw [hfiles]
    constructor
    · exact fun hf => nomatch hf
    · rintro ⟨names, hnames, hlisted, -⟩
      exact absurd hlisted ((h names hnames).1 f.size)
  · rw [encard_eq_zero fun names hnames => (h names hnames).2, hignored]
    rfl

/-- A place that is skipped counts once. -/
theorem of_isSkipped {names : List Text} (hskipped : IsSkipped disk spec place tree names)
    (hlisted : ∀ size, ¬ IsListed disk spec place tree names size) :
    Covers disk spec place tree {names} { ignored := 1 } := by
  constructor
  · intro f
    constructor
    · intro hf
      cases hf
    · rintro ⟨_, rfl, h, -⟩
      exact absurd h (hlisted f.size)
  · have all : {other ∈ ({names} : Set (List Text)) | IsSkipped disk spec place tree other} = {names} := by
      refine Set.sep_eq_self_iff_mem_true.2 ?_
      rintro _ rfl
      exact hskipped
    rw [all, Set.encard_singleton]
    rfl

theorem append (ha : Covers disk spec place tree A a) (hb : Covers disk spec place tree B b)
    (hapart : ∀ names ∈ A, names ∉ B) : Covers disk spec place tree (A ∪ B) (a.append b) := by
  constructor
  · intro f
    rw [Listing.append, List.mem_append, ha.mem_files, hb.mem_files]
    constructor
    · rintro (⟨names, hnames, h⟩ | ⟨names, hnames, h⟩)
      · exact ⟨names, .inl hnames, h⟩
      · exact ⟨names, .inr hnames, h⟩
    · rintro ⟨names, hnames | hnames, h⟩
      · exact .inl ⟨names, hnames, h⟩
      · exact .inr ⟨names, hnames, h⟩
  · have split : {names ∈ A ∪ B | IsSkipped disk spec place tree names}
        = {names ∈ A | IsSkipped disk spec place tree names}
          ∪ {names ∈ B | IsSkipped disk spec place tree names} := by
      ext names
      exact or_and_right
    have apart : Disjoint {names ∈ A | IsSkipped disk spec place tree names}
        {names ∈ B | IsSkipped disk spec place tree names} :=
      Set.disjoint_left.2 fun names hA hB => hapart names hA.1 hB.1
    rw [split, Set.encard_union_eq apart, ha.encard_skipped, hb.encard_skipped]
    exact (Nat.cast_add a.ignored b.ignored).symm

/-- Places at which nothing stands may be left out or added. -/
theorem congr (h : Covers disk spec place tree A a)
    (hplaces : ∀ names node, tree.find? names = some node → (names ∈ A ↔ names ∈ B)) :
    Covers disk spec place tree B a := by
  constructor
  · intro f
    rw [h.mem_files]
    refine exists_congr fun names => and_congr_left fun hlisted => ?_
    obtain ⟨node, hnode⟩ := exists_of_isListed hlisted.1
    exact hplaces names node hnode
  · rw [← h.encard_skipped]
    congr 1
    ext names
    refine and_congr_left fun hskipped => ?_
    obtain ⟨node, hnode⟩ := exists_of_isSkipped hskipped
    exact (hplaces names node hnode).symm

theorem concat {found : List Found} {part : Found → Listing} {places : Found → Set (List Text)}
    (h : ∀ e ∈ found, Covers disk spec place tree (places e) (part e))
    (hapart : found.Pairwise fun d e => ∀ names ∈ places d, names ∉ places e) :
    Covers disk spec place tree {names | ∃ e ∈ found, names ∈ places e} (Listing.concat (found.map part)) := by
  induction found with
  | nil => exact of_nothing rfl rfl fun names ⟨e, he, _⟩ => nomatch he
  | cons e rest ih =>
    rw [List.forall_mem_cons] at h
    obtain ⟨hfirst, hrest⟩ := List.pairwise_cons.1 hapart
    have union : {names | ∃ d ∈ e :: rest, names ∈ places d}
        = places e ∪ {names | ∃ d ∈ rest, names ∈ places d} := by
      ext names
      exact List.exists_mem_cons_iff (fun d => names ∈ places d) e rest
    rw [union]
    refine h.1.append (ih h.2 hrest) ?_
    rintro names hnames ⟨d, hd, hother⟩
    exact hfirst d hd names hnames hother

end Covers

/-! ## Directories -/

/-- An entry of the directory at `front` covers its own place and those below, in order. -/
structure Found.IsExact (disk : Disk) (spec : Ignore.Spec) (place : List Text) (tree : Node) (front : List Text)
    (e : Found) : Prop where
  itself : Covers disk spec place tree {front ++ [e.name]} e.itself
  single : e.itself.files.length ≤ 1
  inside : Covers disk spec place tree (below (front ++ [e.name])) e.inside
  ordered : AreInOrder e.inside.files

theorem Found.IsExact.isPlaced {front : List Text} {e : Found} (h : e.IsExact disk spec place tree front) :
    e.IsPlaced (place ++ front) where
  itself := by
    intro f hf
    obtain ⟨_, rfl, -, hpath⟩ := (h.itself.mem_files f).1 hf
    rw [hpath, List.append_assoc]
    rfl
  single := h.single
  inside := by
    intro f hf
    obtain ⟨_, ⟨more, hmore, rfl⟩, -, hpath⟩ := (h.inside.mem_files f).1 hf
    refine ⟨more, hmore, ?_⟩
    rw [hpath]
    show place ++ (front ++ [e.name] ++ more) = _
    simp
  ordered := h.ordered

/-- What stands below a directory stands below one of its entries, or is one. -/
theorem mem_below_iff {front : List Text} {entries : List (Text × Node)}
    (hfind : tree.find? front = some (.directory entries)) {found : List Found}
    (hnames : found.map Found.name = entries.map Prod.fst) {names : List Text} {node : Node}
    (hnode : tree.find? names = some node) :
    ((∃ e ∈ found, names = front ++ [e.name]) ∨ ∃ e ∈ found, names ∈ below (front ++ [e.name]))
      ↔ names ∈ below front := by
  constructor
  · rintro (⟨e, -, rfl⟩ | ⟨e, -, more, -, rfl⟩)
    · exact ⟨[e.name], List.cons_ne_nil _ _, rfl⟩
    · exact ⟨e.name :: more, List.cons_ne_nil _ _, by simp⟩
  · rintro ⟨more, hmore, rfl⟩
    obtain ⟨name, rest, rfl⟩ := List.exists_cons_of_ne_nil hmore
    rw [Node.find?_append, hfind, Option.bind_some] at hnode
    obtain ⟨next, hnext, -⟩ := Option.bind_eq_some_iff.1 hnode
    have mem : name ∈ found.map Found.name := by
      rw [hnames]
      exact List.mem_map_of_mem (Association.mem_of_find?_eq_some hnext)
    obtain ⟨e, he, rfl⟩ := List.mem_map.1 mem
    cases rest with
    | nil => exact .inl ⟨e, he, rfl⟩
    | cons next rest => exact .inr ⟨e, he, next :: rest, List.cons_ne_nil _ _, by simp⟩

theorem isEntered_of_mem_below {front names : List Text} (hnames : names ∈ below front)
    (hentered : IsEntered spec names.dropLast) : IsEntered spec front := by
  obtain ⟨more, hmore, rfl⟩ := hnames
  intro other hne hother
  refine hentered other hne (hother.trans ?_)
  rw [List.dropLast_append_of_ne_nil hmore]
  exact List.prefix_append _ _

/-- The listing of a directory covers the places below it if its entries do so for theirs, and is in order. -/
theorem covers_assemble {front : List Text} {entries : List (Text × Node)}
    (hfind : tree.find? front = some (.directory entries)) {found : List Found}
    (hnames : found.map Found.name = entries.map Prod.fst) (hdistinct : (entries.map Prod.fst).Nodup)
    (h : ∀ e ∈ found, e.IsExact disk spec place tree front) :
    Covers disk spec place tree (below front) (assemble found) ∧ AreInOrder (assemble found).files := by
  rw [← hnames] at hdistinct
  refine ⟨?_, pairwise_precedes_assemble (fun e he => (h e he).isPlaced) hdistinct⟩
  have sorted : ∀ e ∈ sortByName found, e.IsExact disk spec place tree front :=
    fun e he => h e ((sortByName_perm found).mem_iff.1 he)
  have apart : (sortByName found).Pairwise fun d e => d.name ≠ e.name := by
    refine (sortByName_ascending hdistinct).imp ?_
    intro d e hlt heq
    rw [heq] at hlt
    exact List.lt_irrefl e.name hlt
  have itself := Covers.concat (fun e he => (sorted e he).itself) <| apart.imp fun hne => by
    rintro _ rfl heq
    exact hne (List.singleton_inj.1 (List.append_cancel_left heq))
  have inside := Covers.concat (fun e he => (sorted e he).inside) <| apart.imp fun hne => by
    rintro _ ⟨more, -, rfl⟩ ⟨others, -, heq⟩
    rw [List.append_assoc, List.append_assoc] at heq
    exact hne (List.cons.inj (List.append_cancel_left heq)).1
  -- no place of an entry lies below another one
  refine (itself.append inside ?_).congr fun names node hnode => ?_
  · rintro _ ⟨d, -, rfl⟩ ⟨e, -, more, hmore, heq⟩
    rw [List.append_assoc] at heq
    exact hmore (List.cons.inj (List.append_cancel_left heq)).2.symm
  · have same : (sortByName found).Perm found := sortByName_perm found
    rw [← mem_below_iff hfind hnames hnode]
    simp only [Set.mem_union, Set.mem_ofPred_eq, Set.mem_singleton_iff, same.mem_iff]

/-! ## Entries -/

/-- What the path of an entry of the directory at `front` starts with, as rules see it. -/
def lead (front : List Text) : Text := if front = [] then [] else relative front ++ "/"

theorem lead_append (front : List Text) (name : Text) : lead front ++ name = relative (front ++ [name]) := by
  unfold lead
  split
  · next h =>
    rw [h]
    rfl
  · next h =>
    exact (Text.join_append h (List.cons_ne_nil name [])).symm

theorem lead_concat (front : List Text) (name : Text) :
    lead (front ++ [name]) = relative (front ++ [name]) ++ "/" := if_neg (by simp)

/-- A file, or a link that leads to one, covers its own place. -/
theorem covers_file {front : List Text} {name : Text} {size : Nat} (hentered : IsEntered spec front)
    (hfile : ∀ other, IsFile disk place tree (front ++ [name]) other ↔ size = other)
    (hdirectory : ∀ entries, tree.find? (front ++ [name]) ≠ some (.directory entries)) :
    Covers disk spec place tree {front ++ [name]}
      (file spec (.ofNames (place ++ (front ++ [name]))) (relative (front ++ [name])) size) := by
  have above : IsEntered spec (front ++ [name]).dropLast := by rwa [List.dropLast_concat]
  unfold file
  split
  · next hignored =>
    apply Covers.of_isSkipped
    · exact ⟨by simp, above, .inl ⟨⟨size, (hfile size).2 rfl⟩, hignored⟩⟩
    · intro other hlisted
      rw [hlisted.kept] at hignored
      cases hignored
  · next hkept =>
    rw [Bool.not_eq_true] at hkept
    constructor
    · intro f
      rw [List.mem_singleton]
      constructor
      · rintro rfl
        exact ⟨_, rfl, ⟨(hfile size).2 rfl, above, hkept⟩, rfl⟩
      · rintro ⟨_, rfl, hlisted, hpath⟩
        obtain ⟨path, found⟩ := f
        obtain rfl := (hfile found).1 hlisted.file
        obtain rfl := hpath
        rfl
    · apply Covers.encard_eq_zero
      rintro _ rfl hskipped
      rcases hskipped.ignored with ⟨-, hignored⟩ | ⟨⟨entries, hfind⟩, -⟩
      · rw [hkept] at hignored
        cases hignored
      · exact hdirectory entries hfind

/-- Below what is no directory nothing stands. -/
theorem find?_append_eq_none {front more : List Text} {node : Node} (hfind : tree.find? front = some node)
    (hnode : node.isDirectory = false) (hmore : more ≠ []) : tree.find? (front ++ more) = none := by
  obtain ⟨name, rest, rfl⟩ := List.exists_cons_of_ne_nil hmore
  rw [Node.find?_append, hfind, Option.bind_some]
  cases node with
  | directory entries => cases hnode
  | _ => rfl

/-- An entry that is no directory covers the places below it as well, since nothing stands there. -/
theorem isExact_of_itself {front : List Text} {name : Text} {node : Node}
    (hfind : tree.find? (front ++ [name]) = some node) (hnode : node.isDirectory = false) {l : Listing}
    (hitself : Covers disk spec place tree {front ++ [name]} l) (hsingle : l.files.length ≤ 1) :
    Found.IsExact disk spec place tree front { name, itself := l } where
  itself := hitself
  single := hsingle
  inside := by
    refine .of_nothing rfl rfl ?_
    rintro _ ⟨more, hmore, rfl⟩
    have none := find?_append_eq_none hfind hnode hmore
    refine ⟨fun size hlisted => ?_, fun hskipped => ?_⟩
    · obtain ⟨found, hfound⟩ := exists_of_isListed hlisted
      rw [none] at hfound
      cases hfound
    · obtain ⟨found, hfound⟩ := exists_of_isSkipped hskipped
      rw [none] at hfound
      cases hfound
  ordered := .nil

/-- What is no file and no directory is neither listed nor skipped. -/
theorem covers_of_not_isFile {names : List Text} {l : Listing} (hfiles : l.files = []) (hignored : l.ignored = 0)
    (hfile : ∀ size, ¬ IsFile disk place tree names size)
    (hdirectory : ∀ entries, tree.find? names = some (.directory entries) →
      spec.ignores (relative names ++ "/") = false) : Covers disk spec place tree {names} l := by
  refine .of_nothing hfiles hignored ?_
  rintro _ rfl
  refine ⟨fun size hlisted => hfile size hlisted.file, fun hskipped => ?_⟩
  rcases hskipped.ignored with ⟨⟨size, h⟩, -⟩ | ⟨⟨entries, h⟩, hignored⟩
  · exact hfile size h
  · rw [hdirectory entries h] at hignored
    cases hignored

theorem covers_link (hdisk : disk.isLink = false) {front : List Text} {name target : Text}
    (hfind : tree.find? (front ++ [name]) = some (.link target)) (hentered : IsEntered spec front) :
    Covers disk spec place tree {front ++ [name]}
      (link disk spec (.ofNames (place ++ (front ++ [name]))) (relative (front ++ [name]))) := by
  have leads : ∀ size, IsFile disk place tree (front ++ [name]) size
      ↔ ∃ content, Disk.look disk (.ofNames (place ++ (front ++ [name]))) = .ok content
        ∧ content.isRegular = true ∧ content.size = size := isFile_iff hfind
  have other : ∀ entries, tree.find? (front ++ [name]) ≠ some (.directory entries) := by
    intro entries h
    rw [hfind] at h
    cases h
  unfold link
  cases hlook : Disk.look disk (.ofNames (place ++ (front ++ [name]))) with
  | error fault =>
    have nowhere : ∀ size, ¬ IsFile disk place tree (front ++ [name]) size := by
      intro size h
      obtain ⟨content, hcontent, -⟩ := (leads size).1 h
      rw [hlook] at hcontent
      cases hcontent
    cases fault with
    | _ => exact covers_of_not_isFile rfl rfl nowhere fun entries h => absurd h (other entries)
  | ok node =>
    have only : ∀ size, IsFile disk place tree (front ++ [name]) size
        ↔ node.isRegular = true ∧ node.size = size := by
      intro size
      rw [leads, hlook]
      constructor
      · rintro ⟨content, hcontent, h⟩
        obtain rfl := Except.ok.inj hcontent
        exact h
      · exact fun h => ⟨node, rfl, h⟩
    cases node with
    | directory entries =>
      exact covers_of_not_isFile rfl rfl (fun size h => nomatch ((only size).1 h).1)
        fun entries h => absurd h (other entries)
    | special =>
      exact covers_of_not_isFile rfl rfl (fun size h => nomatch ((only size).1 h).1)
        fun entries h => absurd h (other entries)
    | link inner => cases Disk.isLink_of_look hdisk hlook
    | file content => exact covers_file hentered (fun size => (only size).trans (and_iff_right rfl)) other
    | database table => exact covers_file hentered (fun size => (only size).trans (and_iff_right rfl)) other

/-- An ignored directory is skipped, and nothing below it is reached. -/
theorem isExact_of_ignored {front : List Text} {name : Text} {entries : List (Text × Node)}
    (hfind : tree.find? (front ++ [name]) = some (.directory entries)) (hentered : IsEntered spec front)
    (hfile : ∀ size, ¬ IsFile disk place tree (front ++ [name]) size)
    (hignored : spec.ignores (relative (front ++ [name]) ++ "/") = true) :
    Found.IsExact disk spec place tree front { name, itself := { ignored := 1 } } where
  itself := .of_isSkipped ⟨by simp, by rwa [List.dropLast_concat], .inr ⟨⟨entries, hfind⟩, hignored⟩⟩
    fun size hlisted => hfile size hlisted.file
  single := Nat.zero_le 1
  inside := by
    refine .of_nothing rfl rfl fun names hnames => ?_
    have outside : ¬ IsEntered spec names.dropLast := by
      intro h
      have kept := (isEntered_concat.1 (isEntered_of_mem_below hnames h)).2
      rw [hignored] at kept
      cases kept
    exact ⟨fun size hlisted => outside hlisted.entered, fun hskipped => outside hskipped.entered⟩
  ordered := .nil

mutual

theorem entry_isExact (hdisk : disk.isLink = false) (front : List Text) (name : Text) (node : Node)
    (hnode : node.isWellFormed = true) (hfind : tree.find? (front ++ [name]) = some node)
    (hentered : IsEntered spec front) :
    (entry disk spec (.ofNames (place ++ (front ++ [name]))) (relative (front ++ [name])) name node).IsExact
      disk spec place tree front := by
  match node with
  | .file content =>
    have size : ∀ other, IsFile disk place tree (front ++ [name]) other ↔ (Node.file content).size = other := by
      intro other
      simp [isFile_iff hfind, Node.isLink, Node.isRegular]
    exact isExact_of_itself hfind rfl (covers_file hentered size (by simp [hfind])) (length_file_le _ _ _ _)
  | .database table =>
    have size : ∀ other, IsFile disk place tree (front ++ [name]) other ↔ (Node.database table).size = other := by
      intro other
      simp [isFile_iff hfind, Node.isLink, Node.isRegular]
    exact isExact_of_itself hfind rfl (covers_file hentered size (by simp [hfind])) (length_file_le _ _ _ _)
  | .link target =>
    exact isExact_of_itself hfind rfl (covers_link hdisk hfind hentered) (length_link_le _ _ _ _)
  | .special =>
    have nowhere : ∀ size, ¬ IsFile disk place tree (front ++ [name]) size := by
      intro size
      simp [isFile_iff hfind, Node.isLink, Node.isRegular]
    exact isExact_of_itself hfind rfl (covers_of_not_isFile rfl rfl nowhere (by simp [hfind])) (Nat.zero_le 1)
  | .directory entries =>
    have nowhere : ∀ size, ¬ IsFile disk place tree (front ++ [name]) size := by
      intro size
      simp [isFile_iff hfind, Node.isLink, Node.isRegular]
    rw [entry]
    split
    · next hignored => exact isExact_of_ignored hfind hentered nowhere hignored
    · next hkept =>
      rw [Bool.not_eq_true] at hkept
      have distinct := nodup_of_areWellFormed hnode
      have found : ∀ e ∈ entries, tree.find? (front ++ [name] ++ [e.1]) = some e.2 := by
        intro e he
        rw [Node.find?_append, hfind, Option.bind_some, Node.find?, Association.find?_eq_some_of_mem distinct he]
        rfl
      have inner := allEntries_isExact hdisk (front ++ [name]) entries hnode found
        (isEntered_concat.2 ⟨hentered, hkept⟩)
      rw [lead_concat] at inner
      obtain ⟨covers, ordered⟩ := covers_assemble hfind
        (map_name_allEntries disk spec (.ofNames (place ++ (front ++ [name]))) (relative (front ++ [name]) ++ "/")
          entries) distinct inner
      exact ⟨covers_of_not_isFile rfl rfl nowhere fun _ _ => hkept, Nat.zero_le 1, covers, ordered⟩

theorem allEntries_isExact (hdisk : disk.isLink = false) (front : List Text) (entries : List (Text × Node))
    (hentries : Node.areWellFormed entries = true) (hfind : ∀ e ∈ entries, tree.find? (front ++ [e.1]) = some e.2)
    (hentered : IsEntered spec front) :
    ∀ e ∈ allEntries disk spec (.ofNames (place ++ front)) (lead front) entries,
      e.IsExact disk spec place tree front := by
  match entries with
  | [] => exact fun e he => nomatch he
  | (name, node) :: rest =>
    obtain ⟨-, -, hnode, hrest⟩ := Node.areWellFormed_cons.1 hentries
    rw [List.forall_mem_cons] at hfind
    have child : (Path.ofNames (place ++ front)).child name = .ofNames (place ++ (front ++ [name])) := by
      rw [← List.append_assoc]
      rfl
    rw [allEntries, List.forall_mem_cons, child, lead_append]
    exact ⟨entry_isExact hdisk front name node hnode hfind.1 hentered,
      allEntries_isExact hdisk front rest hrest hfind.2 hentered⟩

end

/-! ## Whole scans -/

theorem directory_covers (hdisk : disk.isLink = false) {entries : List (Text × Node)}
    (hentries : Node.areWellFormed entries = true) :
    Covers disk spec place (.directory entries) (below [])
        (directory disk spec (.ofNames place) (.directory entries))
      ∧ AreInOrder (directory disk spec (.ofNames place) (.directory entries)).files := by
  have distinct := nodup_of_areWellFormed hentries
  have found : ∀ e ∈ entries, (Node.directory entries).find? ([] ++ [e.1]) = some e.2 := by
    intro e he
    rw [List.nil_append, Node.find?, Association.find?_eq_some_of_mem distinct he]
    rfl
  have inner : ∀ e ∈ allEntries disk spec (.ofNames (place ++ [])) (lead []) entries,
      e.IsExact disk spec place (.directory entries) [] :=
    allEntries_isExact hdisk [] entries hentries found isEntered_nil
  rw [List.append_nil] at inner
  exact covers_assemble rfl (map_name_allEntries disk spec (.ofNames place) [] entries) distinct inner

/-- The lines of the rules that hold in a directory. -/
def lines (disk : Disk) (exclusions : Exclusions) (root : Path) : List Text :=
  (match if exclusions.useGitignore then gitignore? disk root else none with
    | some bytes => Ignore.Spec.fileLines bytes
    | none => []) ++ exclusions.patterns

theorem rules_eq (disk : Disk) (exclusions : Exclusions) (root : Path) :
    rules disk exclusions root = Ignore.Spec.ofLines (lines disk exclusions root) := rfl

theorem lines_of_gitignore {disk : Disk} {exclusions : Exclusions} (huse : exclusions.useGitignore = true)
    {root : Path} {bytes : Bytes} (h : gitignore? disk root = some bytes) :
    lines disk exclusions root = Ignore.Spec.fileLines bytes ++ exclusions.patterns := by
  rw [lines, huse, if_pos rfl, h]

/-- The scan of a directory whose rules can be read lists what is reached and not ignored, in order. -/
theorem exists_scan_of_rules {disk : Disk} (hdisk : disk.isWellFormed = true) {root once real : Path}
    (hroot : GoesOver disk root once real) (exclusions : Exclusions) :
    ∃ entries, disk.find? real.parts = some (.directory entries)
      ∧ ∀ spec, rules disk exclusions real = .ok spec → ∃ listing, scan disk exclusions root = .ok listing
        ∧ (∀ f, f ∈ listing.files ↔ ∃ names, IsListed disk spec real.parts (.directory entries) names f.size
          ∧ f.path = .ofNames (real.parts ++ names))
        ∧ AreInOrder listing.files
        ∧ {names | IsSkipped disk spec real.parts (.directory entries) names}.encard = listing.ignored := by
  obtain ⟨hanchor, entries, hfind, hlook⟩ := hroot.exists_directory hdisk
  refine ⟨entries, hfind, fun spec hspec => ?_⟩
  have hlink : disk.isLink = false := by
    cases disk with
    | link target => cases hparts : real.parts <;> rw [hparts] at hfind <;> cases hfind
    | _ => rfl
  have hplace : real = .ofNames real.parts := by
    rw [Path.ofNames, ← hanchor]
  obtain ⟨covers, ordered⟩ := @directory_covers disk spec real.parts hlink entries
    (Node.isWellFormed_find? hdisk hfind)
  rw [← hplace] at covers ordered
  refine ⟨directory disk spec real (.directory entries), ?_, fun f => ?_, ordered, ?_⟩
  · rw [hroot.scan_eq, listing, hspec, hlook]
    rfl
  · rw [covers.mem_files]
    constructor
    · rintro ⟨names, -, h⟩
      exact ⟨names, h⟩
    · rintro ⟨names, hlisted, hpath⟩
      exact ⟨names, ⟨names, hlisted.file.ne_nil, rfl⟩, hlisted, hpath⟩
  · rw [← covers.encard_skipped]
    congr 1
    ext names
    constructor
    · exact fun h => ⟨⟨names, h.entry, rfl⟩, h⟩
    · exact And.right

/-- The scan of a path whose real path leads to a directory is completed if the rules can be read, whatever stands in
the directory and in whatever order. It lists exactly the files that are reached and not ignored, each once and in
order, and counts the entries that are reached and ignored. -/
theorem scan_exact {disk : Disk} (hdisk : disk.isWellFormed = true) {root once : Path}
    (honce : Disk.resolve disk root = .ok once) (hroot : Disk.isDirectory disk once = true)
    (exclusions : Exclusions) :
    ∃ real entries, GoesOver disk root once real ∧ disk.find? real.parts = some (.directory entries)
      ∧ ∀ spec, rules disk exclusions real = .ok spec → ∃ listing, scan disk exclusions root = .ok listing
        ∧ (∀ f, f ∈ listing.files ↔ ∃ names, IsListed disk spec real.parts (.directory entries) names f.size
          ∧ f.path = .ofNames (real.parts ++ names))
        ∧ (listing.files.map FoundFile.path).Nodup ∧ AreInOrder listing.files
        ∧ {names | IsSkipped disk spec real.parts (.directory entries) names}.encard = listing.ignored := by
  obtain ⟨real, hgoes⟩ := exists_goesOver hdisk honce hroot
  obtain ⟨entries, hfind, h⟩ := exists_scan_of_rules hdisk hgoes exclusions
  refine ⟨real, entries, hgoes, hfind, fun spec hspec => ?_⟩
  obtain ⟨listing, hscan, hfiles, hordered, hskipped⟩ := h spec hspec
  exact ⟨listing, hscan, hfiles, hordered.nodup, hordered, hskipped⟩

/-! ### An example -/

/-- A directory that is listed out of order: files and an ignored one, a directory with an ignored one in it, a
link to a file, a link to a directory, and something else. -/
@[irreducible] def mixedTree : Disk :=
  .directory [("t", .directory [("b.py", .file [35]), ("s", .special), ("l.py", .link "b.py"), ("k", .link "a"),
    ("a", .directory [("z.py", .file []), ("dist", .directory [("y.py", .file [])])]), ("c.log", .file []),
    (".gitignore", .file (("*.log\n" : Text).map fun c => UInt8.ofNat c.val))])]

/-- Four of its files are listed, in order, and a file and a directory are skipped, though the path of the root passes
a name under which there is nothing. -/
theorem scan_exact_on_mixedTree : ∃ real entries spec listing,
    GoesOver mixedTree (.ofText "/nope/../t") (.ofText "/t") real ∧ rules mixedTree .standard real = .ok spec
      ∧ scan mixedTree .standard (.ofText "/nope/../t") = .ok listing
      ∧ listing.files.map FoundFile.path = [.ofText "/t/.gitignore", .ofText "/t/b.py", .ofText "/t/l.py",
        .ofText "/t/a/z.py"]
      ∧ (∃ names, IsListed mixedTree spec real.parts (.directory entries) names 1
        ∧ .ofText "/t/l.py" = Path.ofNames (real.parts ++ names))
      ∧ AreInOrder listing.files
      ∧ {names | IsSkipped mixedTree spec real.parts (.directory entries) names}.encard = 2 := by
  have wellFormed : mixedTree.isWellFormed = true := by decide +kernel
  have resolved : (Disk.resolve mixedTree (.ofText "/nope/../t")).toOption.any (fun p => p = .ofText "/t") = true := by
    decide +kernel
  have root : Disk.isDirectory mixedTree (.ofText "/t") = true := by decide +kernel
  obtain ⟨real, entries, hgoes, -, h⟩ := scan_exact wellFormed (eq_ok_of_any resolved) root .standard
  have accepted : ((Disk.resolve mixedTree (.ofText "/t")).toOption.any
      fun p => (rules mixedTree .standard p).toOption.isSome) = true := by decide +kernel
  rw [hgoes.again] at accepted
  change (rules mixedTree .standard real).toOption.isSome = true at accepted
  cases hspec : rules mixedTree .standard real with
  | error fault =>
    rw [hspec] at accepted
    cases accepted
  | ok rules =>
    obtain ⟨listing, hscan, hfiles, -, hordered, hskipped⟩ := h rules hspec
    have paths : (scan mixedTree .standard (.ofText "/nope/../t")).toOption.map (fun l => (l.files, l.ignored))
        = some ([⟨.ofText "/t/.gitignore", 6⟩, ⟨.ofText "/t/b.py", 1⟩, ⟨.ofText "/t/l.py", 1⟩,
          ⟨.ofText "/t/a/z.py", 0⟩], 2) := by decide +kernel
    rw [hscan] at paths
    obtain ⟨hlist, hignored⟩ := Prod.mk.inj (Option.some.inj paths)
    refine ⟨real, entries, rules, listing, hgoes, hspec, hscan, ?_, ?_, hordered, ?_⟩
    · rw [hlist]
      rfl
    · exact (hfiles ⟨.ofText "/t/l.py", 1⟩).1 (by rw [hlist]; simp)
    · rw [hskipped, hignored]
      rfl

end Scan

end SourceAtlas
