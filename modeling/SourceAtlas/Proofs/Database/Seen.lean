import SourceAtlas.Proofs.Database
import SourceAtlas.Proofs.Disk.Leaves

/-!
Disks as they are seen while a database on them is open. There are files in place of the databases, and the files of
the open one beside it, which change no way over the disk. What the disk looks like does not depend on the tables, and
by how the databases read no more than the contents of their files changes, each at its own place.

Main statements: `sameWays_seen`, `isWellFormed_seen`, `seen_setTable`, `readsByPlace_seen`.
-/

namespace SourceAtlas.Database

variable {disk : Disk} {connection : Connection} {storage : Storage} {place : List Text}

/-! ## Files in place of databases -/

section

variable (storage)

/-- An entry of a name is there as before, laid out. -/
theorem find?_entriesLaidOut (place : List Text) (name : Text) (entries : List (Text × Node)) :
    Association.find? name (entriesLaidOut storage place entries)
      = (Association.find? name entries).map (laidOut storage (place ++ [name])) := by
  induction entries with
  | nil => rfl
  | cons e rest ih =>
    rw [entriesLaidOut, Association.find?, Association.find?]
    split
    · next heq =>
      rw [← heq]
      rfl
    · exact ih

/-- Files stand in place of databases, and everything else stands where it stood. -/
theorem find?_laidOut (place : List Text) (node : Node) (names : List Text) :
    (laidOut storage place node).find? names = (node.find? names).map (laidOut storage (place ++ names)) := by
  induction names generalizing place node with
  | nil =>
    rw [List.append_nil]
    rfl
  | cons name rest ih =>
    cases node with
    | directory entries =>
      rw [laidOut, Node.find?, Node.find?, find?_entriesLaidOut, List.append_cons place name rest]
      cases Association.find? name entries with
      | none => rfl
      | some next => exact ih (place ++ [name]) next
    | _ => rfl

mutual

/-- No link is added or removed by laying files out. -/
theorem linkCount_laidOut (place : List Text) (node : Node) :
    (laidOut storage place node).linkCount = node.linkCount := by
  match node with
  | .directory entries => exact linkCountOf_entriesLaidOut place entries
  | .file _ => rfl
  | .database _ => rfl
  | .link _ => rfl
  | .special => rfl

theorem linkCountOf_entriesLaidOut (place : List Text) (entries : List (Text × Node)) :
    Node.linkCountOf (entriesLaidOut storage place entries) = Node.linkCountOf entries := by
  match entries with
  | [] => rfl
  | (name, node) :: rest =>
    rw [entriesLaidOut, Node.linkCountOf, Node.linkCountOf, linkCount_laidOut (place ++ [name]) node,
      linkCountOf_entriesLaidOut place rest]

end

/-- The names of entries stay. -/
theorem all_entriesLaidOut (place : List Text) (name : Text) (entries : List (Text × Node)) :
    (entriesLaidOut storage place entries).all (fun e => e.1 != name) = entries.all fun e => e.1 != name := by
  induction entries with
  | nil => rfl
  | cons e rest ih => rw [entriesLaidOut, List.all_cons, List.all_cons, ih]

mutual

/-- A disk is laid out as well formed as it is. -/
theorem isWellFormed_laidOut (place : List Text) (node : Node) :
    (laidOut storage place node).isWellFormed = node.isWellFormed := by
  match node with
  | .directory entries => exact areWellFormed_entriesLaidOut place entries
  | .file _ => rfl
  | .database _ => rfl
  | .link _ => rfl
  | .special => rfl

theorem areWellFormed_entriesLaidOut (place : List Text) (entries : List (Text × Node)) :
    Node.areWellFormed (entriesLaidOut storage place entries) = Node.areWellFormed entries := by
  match entries with
  | [] => rfl
  | (name, node) :: rest =>
    rw [entriesLaidOut, Node.areWellFormed, Node.areWellFormed, isWellFormed_laidOut (place ++ [name]) node,
      all_entriesLaidOut, areWellFormed_entriesLaidOut place rest]

end

mutual

/-- Whatever tables databases hold, the same files stand in their place. -/
theorem laidOut_emptied (place : List Text) (node : Node) :
    laidOut storage place node.emptied = laidOut storage place node := by
  match node with
  | .directory entries => rw [Node.emptied, laidOut, laidOut, entriesLaidOut_emptied place entries]
  | .file _ => rfl
  | .database _ => rfl
  | .link _ => rfl
  | .special => rfl

theorem entriesLaidOut_emptied (place : List Text) (entries : List (Text × Node)) :
    entriesLaidOut storage place (Node.emptiedEntries entries) = entriesLaidOut storage place entries := by
  match entries with
  | [] => rfl
  | (name, node) :: rest =>
    rw [Node.emptiedEntries, entriesLaidOut, entriesLaidOut, laidOut_emptied (place ++ [name]) node,
      entriesLaidOut_emptied place rest]

end

mutual

/-- But for contents, the files are the same however the databases read. -/
theorem bare_laidOut (other : Storage) (place : List Text) (node : Node) :
    (laidOut storage place node).bare = (laidOut other place node).bare := by
  match node with
  | .directory entries => exact congrArg Node.directory (bare_entriesLaidOut other place entries)
  | .file _ => rfl
  | .database _ => rfl
  | .link _ => rfl
  | .special => rfl

/-- So are the entries of a directory. -/
theorem bare_entriesLaidOut (other : Storage) (place : List Text) (entries : List (Text × Node)) :
    Node.mapContentsOf (fun _ => []) (fun _ => .empty) (entriesLaidOut storage place entries)
      = Node.mapContentsOf (fun _ => []) (fun _ => .empty) (entriesLaidOut other place entries) := by
  match entries with
  | [] => rfl
  | (name, node) :: rest =>
    rw [entriesLaidOut, entriesLaidOut, Node.mapContentsOf, Node.mapContentsOf, bare_entriesLaidOut other place rest]
    have first : (laidOut storage (place ++ [name]) node).bare = (laidOut other (place ++ [name]) node).bare :=
      bare_laidOut other (place ++ [name]) node
    unfold Node.bare at first
    rw [first]

end

/-- Laying files out in place of databases changes no way. -/
theorem sameWays_laidOut (disk : Disk) : Disk.SameWays (laidOut storage [] disk) disk where
  signpost_eq names := by
    rw [find?_laidOut]
    rcases disk.find? names with _ | node
    · rfl
    · cases node <;> rfl
  linkCount_eq := linkCount_laidOut storage [] disk

end

/-! ## Files beside a database -/

section

variable {front : List Text} {name : Text}

/-- A file is laid in a directory in the place of nothing or of another file, or the disk stays as it is. -/
theorem lay_cases (disk : Disk) (storage : Storage) (front : List Text) (name : Text) :
    lay disk storage (front ++ [name]) = disk
      ∨ ∃ entries, disk.find? front = some (.directory entries)
        ∧ (disk.find? (front ++ [name]) = none ∨ ∃ content, disk.find? (front ++ [name]) = some (.file content))
        ∧ lay disk storage (front ++ [name]) = disk.put (front ++ [name]) (.file (storage (front ++ [name]))) := by
  unfold lay
  rw [List.dropLast_concat]
  split
  · next entries hdirectory hfree => exact .inr ⟨entries, hdirectory, .inl hfree, rfl⟩
  · next entries content hdirectory hfile => exact .inr ⟨entries, hdirectory, .inr ⟨content, hfile⟩, rfl⟩
  · exact .inl rfl

/-- A file laid in a directory changes no way. -/
theorem sameWays_lay (disk : Disk) (storage : Storage) (front : List Text) (name : Text) :
    Disk.SameWays (lay disk storage (front ++ [name])) disk := by
  rcases lay_cases disk storage front name with hsame | ⟨entries, hdirectory, hfree, hlaid⟩
  · rw [hsame]
    exact ⟨fun _ => rfl, rfl⟩
  · rw [hlaid]
    rcases hfree with hfree | ⟨content, hfree⟩
    all_goals
      refine Disk.sameWays_put hdirectory rfl ?_ ?_
      all_goals
        rw [hfree]
        rfl

/-- It stays well formed with a file laid under a name such as there are. -/
theorem isWellFormed_lay (hdisk : disk.isWellFormed = true) (hname : Path.isName name = true) (storage : Storage)
    (front : List Text) : (lay disk storage (front ++ [name])).isWellFormed = true := by
  rcases lay_cases disk storage front name with hsame | ⟨entries, hdirectory, -, hlaid⟩
  · rw [hsame]
    exact hdisk
  · rw [hlaid]
    exact Node.isWellFormed_put hdisk hdirectory hname rfl

/-- A name goes on with a suffix of some length, and is still such as there are. -/
theorem isName_append {suffix : Text} (hname : name = [] ∨ Path.isName name = true)
    (hsuffix : Path.isName suffix = true) (hlong : 2 < suffix.length) : Path.isName (name ++ suffix) = true := by
  rcases hname with rfl | hname
  · exact hsuffix
  · simp only [Path.isName, Bool.and_eq_true, Bool.not_eq_true', bne_iff_ne, ne_eq] at hname hsuffix ⊢
    obtain ⟨⟨⟨⟨-, hseparator⟩, -⟩, -⟩, hsound⟩ := hname
    obtain ⟨⟨⟨⟨-, hseparator'⟩, -⟩, -⟩, hsound'⟩ := hsuffix
    have long : ∀ {t : Text}, t.length ≤ 2 → ¬ name ++ suffix = t := by
      rintro t ht rfl
      rw [List.length_append] at ht
      omega
    refine ⟨⟨⟨⟨?_, ?_⟩, long (by decide)⟩, long (by decide)⟩, ?_⟩
    · rw [List.isEmpty_eq_false_iff]
      exact long (by decide)
    · rw [List.contains_eq_mem, decide_eq_false_iff_not] at hseparator hseparator' ⊢
      simp [hseparator, hseparator']
    · rw [Path.isSoundName, Bool.not_eq_true'] at hsound hsound' ⊢
      rw [List.any_append, hsound, hsound']
      rfl

end

/-! ## Disks as they are seen -/

/-- The ways over a disk are the same while a database on it is open. -/
theorem sameWays_seen (disk : Disk) (connection : Connection) (storage : Storage) :
    Disk.SameWays (seen disk connection storage) disk :=
  (sameWays_lay _ storage _ _).trans ((sameWays_lay _ storage _ _).trans (sameWays_laidOut storage disk))

/-- A disk is seen as well formed as it is while a database on it is open. -/
theorem isWellFormed_seen (hdisk : disk.isWellFormed = true) {node : Node} (h : disk.find? connection = some node)
    (storage : Storage) : (seen disk connection storage).isWellFormed = true := by
  have last : connection.getLast?.getD [] = [] ∨ Path.isName (connection.getLast?.getD []) = true := by
    cases hlast : connection.getLast? with
    | none => exact .inl rfl
    | some name => exact .inr (Node.isName_of_mem_of_find? hdisk h name (List.mem_of_getLast? hlast))
  refine isWellFormed_lay (isWellFormed_lay ?_ ?_ storage _) ?_ storage _
  · rw [isWellFormed_laidOut]
    exact hdisk
  · exact isName_append last (by decide) (by decide)
  · exact isName_append last (by decide) (by decide)

/-- What a disk looks like does not depend on the table of the open database. -/
theorem seen_setTable {old : Store} (h : disk.find? connection = some (.database old)) (table : Store)
    (storage : Storage) : seen (setTable disk connection table) connection storage = seen disk connection storage := by
  rw [seen, ← laidOut_emptied, emptied_setTable h, laidOut_emptied, seen]

/-- What a disk looks like depends on how its databases read by the contents of files alone, each of them by what
stands at its place. -/
structure ReadsByPlace (disk : Storage → Disk) : Prop where
  bare_eq : ∀ a b, (disk a).bare = (disk b).bare
  file_eq : ∀ {a b : Storage} {place content}, a place = b place → (disk a).find? place = some (.file content) →
    (disk b).find? place = some (.file content)

/-- Laid out in place of databases, files read by their places. -/
theorem readsByPlace_laidOut (disk : Disk) : ReadsByPlace fun storage => laidOut storage [] disk where
  bare_eq a b := bare_laidOut a b [] disk
  file_eq {a b place content} hsame h := by
    rw [find?_laidOut, List.nil_append] at h ⊢
    obtain ⟨node, hnode, hfile⟩ := Option.map_eq_some_iff.1 h
    rw [hnode, Option.map_some, ← hfile]
    cases node with
    | directory entries => cases hfile
    | database table => rw [laidOut, laidOut, hsame]
    | _ => rfl

/-- A file is laid in a directory in which there is nothing in its place. -/
theorem lay_of_free {front : List Text} {name : Text} {entries : List (Text × Node)}
    (hdirectory : disk.find? front = some (.directory entries))
    (hfree : disk.find? (front ++ [name]) = none ∨ ∃ content, disk.find? (front ++ [name]) = some (.file content)) :
    lay disk storage (front ++ [name]) = disk.put (front ++ [name]) (.file (storage (front ++ [name]))) := by
  unfold lay
  rw [List.dropLast_concat, hdirectory]
  rcases hfree with hfree | ⟨content, hfree⟩
  · rw [hfree]
  · rw [hfree]

/-- Files are laid on disks alike or are not. -/
theorem lay_of_bare_eq {other : Disk} (halike : disk.bare = other.bare) {front : List Text} {name : Text}
    {entries : List (Text × Node)} (hdirectory : disk.find? front = some (.directory entries))
    (hfree : disk.find? (front ++ [name]) = none ∨ ∃ content, disk.find? (front ++ [name]) = some (.file content)) :
    ∃ inner, other.find? front = some (.directory inner)
      ∧ (other.find? (front ++ [name]) = none ∨ ∃ content, other.find? (front ++ [name]) = some (.file content)) := by
  obtain ⟨directory, hother, hbare⟩ := Node.exists_find?_of_bare_eq halike.symm hdirectory
  obtain ⟨inner, rfl⟩ : ∃ inner, directory = .directory inner := by
    cases directory with
    | directory inner => exact ⟨inner, rfl⟩
    | _ => cases hbare
  refine ⟨inner, hother, ?_⟩
  have same := disk.find?_bare (front ++ [name])
  rw [halike, other.find?_bare] at same
  cases hthere : other.find? (front ++ [name]) with
  | none => exact .inl rfl
  | some node =>
    rw [hthere] at same
    rcases hfree with hfree | ⟨content, hfree⟩
    · rw [hfree] at same
      cases same
    · rw [hfree] at same
      cases node with
      | file content => exact .inr ⟨content, rfl⟩
      | _ => cases Option.some.inj same

/-- A file laid on such disks reads as what stands at its own place. -/
theorem ReadsByPlace.lay {disk : Storage → Disk} (h : ReadsByPlace disk) (front : List Text) (name : Text) :
    ReadsByPlace fun storage => Database.lay (disk storage) storage (front ++ [name]) := by
  by_cases hlaid : ∃ storage entries, (disk storage).find? front = some (.directory entries)
      ∧ ((disk storage).find? (front ++ [name]) = none
        ∨ ∃ content, (disk storage).find? (front ++ [name]) = some (.file content))
  · obtain ⟨first, entries, hdirectory, hfree⟩ := hlaid
    have places : ∀ storage, ∃ inner, (disk storage).find? front = some (.directory inner)
        ∧ ((disk storage).find? (front ++ [name]) = none
          ∨ ∃ content, (disk storage).find? (front ++ [name]) = some (.file content)) :=
      fun storage => lay_of_bare_eq (h.bare_eq first storage) hdirectory hfree
    have laid : ∀ storage, Database.lay (disk storage) storage (front ++ [name])
        = (disk storage).put (front ++ [name]) (.file (storage (front ++ [name]))) := by
      intro storage
      obtain ⟨inner, hinner, hstorage⟩ := places storage
      exact lay_of_free hinner hstorage
    -- of files, the one that is laid is new, and all others were there
    have files : ∀ storage names content, (Database.lay (disk storage) storage (front ++ [name])).find? names
          = some (.file content)
        ↔ if names = front ++ [name] then storage names = content
          else (disk storage).find? names = some (.file content) := by
      intro storage names content
      obtain ⟨inner, hinner, hstorage⟩ := places storage
      have before : ∀ inner, (disk storage).find? (front ++ [name]) ≠ some (.directory inner) := by
        rintro inner hdirectory
        rcases hstorage with hfree | ⟨_, hfree⟩
        all_goals
          rw [hfree] at hdirectory
          cases hdirectory
      rw [laid, ← Node.face_eq_file_iff, Node.face_find?_put hinner rfl before]
      split
      · next heq => simp [heq]
      · exact Node.face_eq_file_iff
    refine ⟨fun a b => ?_, fun {a b place content} hsame => ?_⟩
    · rw [laid, laid, Node.bare_put, Node.bare_put, h.bare_eq a b]
      rfl
    · rw [files, files, hsame]
      split
      · exact id
      · exact h.file_eq hsame
  · have same : ∀ storage, Database.lay (disk storage) storage (front ++ [name]) = disk storage := by
      intro storage
      refine (lay_cases (disk storage) storage front name).resolve_right ?_
      rintro ⟨entries, hdirectory, hfree, -⟩
      exact hlaid ⟨storage, entries, hdirectory, hfree⟩
    simp only [same]
    exact h

/-- A disk on which a database is open depends on how databases read by the contents of files alone, each of them by
what stands at its place. -/
theorem readsByPlace_seen (disk : Disk) (connection : Connection) : ReadsByPlace (seen disk connection) :=
  ((readsByPlace_laidOut disk).lay _ _).lay _ _

end SourceAtlas.Database
