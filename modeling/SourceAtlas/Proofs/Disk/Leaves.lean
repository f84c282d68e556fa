import SourceAtlas.Proofs.Disk.Real
import SourceAtlas.Proofs.Disk.Tables
import SourceAtlas.Proofs.Disk.Ways

/-!
Leaves of a disk. What is put at a place where neither a directory nor a link stands, and is neither of them itself,
is found at this place and changes nothing that stands elsewhere, and no way over the disk.

Main statements: `face_find?_put`, `sameWays_put`.
-/

namespace SourceAtlas

namespace Node

/-! ## What stands where -/

/-- What stands at a place, the entries of a directory aside. -/
def face : Option Node → Option Node
  | some (.directory _) => some blank
  | found => found

theorem signpost_face (found : Option Node) : signpost (face found) = signpost found := by
  rcases found with _ | node
  · rfl
  · cases node <;> rfl

theorem face_eq_file_iff {found : Option Node} {content : Bytes} :
    face found = some (.file content) ↔ found = some (.file content) := by
  rcases found with _ | node
  · simp [face]
  · cases node <;> simp [face, blank]

theorem face_some_of_not_directory {node : Node} (h : node.isDirectory = false) : face (some node) = some node := by
  cases node with
  | directory entries => cases h
  | _ => rfl

/-- Nothing stands below what is no directory. -/
theorem find?_cons_of_not_directory {node : Node} (h : node.isDirectory = false) (name : Text) (rest : List Text) :
    node.find? (name :: rest) = none := by
  cases node with
  | directory entries => cases h
  | _ => rfl

variable {node new : Node} {front : List Text} {name : Text} {entries : List (Text × Node)}

/-- Where a leaf is put in a directory, in the place of nothing or of a leaf, the leaf stands; everywhere else there is
what has been there before, the entries of directories aside. -/
theorem face_find?_put (h : node.find? front = some (.directory entries)) (hnew : new.isDirectory = false)
    (hold : ∀ inner, node.find? (front ++ [name]) ≠ some (.directory inner)) (names : List Text) :
    face ((node.put (front ++ [name]) new).find? names)
      = if names = front ++ [name] then some new else face (node.find? names) := by
  -- by induction on the way to the directory, each name of which is looked for as well
  induction front generalizing node names with
  | nil =>
    obtain rfl := Option.some.inj h
    rw [List.nil_append] at hold ⊢
    rw [put, put]
    cases names with
    | nil => rfl
    | cons first rest =>
      by_cases hfirst : first = name
      · subst hfirst
        rw [find?, find?, Association.find?_set_self]
        cases rest with
        | nil =>
          rw [if_pos rfl]
          exact face_some_of_not_directory hnew
        | cons next rest =>
          -- below a leaf there is nothing, and so it was before
          rw [if_neg (by simp), Option.bind_some, find?_cons_of_not_directory hnew]
          cases hthere : Association.find? first entries with
          | none => rfl
          | some old =>
            have leaf : old.isDirectory = false := by
              cases old with
              | directory inner =>
                refine absurd ?_ (hold inner)
                rw [find?, hthere]
                rfl
              | _ => rfl
            rw [Option.bind_some, find?_cons_of_not_directory leaf]
      · rw [find?, find?, Association.find?_set_of_ne hfirst, if_neg]
        exact fun heq => hfirst (List.cons.inj heq).1
  | cons above front ih =>
    cases node with
    | directory all =>
      obtain ⟨next, hnext, hdirectory⟩ := Option.bind_eq_some_iff.1 h
      rw [List.cons_append] at hold ⊢
      rw [put, hnext, Option.getD_some]
      cases names with
      | nil => rfl
      | cons first rest =>
        by_cases hfirst : first = above
        · subst hfirst
          have inner : ∀ inner, next.find? (front ++ [name]) ≠ some (.directory inner) := by
            intro inner hinner
            refine hold inner ?_
            rw [find?, hnext]
            exact hinner
          rw [find?, find?, Association.find?_set_self, hnext, Option.bind_some, Option.bind_some,
            ih hdirectory inner rest]
          simp
        · rw [find?, find?, Association.find?_set_of_ne hfirst, if_neg]
          exact fun heq => hfirst (List.cons.inj heq).1
    | _ => cases h

/-! ## Links -/

/-- Among entries the links are as many as before if the new entry has as many as the old one. -/
theorem linkCountOf_set (h : ((Association.find? name entries).map linkCount).getD 0 = new.linkCount) :
    linkCountOf (Association.set name new entries) = linkCountOf entries := by
  induction entries with
  | nil => exact (Nat.add_zero _).trans h.symm
  | cons e rest ih =>
    obtain ⟨other, old⟩ := e
    rw [Association.find?] at h
    rw [Association.set]
    split at h
    · next heq =>
      rw [if_pos heq, linkCountOf, linkCountOf, ← h]
      rfl
    · next hne => rw [if_neg hne, linkCountOf, linkCountOf, ih h]

/-- There are as many links as before if the new node holds as many as the old one. -/
theorem linkCount_put (h : node.find? front = some (.directory entries))
    (hnew : ((node.find? (front ++ [name])).map linkCount).getD 0 = new.linkCount) :
    (node.put (front ++ [name]) new).linkCount = node.linkCount := by
  induction front generalizing node with
  | nil =>
    obtain rfl := Option.some.inj h
    rw [List.nil_append, find?] at hnew
    rw [List.nil_append, put, put, linkCount, linkCount]
    apply linkCountOf_set
    rw [← hnew]
    cases Association.find? name entries with
    | none => rfl
    | some old => rfl
  | cons first rest ih =>
    cases node with
    | directory all =>
      obtain ⟨next, hnext, hdirectory⟩ := Option.bind_eq_some_iff.1 h
      rw [List.cons_append, find?, hnext] at hnew
      rw [List.cons_append, put, hnext, Option.getD_some, linkCount, linkCount]
      apply linkCountOf_set
      rw [hnext, ih hdirectory hnew]
      rfl
    | _ => cases h

/-! ## Well-formed disks -/

/-- Setting a name adds no other name. -/
theorem fst_eq_or_mem_of_mem_set {e : Text × Node} (h : e ∈ Association.set name new entries) :
    e.1 = name ∨ ∃ other ∈ entries, other.1 = e.1 := by
  induction entries with
  | nil =>
    rw [Association.set, List.mem_singleton] at h
    exact .inl (h ▸ rfl)
  | cons first rest ih =>
    rw [Association.set] at h
    split at h
    · next heq =>
      rcases List.mem_cons.1 h with rfl | h
      · exact .inl heq
      · exact .inr ⟨e, List.mem_cons_of_mem _ h, rfl⟩
    · rcases List.mem_cons.1 h with rfl | h
      · exact .inr ⟨_, List.mem_cons_self, rfl⟩
      · rcases ih h with hname | ⟨other, hother, heq⟩
        · exact .inl hname
        · exact .inr ⟨other, List.mem_cons_of_mem _ hother, heq⟩

/-- Entries stay well formed with something well formed under a name. -/
theorem areWellFormed_set (h : areWellFormed entries = true) (hname : Path.isName name = true)
    (hnew : new.isWellFormed = true) : areWellFormed (Association.set name new entries) = true := by
  induction entries with
  | nil =>
    rw [Association.set, areWellFormed_cons]
    exact ⟨hname, fun _ hmem => absurd hmem List.not_mem_nil, hnew, rfl⟩
  | cons e rest ih =>
    obtain ⟨hfirst, hdistinct, hnode, hrest⟩ := areWellFormed_cons.1 h
    rw [Association.set]
    split
    · exact areWellFormed_cons.2 ⟨hfirst, hdistinct, hnew, hrest⟩
    · next hne =>
      refine areWellFormed_cons.2 ⟨hfirst, fun other hother heq => ?_, hnode, ih hrest⟩
      rcases fst_eq_or_mem_of_mem_set hother with hname | ⟨old, hold, hsame⟩
      · exact hne (heq.symm.trans hname)
      · exact hdistinct old hold (hsame.trans heq)

/-- A disk stays well formed when something well formed is put under a name such as there are. -/
theorem isWellFormed_put (hnode : node.isWellFormed = true) (h : node.find? front = some (.directory entries))
    (hname : Path.isName name = true) (hnew : new.isWellFormed = true) :
    (node.put (front ++ [name]) new).isWellFormed = true := by
  induction front generalizing node with
  | nil =>
    obtain rfl := Option.some.inj h
    rw [List.nil_append, put, put]
    exact areWellFormed_set hnode hname hnew
  | cons first rest ih =>
    cases node with
    | directory all =>
      obtain ⟨next, hnext, hdirectory⟩ := Option.bind_eq_some_iff.1 h
      rw [List.cons_append, put, hnext, Option.getD_some]
      exact areWellFormed_set hnode (isName_of_find? hnode hnext)
        (ih (isWellFormed_of_find? hnode hnext) hdirectory)
    | _ => cases h

end Node

/-! ## Ways -/

/-- No way is changed by a leaf in the place of nothing or of a leaf. -/
theorem Disk.sameWays_put {disk new : Node} {front : List Text} {name : Text} {entries : List (Text × Node)}
    (h : disk.find? front = some (.directory entries)) (hnew : Node.signpost (some new) = .other)
    (hcount : ((disk.find? (front ++ [name])).map Node.linkCount).getD 0 = new.linkCount)
    (hold : Node.signpost (disk.find? (front ++ [name])) = .other) :
    SameWays (disk.put (front ++ [name]) new) disk where
  signpost_eq names := by
    have leaf : new.isDirectory = false := by
      cases new with
      | directory inner => cases hnew
      | _ => rfl
    have before : ∀ inner, disk.find? (front ++ [name]) ≠ some (.directory inner) := by
      intro inner hinner
      rw [hinner] at hold
      cases hold
    rw [← Node.signpost_face, Node.face_find?_put h leaf before]
    split
    · next heq => rw [hnew, heq, hold]
    · exact Node.signpost_face _
  linkCount_eq := Node.linkCount_put h hcount

end SourceAtlas
