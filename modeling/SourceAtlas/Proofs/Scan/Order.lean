import Mathlib.Data.List.Sort
import SourceAtlas.Proofs.Scan

/-!
The order of a scan. The entries of a directory are sorted by their names, whatever order they are listed in.
The files of a directory come before those of its directories, and both by their names; so all files of a scan
stand in one strict order of their paths.

Main statement: `pairwise_precedes_assemble`.
-/

namespace SourceAtlas.Scan

/-! ## Sorted names -/

/-- Inserted by name, a new name comes to its place. -/
theorem insertByName_ascending {f : Found} {found : List Found} (hfound : found.Pairwise fun a b => a.name < b.name)
    (hne : ∀ g ∈ found, f.name ≠ g.name) : (insertByName f found).Pairwise fun a b => a.name < b.name := by
  induction found with
  | nil => exact List.pairwise_singleton _ f
  | cons g rest ih =>
    obtain ⟨hg, hrest⟩ := List.pairwise_cons.1 hfound
    rw [List.forall_mem_cons] at hne
    unfold insertByName
    split
    · next hlt =>
      refine List.pairwise_cons.2 ⟨?_, hfound⟩
      intro other hother
      rcases List.mem_cons.1 hother with rfl | hother
      · exact hlt
      · exact List.lt_trans hlt (hg other hother)
    · next hnot =>
      have hgt : g.name < f.name := by
        rcases Std.Trichotomous.rel_or_eq_or_rel_swap (r := fun a b : Text => a < b)
          (a := f.name) (b := g.name) with h | h | h
        · exact absurd h hnot
        · exact absurd h hne.1
        · exact h
      refine List.pairwise_cons.2 ⟨?_, ih hrest hne.2⟩
      intro other hother
      rcases List.mem_cons.1 ((insertByName_perm f rest).mem_iff.1 hother) with rfl | hother
      · exact hgt
      · exact hg other hother

/-- Entries with distinct names are sorted in strictly ascending order. -/
theorem sortByName_ascending {found : List Found} (hnames : (found.map Found.name).Nodup) :
    (sortByName found).Pairwise fun a b => a.name < b.name := by
  induction found with
  | nil => exact .nil
  | cons f rest ih =>
    rw [List.map_cons, List.nodup_cons] at hnames
    refine insertByName_ascending (ih hnames.2) fun g hg heq => hnames.1 ?_
    exact heq ▸ List.mem_map_of_mem ((sortByName_perm rest).mem_iff.1 hg)

/-! ## The order of paths -/

/-- Which of two files a scan lists first, by the names of their paths: of two files in one directory the one
with the smaller name, a file of a directory before one further down, and of two further down the one in the
directory with the smaller name. -/
def Precedes : List Text → List Text → Prop
  | [name], [other] => name < other
  | [_], _ :: _ :: _ => True
  | name :: next :: more, other :: after :: others =>
    name < other ∨ name = other ∧ Precedes (next :: more) (after :: others)
  | _, _ => False

/-- A common beginning does not matter for the order. -/
theorem precedes_append {names others : List Text} (hnames : names ≠ []) (hothers : others ≠ [])
    (front : List Text) : Precedes (front ++ names) (front ++ others) ↔ Precedes names others := by
  induction front with
  | nil => rfl
  | cons name front ih =>
    obtain ⟨next, more, hmore⟩ := List.exists_cons_of_ne_nil (List.append_ne_nil_of_right_ne_nil front hnames)
    obtain ⟨after, rest, hrest⟩ := List.exists_cons_of_ne_nil (List.append_ne_nil_of_right_ne_nil front hothers)
    rw [hmore, hrest] at ih
    rw [List.cons_append, List.cons_append, hmore, hrest, Precedes, ih]
    simp only [List.lt_irrefl, true_and, false_or]

theorem not_precedes_self (names : List Text) : ¬ Precedes names names := by
  induction names with
  | nil => exact id
  | cons name rest ih =>
    cases rest with
    | nil => exact List.lt_irrefl name
    | cons next more =>
      rintro (hlt | ⟨-, h⟩)
      · exact List.lt_irrefl name hlt
      · exact ih h

/-- Of two files at most one comes before the other. -/
theorem Precedes.asymm {names others : List Text} (h : Precedes names others) : ¬ Precedes others names := by
  induction names generalizing others with
  | nil => exact h.elim
  | cons name rest ih =>
    match rest, others with
    | [], [] => exact h.elim
    | [], [other] => exact List.lt_asymm h
    | [], other :: after :: others => exact id
    | next :: more, [] => exact h.elim
    | next :: more, [other] => exact h.elim
    | next :: more, other :: after :: others =>
      rcases h with hlt | ⟨rfl, h⟩
      · rintro (hgt | ⟨rfl, -⟩)
        · exact List.lt_asymm hlt hgt
        · exact List.lt_irrefl _ hlt
      · rintro (hlt | ⟨-, hother⟩)
        · exact List.lt_irrefl _ hlt
        · exact ih h hother

/-- Files in the order of a scan. -/
def AreInOrder (files : List FoundFile) : Prop := files.Pairwise fun f g => Precedes f.path.parts g.path.parts

/-- Files in order are distinct. -/
theorem AreInOrder.nodup {files : List FoundFile} (h : AreInOrder files) : (files.map FoundFile.path).Nodup := by
  refine List.pairwise_map.2 (h.imp ?_)
  intro f g hfg heq
  rw [heq] at hfg
  exact not_precedes_self _ hfg

/-- Of two listings in order, one whose paths are all in the other is found in it in the same order. -/
theorem AreInOrder.sublist {files others : List FoundFile} (hfiles : AreInOrder files) (hothers : AreInOrder others)
    (h : ∀ f ∈ files, ∃ g ∈ others, g.path = f.path) :
    (files.map FoundFile.path).Sublist (others.map FoundFile.path) := by
  have antisymm : Std.Antisymm fun p q : Path => Precedes p.parts q.parts := ⟨fun _ _ hpq hqp => (hpq.asymm hqp).elim⟩
  have subset : files.map FoundFile.path ⊆ others.map FoundFile.path := by
    intro path hpath
    obtain ⟨f, hf, rfl⟩ := List.mem_map.1 hpath
    obtain ⟨g, hg, heq⟩ := h f hf
    exact heq ▸ List.mem_map_of_mem hg
  have paths : ∀ {found}, AreInOrder found →
      (found.map FoundFile.path).Pairwise fun p q => Precedes p.parts q.parts := fun h => List.pairwise_map.2 h
  exact List.sublist_of_subperm_of_pairwise (List.subperm_of_subset hfiles.nodup subset) (paths hfiles)
    (paths hothers)

/-! ## Directories -/

/-- Where the files of an entry of the directory at `place` stand: at most one under its name, and the others
below it, in order. -/
structure Found.IsPlaced (place : List Text) (e : Found) : Prop where
  itself : ∀ f ∈ e.itself.files, f.path.parts = place ++ [e.name]
  single : e.itself.files.length ≤ 1
  inside : ∀ f ∈ e.inside.files, ∃ more, more ≠ [] ∧ f.path.parts = place ++ e.name :: more
  ordered : AreInOrder e.inside.files

/-- Lists that are in order each, and one before the other, are in order together. -/
theorem pairwise_flatMap_of_ascending {found : List Found} {part : Found → List FoundFile}
    (hnames : found.Pairwise fun a b => a.name < b.name) (hpart : ∀ e ∈ found, AreInOrder (part e))
    (hapart : ∀ a ∈ found, ∀ b ∈ found, a.name < b.name → ∀ f ∈ part a, ∀ g ∈ part b,
      Precedes f.path.parts g.path.parts) : AreInOrder (found.flatMap part) := by
  refine List.pairwise_flatMap.2 ⟨hpart, hnames.imp_of_mem fun ha hb hlt => ?_⟩
  intro f hf g hg
  exact hapart _ ha _ hb hlt f hf g hg

/-- The files of a directory are in order: those in it by name, then those in its directories by their names. -/
theorem pairwise_precedes_assemble {place : List Text} {found : List Found}
    (h : ∀ e ∈ found, e.IsPlaced place) (hnames : (found.map Found.name).Nodup) :
    AreInOrder (assemble found).files := by
  have ascending := sortByName_ascending hnames
  have placed : ∀ e ∈ sortByName found, e.IsPlaced place := fun e he => h e ((sortByName_perm found).mem_iff.1 he)
  rw [files_assemble, AreInOrder, List.pairwise_append]
  refine ⟨?_, ?_, ?_⟩
  · apply pairwise_flatMap_of_ascending ascending
    · intro e he
      match hfiles : e.itself.files, (placed e he).single with
      | [], _ => exact .nil
      | [f], _ => exact List.pairwise_singleton _ f
      | f :: g :: rest, hlength => simp at hlength
    · intro a ha b hb hlt f hf g hg
      rw [(placed a ha).itself f hf, (placed b hb).itself g hg,
        precedes_append (List.cons_ne_nil _ _) (List.cons_ne_nil _ _)]
      exact hlt
  · apply pairwise_flatMap_of_ascending ascending
    · exact fun e he => (placed e he).ordered
    · intro a ha b hb hlt f hf g hg
      obtain ⟨more, hmore, hfplace⟩ := (placed a ha).inside f hf
      obtain ⟨others, hothers, hgplace⟩ := (placed b hb).inside g hg
      obtain ⟨next, more, rfl⟩ := List.exists_cons_of_ne_nil hmore
      obtain ⟨after, others, rfl⟩ := List.exists_cons_of_ne_nil hothers
      rw [hfplace, hgplace, precedes_append (List.cons_ne_nil _ _) (List.cons_ne_nil _ _)]
      exact .inl hlt
  -- the files of the directory come before those further down
  · intro f hf g hg
    obtain ⟨a, ha, hf⟩ := List.mem_flatMap.1 hf
    obtain ⟨b, hb, hg⟩ := List.mem_flatMap.1 hg
    obtain ⟨others, hothers, hgplace⟩ := (placed b hb).inside g hg
    obtain ⟨after, others, rfl⟩ := List.exists_cons_of_ne_nil hothers
    rw [(placed a ha).itself f hf, hgplace, precedes_append (List.cons_ne_nil _ _) (List.cons_ne_nil _ _)]
    trivial

end SourceAtlas.Scan
