import Mathlib.Data.List.Infix
import SourceAtlas.Proofs.Disk.Real
import SourceAtlas.Proofs.Store.Keys

/-!
Paths as they are written and in their normal form, in which two dots are undone. The text of a path gives back the
path as it is written. What is seen from a directory is the normal form, and so is what a path leads to on a disk
without links. But the stored form of a path lies in the directories that the path is written to go through.

Main statements: `relativeTo_eq_iff`, `Disk.look_normal`, `inDirectory_storageKey_toText_iff`.
-/

namespace SourceAtlas

namespace Path

/-! ## Texts -/

/-- Each name of a path is one that there is on a disk, or two dots. -/
def IsNamed (p : Path) : Prop := ∀ name ∈ p.parts, name = above ∨ isName name = true

/-- A name can be told from the text of a path that it is in. -/
structure IsLegible (name : Text) : Prop where
  ne_nil : name ≠ []
  ne_here : name ≠ here
  not_mem : Store.separator ∉ name

/-- A name such as there are is legible. -/
theorem isLegible_of_isName {name : Text} (h : isName name = true) : IsLegible name := by
  simp only [isName, Bool.and_eq_true] at h
  exact ⟨by simpa using h.1.1.1.1, by simpa using h.1.1.2, by simpa using h.1.1.1.2⟩

theorem IsNamed.isLegible {p : Path} (h : p.IsNamed) : ∀ name ∈ p.parts, IsLegible name := by
  intro name hname
  rcases h name hname with rfl | hname
  · exact ⟨by decide, by decide, by decide⟩
  · exact isLegible_of_isName hname

/-- The names of a text are legible. -/
theorem isLegible_ofText (t : Text) : ∀ name ∈ (ofText t).parts, IsLegible name := by
  intro name hname
  obtain ⟨-, hkept⟩ := List.mem_filter.1 hname
  simp only [isSilent, Bool.not_eq_true', Bool.or_eq_false_iff, List.isEmpty_eq_false_iff,
    decide_eq_false_iff_not] at hkept
  exact ⟨hkept.1, hkept.2, isSpelt_ofText t name hname⟩

/-- A legible name says something. -/
theorem IsLegible.isSilent {name : Text} (h : IsLegible name) : Path.isSilent name = false := by
  simp [Path.isSilent, h.ne_nil, h.ne_here]

/-- Legible names are the names of their text. -/
theorem filter_eq_self_of_isLegible {names : List Text} (h : ∀ name ∈ names, IsLegible name) :
    names.filter (fun piece => !isSilent piece) = names := by
  rw [List.filter_eq_self]
  intro name hname
  rw [(h name hname).isSilent]
  rfl

/-- Legible names that are joined are cut apart again. -/
theorem partsOf_join {names : List Text} (h : ∀ name ∈ names, IsLegible name) :
    partsOf (Text.join [Store.separator] names) = names := by
  by_cases hne : names = []
  · rw [hne]
    rfl
  · have split : Text.split '/' (Text.join [Store.separator] names) = names :=
      Text.split_join hne fun name hname => (h name hname).not_mem
    rw [partsOf, split, filter_eq_self_of_isLegible h]

/-- What names are joined to does not begin with a separator. -/
theorem head?_join_ne {names : List Text} (h : ∀ name ∈ names, IsLegible name) :
    (Text.join [Store.separator] names).head? ≠ some Store.separator := by
  cases names with
  | nil => exact nofun
  | cons name rest =>
    obtain ⟨hne, -, hnot⟩ := h name List.mem_cons_self
    obtain ⟨c, cs, rfl⟩ := List.exists_cons_of_ne_nil hne
    have hc : c ≠ Store.separator := fun heq => hnot (heq ▸ List.mem_cons_self)
    cases rest with
    | nil => simpa [Text.join] using hc
    | cons next more => simpa [Text.join_cons_cons] using hc

/-- Where the path of a text starts is said by the separators that the text begins with. -/
theorem anchorOf_lead_append (anchor : Anchor) {t : Text} (h : t.head? ≠ some Store.separator) :
    anchorOf (lead anchor ++ t) = anchor := by
  cases t with
  | nil => cases anchor <;> decide
  | cons c cs =>
    have hc : ¬ Store.separator = c := fun heq => h (congrArg some heq.symm)
    change (if (Text.after? [Store.separator, Store.separator, Store.separator] (lead anchor ++ c :: cs)).isSome then
        Anchor.root
      else if (Text.after? [Store.separator, Store.separator] (lead anchor ++ c :: cs)).isSome then .doubleRoot
      else if (Text.after? [Store.separator] (lead anchor ++ c :: cs)).isSome then .root else .relative) = anchor
    -- as many separators are found as the anchor is written with
    cases anchor with
    | relative => simp [lead, Text.after?, hc]
    | root => simp [show lead .root = [Store.separator] from rfl, Text.after?, hc]
    | doubleRoot => simp [show lead .doubleRoot = [Store.separator, Store.separator] from rfl, Text.after?, hc]

/-- The text of a path gives back the path. -/
theorem IsNamed.ofText_toText {p : Path} (h : p.IsNamed) : ofText p.toText = p := by
  obtain ⟨anchor, names⟩ := p
  have legible := h.isLegible
  -- the empty relative path is written as a dot, which is no name
  by_cases hempty : anchor = .relative ∧ names = []
  · obtain ⟨rfl, rfl⟩ := hempty
    rfl
  · have text : (⟨anchor, names⟩ : Path).toText = lead anchor ++ Text.join [Store.separator] names :=
      if_neg (by simpa using hempty)
    have parts : partsOf (lead anchor ++ Text.join [Store.separator] names) = names := by
      cases anchor <;> exact partsOf_join legible
    rw [text, ofText, anchorOf_lead_append anchor (head?_join_ne legible), parts]

/-- Paths of such names are told apart by their texts. -/
theorem toText_inj {p q : Path} (hp : p.IsNamed) (hq : q.IsNamed) : p.toText = q.toText ↔ p = q := by
  refine ⟨fun h => ?_, congrArg toText⟩
  rw [← hp.ofText_toText, h, hq.ofText_toText]

/-! ## Normal forms -/

/-- The names of an absolute path from the root on, with two dots undone. -/
def normal (p : Path) : List Text := collapse true p.parts

/-- A path leads from the root straight down. -/
structure IsDirect (p : Path) : Prop where
  anchor_eq : p.anchor = .root
  ne_above : ∀ name ∈ p.parts, name ≠ above

/-- A path that leads straight down is its own normal form. -/
theorem IsDirect.normal_eq {p : Path} (h : p.IsDirect) : p.normal = p.parts := collapse_of_forall h.ne_above

/-- Paths that lead straight down are said by their normal forms. -/
theorem IsDirect.normal_eq_iff {p q : Path} (hp : p.IsDirect) (hq : q.IsDirect) : p.normal = q.normal ↔ p = q := by
  refine ⟨fun h => ?_, congrArg normal⟩
  rw [hp.normal_eq, hq.normal_eq] at h
  obtain ⟨anchor, parts⟩ := p
  rw [Path.mk.injEq]
  exact ⟨hp.anchor_eq.trans hq.anchor_eq.symm, h⟩

/-- A normal form is made of names such as there are. -/
theorem IsNamed.isName_of_mem_normal {p : Path} (h : p.IsNamed) {name : Text} (hname : name ∈ p.normal) :
    isName name = true := by
  obtain ⟨hmem, hne⟩ := mem_collapse hname
  exact (h name hmem).resolve_left hne

/-- What is dropped from two lists is the same. -/
theorem exists_common (as bs : List Text) :
    ∃ common, as = common ++ (dropCommon as bs).1 ∧ bs = common ++ (dropCommon as bs).2 := by
  induction as generalizing bs with
  | nil => exact ⟨[], rfl, by cases bs <;> rfl⟩
  | cons a rest ih =>
    cases bs with
    | nil => exact ⟨[], rfl, rfl⟩
    | cons b others =>
      by_cases h : a = b
      · subst h
        obtain ⟨common, hrest, hothers⟩ := ih others
        rw [dropCommon, if_pos rfl]
        exact ⟨a :: common, congrArg (a :: ·) hrest, congrArg (a :: ·) hothers⟩
      · rw [dropCommon, if_neg h]
        exact ⟨[], rfl, rfl⟩

/-- As seen from a directory, a path is as many directories up as there are, and then down by names. -/
theorem exists_relativeTo_eq (directory p : Path) :
    ∃ common up down, directory.normal = common ++ up ∧ p.normal = common ++ down
      ∧ relativeTo directory p = ⟨.relative, up.map (fun _ => above) ++ down⟩ := by
  obtain ⟨common, hup, hdown⟩ := exists_common directory.normal p.normal
  exact ⟨common, _, _, hup, hdown, rfl⟩

/-- Two paths are seen alike from a directory exactly if they have one normal form. -/
theorem relativeTo_eq_iff {directory p q : Path} :
    relativeTo directory p = relativeTo directory q ↔ p.normal = q.normal := by
  refine ⟨fun h => ?_, fun h => ?_⟩
  · obtain ⟨common, up, down, hdirectory, hp, hseen⟩ := exists_relativeTo_eq directory p
    obtain ⟨common', up', down', hdirectory', hq, hseen'⟩ := exists_relativeTo_eq directory q
    rw [hseen, hseen'] at h
    have parts := (Path.mk.inj h).2
    -- the names that lead down are not two dots, so that these say how far up it goes
    have none {r : Path} {front back : List Text} (hr : r.normal = front ++ back) : back.count above = 0 :=
      List.count_eq_zero.2 fun hmem => (mem_collapse (hr ▸ List.mem_append_right front hmem)).2 rfl
    have length : up.length = up'.length := by
      have count := congrArg (List.count above) parts
      rwa [List.count_append, List.count_append, none hp, none hq, List.map_const', List.map_const',
        List.count_replicate_self, List.count_replicate_self, Nat.add_zero, Nat.add_zero] at count
    obtain ⟨-, hdown⟩ := List.append_inj parts (by rw [List.length_map, List.length_map, length])
    obtain ⟨hcommon, -⟩ := List.append_inj' (hdirectory.symm.trans hdirectory') length
    rw [hp, hq, hcommon, hdown]
  · obtain ⟨_, names⟩ := p
    obtain ⟨_, others⟩ := q
    change collapse true names = collapse true others at h
    rw [relativeTo, relativeTo, h]

/-- A path that is seen from a directory is made of such names and two dots. -/
theorem IsNamed.relativeTo {p : Path} (h : p.IsNamed) (directory : Path) : (relativeTo directory p).IsNamed := by
  obtain ⟨common, up, down, -, hp, hseen⟩ := exists_relativeTo_eq directory p
  rw [hseen]
  intro name hname
  rcases List.mem_append.1 hname with hname | hname
  · obtain ⟨_, -, rfl⟩ := List.mem_map.1 hname
    exact .inl rfl
  · exact .inr (h.isName_of_mem_normal (hp ▸ List.mem_append_right common hname))

/-! ## Directories -/

/-- Legible names are still legible when surrogates are spelt. -/
theorem isLegible_map_spell {names : List Text} (h : ∀ name ∈ names, IsLegible name) :
    ∀ name ∈ names.map Utf8.spellSurrogates, IsLegible name := by
  intro spelt hspelt
  obtain ⟨name, hname, rfl⟩ := List.mem_map.1 hspelt
  obtain ⟨hne, hhere, hnot⟩ := h name hname
  refine ⟨mt Utf8.spellSurrogates_eq_nil_iff.1 hne, fun heq => hhere ?_,
    Utf8.not_mem_spellSurrogates (by decide) hnot⟩
  -- a dot is nothing that spelling brings in
  have dot : ∀ d ∈ here, Utf8.isUnspelt d = true := by
    intro d hd
    rw [List.mem_singleton.1 hd]
    decide
  obtain ⟨front, rfl, hfront⟩ := Utf8.exists_eq_append_of_spellSurrogates (x := []) heq dot
  rw [Utf8.spellSurrogates_eq_nil_iff.1 hfront]
  rfl

/-- Spelling does not touch the separators of a path. -/
theorem storageKey_lead_append (anchor : Anchor) (names : List Text) :
    Store.storageKey (lead anchor ++ Text.join [Store.separator] names)
      = lead anchor ++ Text.join [Store.separator] (names.map Utf8.spellSurrogates) := by
  have plain : Store.storageKey (lead anchor) = lead anchor := by cases anchor <;> decide
  rw [Store.storageKey_append, plain, Store.storageKey, Utf8.spellSurrogates_join (by decide)]

/-- What names are joined to does not end in a separator. -/
theorem exists_getLast?_join {names : List Text} (hne : names ≠ []) (h : ∀ name ∈ names, IsLegible name) :
    ∃ c, (Text.join [Store.separator] names).getLast? = some c ∧ c ≠ Store.separator := by
  obtain ⟨front, last, rfl⟩ := (List.eq_nil_or_concat names).resolve_left hne
  rw [List.concat_eq_append] at h ⊢
  obtain ⟨hlast, -, hnot⟩ := h last (by simp)
  have ending : ∃ t, Text.join [Store.separator] (front ++ [last]) = t ++ last := by
    by_cases hfront : front = []
    · exact ⟨[], by rw [hfront]; rfl⟩
    · exact ⟨_, Text.join_append hfront (List.cons_ne_nil last [])⟩
  obtain ⟨t, ht⟩ := ending
  refine ⟨last.getLast hlast, ?_, fun heq => hnot (heq ▸ List.getLast_mem hlast)⟩
  rw [ht, List.getLast?_append, List.getLast?_eq_some_getLast hlast, Option.some_or]

/-- Names in front of a separator are among those of the whole. -/
theorem prefix_partsOf {names : List Text} (hne : names ≠ []) (h : ∀ name ∈ names, IsLegible name) (t : Text) :
    names <+: partsOf (Text.join [Store.separator] names ++ Store.separator :: t) := by
  have split : Text.split '/' (Text.join [Store.separator] names ++ Store.separator :: t)
      = names ++ Text.split Store.separator t := by
    induction names with
    | nil => exact absurd rfl hne
    | cons name rest ih =>
      rw [List.forall_mem_cons] at h
      cases rest with
      | nil => exact Text.split_append_cons h.1.not_mem t
      | cons next more =>
        rw [Text.join_cons_cons, List.append_assoc, List.append_assoc, List.singleton_append, List.cons_append,
          ← ih (List.cons_ne_nil next more) h.2]
        exact Text.split_append_cons h.1.not_mem _
  rw [partsOf, split, List.filter_append, filter_eq_self_of_isLegible h]
  exact List.prefix_append _ _

/-- The stored form of a path from the root on lies in that of a directory exactly if its names begin with those
of the directory, all of them spelt. -/
theorem inDirectory_lead_append_iff {front names : List Text} (hne : front ≠ [])
    (hfront : ∀ name ∈ front, IsLegible name) (hnames : ∀ name ∈ names, IsLegible name) :
    Store.InDirectory (lead .root ++ Text.join [Store.separator] front)
      (lead .root ++ Text.join [Store.separator] names) ↔ front <+: names := by
  constructor
  · rintro (h | ⟨rest, h⟩ | ⟨hlast, -⟩)
    · rw [← partsOf_join hfront, ← partsOf_join hnames, List.append_cancel_left h]
    · rw [List.append_assoc, List.append_assoc, List.singleton_append] at h
      rw [← partsOf_join hnames, ← List.append_cancel_left h]
      exact prefix_partsOf hne hfront rest
    · obtain ⟨c, hc, hne⟩ := exists_getLast?_join hne hfront
      rw [List.getLast?_append, hc, Option.some_or] at hlast
      exact absurd (Option.some.inj hlast) hne
  · rintro ⟨back, rfl⟩
    cases back with
    | nil => exact .inl (by rw [List.append_nil])
    | cons next more =>
      rw [Text.join_append hne (List.cons_ne_nil next more), ← List.append_assoc, ← List.append_assoc]
      exact .inr (.inl (List.prefix_append _ _))

/-- What begins with two separators lies in no directory but the root. -/
theorem not_inDirectory_doubleRoot {front : List Text} (hne : front ≠ [])
    (hfront : ∀ name ∈ front, IsLegible name) (names : List Text) :
    ¬ Store.InDirectory (lead .root ++ Text.join [Store.separator] front)
      (lead .doubleRoot ++ Text.join [Store.separator] names) := by
  intro h
  obtain ⟨rest, hrest⟩ := h.prefix
  change Store.separator :: (Text.join [Store.separator] front ++ rest)
    = Store.separator :: Store.separator :: Text.join [Store.separator] names at hrest
  obtain ⟨last, hlast, -⟩ := exists_getLast?_join hne hfront
  have hhead := head?_join_ne hfront
  cases hjoin : Text.join [Store.separator] front with
  | nil =>
    rw [hjoin] at hlast
    cases hlast
  | cons c cs =>
    rw [hjoin] at hhead hrest
    exact hhead (congrArg some (List.cons.inj (List.cons.inj hrest).2).1)

end Path

/-- A text that ends in no separator is its own stem. -/
theorem Store.directoryStem_eq_self {directory : Text} (h : directory.getLast? ≠ some separator) :
    directoryStem directory = directory := by
  obtain ⟨only, other⟩ := isStem_directoryStem directory
  by_cases hall : ∀ c ∈ directory, c = separator
  · exact only hall
  · obtain ⟨-, n, hdirectory⟩ := other hall
    cases n with
    | zero => exact (hdirectory.trans (List.append_nil _)).symm
    | succ n =>
      refine absurd ?_ h
      rw [hdirectory, List.replicate_succ', ← List.append_assoc, List.getLast?_concat]

namespace Path

/-- No directory that a path is written to go through has the stored form of another directory. -/
def IsApartFrom (p : Path) (names : List Text) : Prop :=
  ∀ front, front <+: p.parts →
    Store.storageKey (ofNames front).toText = Store.storageKey (ofNames names).toText → front = names

instance (p : Path) (names : List Text) : Decidable (p.IsApartFrom names) :=
  decidable_of_iff (∀ front ∈ p.parts.inits,
    Store.storageKey (ofNames front).toText = Store.storageKey (ofNames names).toText → front = names)
    (by simp only [IsApartFrom, List.mem_inits])

/-- The row of an absolute path lies in a directory, as clearing sees it, exactly if the path is written to go
through the directory: its names begin with those of the directory. All rows lie in the root. -/
theorem inDirectory_storageKey_toText_iff {names : List Text} (hnames : ∀ name ∈ names, isName name = true)
    {p : Path} (hp : p.IsNamed) (habsolute : p.isAbsolute = true) (hapart : p.IsApartFrom names) :
    Store.InDirectory (Store.storageKey (Store.directoryStem (ofNames names).toText)) (Store.storageKey p.toText)
      ↔ names = [] ∨ p.anchor = .root ∧ names <+: p.parts := by
  have named : (ofNames names).IsNamed := fun name hname => .inr (hnames name hname)
  have text {anchor : Anchor} (h : anchor ≠ .relative) (names : List Text) :
      (⟨anchor, names⟩ : Path).toText = lead anchor ++ Text.join [Store.separator] names :=
    if_neg (by simp [h])
  obtain ⟨anchor, parts⟩ := p
  have hanchor : anchor ≠ .relative := by simpa [isAbsolute] using habsolute
  by_cases hempty : names = []
  -- the root is a separator, which every absolute path begins with
  · subst hempty
    rw [text hanchor, storageKey_lead_append]
    have stem : Store.storageKey (Store.directoryStem (ofNames []).toText) = [Store.separator] := by decide
    rw [stem]
    refine iff_of_true (.inr (.inr ⟨rfl, ?_⟩)) (.inl rfl)
    cases anchor with
    | relative => exact absurd rfl hanchor
    | root => exact List.prefix_append [Store.separator] _
    | doubleRoot => exact List.prefix_append [Store.separator] (Store.separator :: _)
  · have root (names : List Text) : (ofNames names).toText = lead .root ++ Text.join [Store.separator] names :=
      @text .root nofun names
    have spelt := isLegible_map_spell named.isLegible
    have nonempty : names.map Utf8.spellSurrogates ≠ [] := by simpa using hempty
    have stem : Store.directoryStem (ofNames names).toText = (ofNames names).toText := by
      obtain ⟨c, hc, hne⟩ := exists_getLast?_join hempty named.isLegible
      refine Store.directoryStem_eq_self ?_
      rw [root, List.getLast?_append, hc, Option.some_or]
      exact fun heq => hne (Option.some.inj heq)
    rw [stem, root, text hanchor, storageKey_lead_append, storageKey_lead_append, or_iff_right hempty]
    cases anchor with
    | relative => exact absurd rfl hanchor
    | doubleRoot =>
      exact iff_of_false (not_inDirectory_doubleRoot nonempty spelt _) (fun h => nomatch h.1)
    | root =>
      rw [inDirectory_lead_append_iff nonempty spelt (isLegible_map_spell hp.isLegible), and_iff_right rfl]
      constructor
      · rintro ⟨back, hback⟩
        -- what is spelt like the directory is the directory
        have front : parts.take names.length = names := by
          refine hapart _ (List.take_prefix _ _) ?_
          rw [root, root, storageKey_lead_append, storageKey_lead_append, List.map_take, ← hback,
            List.take_left' (List.length_map _)]
        exact front ▸ List.take_prefix _ _
      · exact fun h => h.map _

end Path

/-! ## Disks without links -/

namespace Disk

variable {disk : Disk}

/-- Without links none stands anywhere. -/
theorem find?_ne_link (hlinks : disk.linkCount = 0) (place : List Text) (target : Text) :
    disk.find? place ≠ some (.link target) := by
  intro h
  have mem := Node.mem_linkPlaces h
  rw [List.eq_nil_of_length_eq_zero ((Node.length_linkPlaces disk).trans hlinks)] at mem
  cases mem

/-- Without links names lead where they say: two dots undo the name before. -/
theorem Leads.eq_collapse (hlinks : disk.linkCount = 0) {done names fin : List Text} {count : Nat}
    (h : Leads disk done names count fin) (hdone : ∀ name ∈ done, name ≠ Path.above) :
    fin = (names.foldl (Path.collapseOne true) done.reverse).reverse := by
  induction h with
  | nil => exact (List.reverse_reverse _).symm
  | @up done rest fin links more ih =>
    have step : Path.collapseOne true done.reverse Path.above = done.dropLast.reverse := by
      rcases List.eq_nil_or_concat done with rfl | ⟨front, last, rfl⟩
      · rfl
      · have hlast : last ≠ Path.above := hdone last (by simp)
        simp [Path.collapseOne, hlast]
    rw [List.foldl_cons, step]
    exact ih fun name hname => hdone name ((List.dropLast_sublist done).subset hname)
  | @pass done rest fin name links found hname hfind hlink more ih =>
    have step : Path.collapseOne true done.reverse name = (done ++ [name]).reverse := by
      simp [Path.collapseOne, hname]
    rw [List.foldl_cons, step]
    refine ih fun other hother => ?_
    rcases List.mem_append.1 hother with hother | hother
    · exact hdone other hother
    · exact List.mem_singleton.1 hother ▸ hname
  | follow hname hfind enter more => exact absurd hfind (find?_ne_link hlinks _ _)

/-- On a disk without links a path leads to the same as its normal form, and its names are such as there are. -/
theorem look_normal (hdisk : disk.isWellFormed = true) (hlinks : disk.linkCount = 0) {p : Path} {node : Node}
    (h : look disk p = .ok node) : p.IsNamed ∧ look disk (.ofNames p.normal) = .ok node := by
  obtain ⟨fin, hwalks⟩ := look_eq_ok_iff.1 h
  obtain ⟨count, hleads⟩ := hwalks.exists_leads
  have hfin : fin = p.normal := hleads.eq_collapse hlinks (List.forall_mem_nil _)
  refine ⟨hwalks.isName hdisk, ?_⟩
  rw [← hfin]
  exact ((hleads.areReal areReal_nil).resolve_eq hdisk hwalks.find?).1

end Disk

end SourceAtlas
