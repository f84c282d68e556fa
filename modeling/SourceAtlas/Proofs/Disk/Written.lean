import SourceAtlas.Proofs.Disk.Loop

/-!
Places as they are written. A path that is seen from a working directory is made real as it is written, so that one
place may be met in several ways of writing, and a link that leads back to itself is known late. Where none does, this
makes no difference: the path comes to the place to which it comes from the root on.

Main statement: `realNamesIn_eq`.
-/

namespace SourceAtlas

/-! ## Collapsed names -/

namespace Path

/-- A name is added to what comes of those before it. -/
theorem collapse_concat {names : List Text} {name : Text} (hname : name ≠ above) :
    collapse true (names ++ [name]) = collapse true names ++ [name] := by
  rw [collapse, List.foldl_append]
  simp [collapse, collapseOne, hname]

/-- Two dots undo the last of them. -/
theorem collapse_concat_above (names : List Text) :
    collapse true (names ++ [above]) = (collapse true names).dropLast := by
  rw [collapse, List.foldl_append, collapse, List.dropLast_reverse]
  generalize hdone : names.foldl (collapseOne true) [] = done
  cases done with
  | nil => rfl
  | cons last rest =>
    have kept : last ∈ names.foldl (collapseOne true) [] := hdone ▸ List.mem_cons_self
    have hlast : last ≠ above := (mem_foldl_collapseOne (by simp) kept).2
    simp [collapseOne, hlast]

end Path

namespace Disk

variable {disk : Disk} {current : Path}

/-! ## Written places -/

/-- A further name is written behind those of the place. -/
theorem placeOf_child {place : Path} {name : Text} (hname : name ≠ Path.above) :
    placeOf current (place.child name) = placeOf current place ++ [name] := by
  unfold placeOf
  by_cases habsolute : place.isAbsolute = true
  · rw [if_pos habsolute, if_pos (show (place.child name).isAbsolute = true from habsolute)]
    rfl
  · rw [if_neg habsolute, if_neg (show ¬ (place.child name).isAbsolute = true from habsolute), Path.child,
      ← List.append_assoc, Path.collapse_concat hname]

/-- A step up is one from the place, however it is written. -/
theorem placeOf_up (place : Path) : placeOf current place.up = (placeOf current place).dropLast := by
  unfold Path.up
  split
  · next hstep =>
    have hrelative : ¬ place.isAbsolute = true := by
      rw [Bool.and_eq_true, decide_eq_true_eq] at hstep
      simp [Path.isAbsolute, hstep.1]
    unfold placeOf
    rw [if_neg hrelative, if_neg (show ¬ (place.child Path.above).isAbsolute = true from hrelative), Path.child,
      ← List.append_assoc, Path.collapse_concat_above]
  · next hstep =>
    unfold placeOf
    by_cases habsolute : place.isAbsolute = true
    · rw [if_pos habsolute, if_pos (show place.parent.isAbsolute = true from habsolute)]
      rfl
    · rw [if_neg habsolute, if_neg (show ¬ place.parent.isAbsolute = true from habsolute)]
      -- the last name is one that can be dropped
      have relative : place.anchor = .relative := by simpa [Path.isAbsolute] using habsolute
      rcases List.eq_nil_or_concat place.parts with hparts | ⟨front, last, hparts⟩
      · simp [relative, hparts] at hstep
      · rw [List.concat_eq_append] at hparts
        have name : place.name = last := by rw [Path.name, hparts, List.getLast?_concat, Option.getD_some]
        have hlast : last ≠ Path.above := by
          rintro rfl
          simp [relative, name] at hstep
        rw [Path.parent, hparts, List.dropLast_concat, ← List.append_assoc, Path.collapse_concat hlast,
          List.dropLast_concat]

/-! ## Ways from the root and from elsewhere -/

/-- Where a path comes to a place from the root on, it comes to that as it is written. -/
def Follows (current : Path) (made written : Resolved) : Prop :=
  ∀ fin, made = .real fin → ∃ place, written = .real place ∧ fin = .ofNames (placeOf current place)

/-- The places of the links that are being gone through are so from the root on. -/
def AreOpenAt (current : Path) (open_ written : List Path) : Prop :=
  ∀ place ∈ written, Path.ofNames (placeOf current place) ∈ open_

/-- One leg of the way as it is written follows the leg from the root on, provided that the ways through links do. -/
theorem follows_resolveWith {root : Path} {enter other : List Path → Path → List Text → Resolved}
    (henter : ∀ open_ written start pieces, AreOpenAt current open_ written →
      Follows current (enter open_ (.ofNames (placeOf current start)) pieces) (other written start pieces))
    {open_ written : List Path} (hopen : AreOpenAt current open_ written) (done : Path) (pieces : List Text) :
    Follows current (resolveWith disk root enter open_ (.ofNames (placeOf current done)) pieces)
      (resolveWith disk current other written done pieces) := by
  induction pieces generalizing done with
  | nil => exact fun fin h => ⟨done, rfl, (Resolved.real.inj h).symm⟩
  | cons piece rest ih =>
    intro fin h
    rw [resolveWith] at h ⊢
    split at h
    · next hsilent =>
      rw [if_pos hsilent]
      exact ih done fin h
    · next hsaid =>
      rw [if_neg hsaid]
      split at h
      · next hstep =>
        rw [if_pos hstep]
        refine ih done.up fin ?_
        rw [placeOf_up]
        exact h
      · next hname =>
        rw [if_neg hname]
        have place : (Path.ofNames (placeOf current done)).child piece
            = .ofNames (placeOf current (done.child piece)) := by rw [placeOf_child hname, child_ofNames]
        dsimp only at h ⊢
        rw [place, placeOf_ofNames] at h
        split at h
        · next target hfind =>
          split at h
          · cases h
          · next hclosed =>
            have closed : ¬ written.contains (done.child piece) = true := by
              rw [List.contains_iff_mem] at hclosed ⊢
              exact fun hmem => hclosed (hopen _ hmem)
            have opened : AreOpenAt current (.ofNames (placeOf current (done.child piece)) :: open_)
                (done.child piece :: written) :=
              List.forall_mem_cons.2 ⟨List.mem_cons_self, fun one hone => List.mem_cons_of_mem _ (hopen one hone)⟩
            have start : (if (Path.ofText target).isAbsolute then Path.ofNames [] else .ofNames (placeOf current done))
                = .ofNames (placeOf current (if (Path.ofText target).isAbsolute then .ofNames [] else done)) := by
              split <;> rfl
            rw [if_neg closed]
            rw [start] at h
            split at h
            · cases h
            · next mid hmid =>
              obtain ⟨inner, hinner, rfl⟩ := henter _ _ _ _ opened mid hmid
              rw [hinner]
              exact ih inner fin h
        · exact ih (done.child piece) fin h

/-- So does a way through as many links or more. -/
theorem follows_resolveFrom {root : Path} {links more : Nat} (hle : links ≤ more) {open_ written : List Path}
    (hopen : AreOpenAt current open_ written) (done : Path) (pieces : List Text) :
    Follows current (resolveFrom disk root links open_ (.ofNames (placeOf current done)) pieces)
      (resolveFrom disk current more written done pieces) := by
  -- the induction is on how many links may still be entered; where none may, none was
  induction links generalizing more open_ written done pieces with
  | zero =>
    cases more with
    | _ => exact follows_resolveWith (fun _ _ _ _ _ _ hleft => by cases hleft) hopen done pieces
  | succ links ih =>
    obtain ⟨more, rfl⟩ : ∃ fewer, more = fewer + 1 := ⟨more - 1, by omega⟩
    exact follows_resolveWith (fun _ _ start inner hinner => ih (by omega) hinner start inner) hopen done pieces

/-! ## Real names in a working directory -/

/-- In a working directory that is free of links, the real names of a path that starts there are those of what it comes
to as it is written, whether or not a link on it leads back to itself. -/
theorem realNamesIn_eq (hcurrent : IsLinkFree disk current.parts) {path : Path} (hpath : path.isAbsolute = false) :
    realNamesIn disk current path = namesOf current (resolvedIn disk current path) := by
  unfold realNamesIn
  split
  · rfl
  · next hloop =>
    have start : placeOf current ⟨.relative, []⟩ = current.parts := by
      rw [placeOf, if_neg (by decide), List.append_nil]
      refine Path.collapse_of_forall fun name hname => ?_
      obtain ⟨front, back, hparts⟩ := List.append_of_mem hname
      exact (hcurrent front name (hparts ▸ by simp)).2.1
    cases hmade : resolved disk (current.join path) with
    | left rest =>
      rw [hmade] at hloop
      exact absurd rfl hloop
    | real fin =>
      have behind : resolveFrom disk (.ofNames []) (disk.linkCount + 1) [] (.ofNames (placeOf current ⟨.relative, []⟩))
          path.parts = .real fin := by
        rw [start, ← hmade, resolved, Path.join, if_neg (by rw [hpath]; exact Bool.false_ne_true)]
        have free : IsLinkFree disk ([] ++ current.parts) := hcurrent
        exact (free.resolveFrom_append _ _ _ _).symm
      have enough : disk.linkCount + 1 ≤ (disk.linkCount + 1) * (current.parts.length + 2) :=
        Nat.le_mul_of_pos_right _ (by omega)
      obtain ⟨place, hplace, rfl⟩ :=
        follows_resolveFrom enough (List.forall_mem_nil _) ⟨.relative, []⟩ path.parts fin behind
      rw [realNames, hmade, resolvedIn, hplace]
      rfl

/-- Behind a link that leads back to itself the way of writing tells: from the root on the link is known as soon as it
is met again, but not if it was written by its name before. -/
example :
    let disk : Disk := .directory [("d", .directory [("l", .link "/d/l/x")])]
    realNames disk (.ofText "/d/l") = ["d", "l", "x"]
      ∧ realNamesIn disk (.ofText "/d") ⟨.relative, ["l"]⟩ = ["d", "l", "x", "x"] := by
  decide +kernel

end Disk

end SourceAtlas
