import SourceAtlas.Proofs.Payload.Shape

/-!
What comes of reading a value as a chunk. Every value is read in one way: it is at fault for the first of four reasons
that applies, or it is read as a chunk. What has been read is in normal form: the object of a chunk is read as this very
chunk, whatever types its fields have, so that reading a second time changes nothing.

Main statements: `ofJson_eq_iff`, `ofJson_normalises`.
-/

namespace SourceAtlas.Chunk

/-! ## Values at fault -/

/-- A value is an object. -/
def IsObject (v : Json) : Prop := ∃ members, v = .object members

/-- A value can be gone through: it is an array, a string or an object. -/
def CanBeListed (v : Json) : Prop := (∃ items, v = .array items) ∨ (∃ t, v = .string t) ∨ IsObject v

/-- What comes of reading a value: a fault, or a chunk. What is asked first is whether the value is an object, then
whether it has a content, then whether its boundary is an object, unless this is missing or blank, and at last whether
its parents can be gone through, unless they are missing or blank. -/
inductive ComesTo : Json → Except Fault Chunk → Prop
  | notAnObject {v : Json} (hv : ¬ IsObject v) : ComesTo v (.error (.notAnObject v.kindName))
  | noContent {members : List (Text × Json)} (hcontent : Json.member? "content" members = none) :
      ComesTo (.object members) (.error .noContent)
  | boundaryNotAnObject {members : List (Text × Json)} {content boundary : Json}
      (hcontent : Json.member? "content" members = some content)
      (hboundary : Json.member? "boundary" members = some boundary) (hblank : boundary.isBlank = false)
      (hobject : ¬ IsObject boundary) : ComesTo (.object members) (.error (.notAnObject boundary.kindName))
  | parentsNotListed {members boundary : List (Text × Json)} {content parents : Json}
      (hcontent : Json.member? "content" members = some content)
      (hboundary : Bounds ((Json.member? "boundary" members).getD .null) boundary)
      (hparents : Json.member? "parent" boundary = some parents) (hblank : parents.isBlank = false)
      (hlisted : ¬ CanBeListed parents) : ComesTo (.object members) (.error (.parentsNotListed parents.kindName))
  | chunk {v : Json} {c : Chunk} (h : ReadsAs v c) : ComesTo v (.ok c)

/-- A value has no members as a boundary exactly if it is neither blank nor an object. -/
theorem boundaryMembers_eq_error_iff {v : Json} {fault : Fault} :
    boundaryMembers v = .error fault ↔ v.isBlank = false ∧ ¬ IsObject v ∧ fault = .notAnObject v.kindName := by
  unfold boundaryMembers
  split
  · next hblank => simp [hblank]
  · next hblank =>
    rw [Bool.not_eq_true] at hblank
    cases v with
    | object members => simp [IsObject]
    | _ => simp [hblank, IsObject, eq_comm]

/-- A value lists nothing exactly if it is not blank and cannot be gone through. -/
theorem listed_eq_error_iff {v : Json} {fault : Fault} :
    listed v = .error fault ↔ v.isBlank = false ∧ ¬ CanBeListed v ∧ fault = .parentsNotListed v.kindName := by
  unfold listed
  split
  · next hblank => simp [hblank]
  · next hblank =>
    rw [Bool.not_eq_true] at hblank
    cases v with
    | array items => simp [CanBeListed]
    | string t => simp [CanBeListed]
    | object members => simp [CanBeListed, IsObject]
    | _ => simp [hblank, CanBeListed, IsObject, eq_comm]

/-! ## Reading a value -/

/-- Of an object with a content the boundary is looked at first, and then the parents in it. -/
theorem ofJson_object {members : List (Text × Json)} {content : Json}
    (h : Json.member? "content" members = some content) : ofJson (.object members)
      = boundaryMembers ((Json.member? "boundary" members).getD .null) >>= fun boundary =>
        listed ((Json.member? "parent" boundary).getD .null) >>= fun parents =>
          .ok ⟨content, (Json.member? "kind" members).getD (.string []), (Json.member? "docs" boundary).getD .null,
            parents⟩ := by
  simp only [ofJson, h]
  rfl

/-- What is not blank is not missing. -/
theorem member?_eq_some_of_isBlank {name : Text} {members : List (Text × Json)}
    (h : ((Json.member? name members).getD .null).isBlank = false) :
    Json.member? name members = some ((Json.member? name members).getD .null) := by
  cases hmember : Json.member? name members with
  | none =>
    rw [hmember] at h
    cases h
  | some v => rfl

theorem comesTo_ofJson (v : Json) : ComesTo v (ofJson v) := by
  cases v with
  | object members =>
    cases hcontent : Json.member? "content" members with
    | none =>
      simp only [ofJson, hcontent]
      exact .noContent hcontent
    | some content =>
      rw [ofJson_object hcontent]
      cases hboundary : boundaryMembers ((Json.member? "boundary" members).getD .null) with
      | error fault =>
        obtain ⟨hblank, hobject, rfl⟩ := boundaryMembers_eq_error_iff.1 hboundary
        exact .boundaryNotAnObject hcontent (member?_eq_some_of_isBlank hblank) hblank hobject
      | ok boundary =>
        have hbounds := boundaryMembers_eq_ok_iff.1 hboundary
        change ComesTo _ (listed ((Json.member? "parent" boundary).getD .null) >>= _)
        cases hparents : listed ((Json.member? "parent" boundary).getD .null) with
        | error fault =>
          obtain ⟨hblank, hlisted, rfl⟩ := listed_eq_error_iff.1 hparents
          exact .parentsNotListed hcontent hbounds (member?_eq_some_of_isBlank hblank) hblank hlisted
        | ok parents => exact .chunk (.intro hcontent hbounds (listed_eq_ok_iff.1 hparents))
  | _ =>
    refine .notAnObject ?_
    rintro ⟨members, hmembers⟩
    cases hmembers

/-- A value is read in one way. -/
theorem ComesTo.ofJson_eq {v : Json} {result : Except Fault Chunk} (h : ComesTo v result) : ofJson v = result := by
  cases h with
  | notAnObject hv =>
    cases v with
    | object members => exact absurd ⟨members, rfl⟩ hv
    | _ => rfl
  | noContent hcontent => simp only [ofJson, hcontent]
  | boundaryNotAnObject hcontent hboundary hblank hobject =>
    rw [ofJson_object hcontent, hboundary, Option.getD_some,
      boundaryMembers_eq_error_iff.2 ⟨hblank, hobject, rfl⟩]
    rfl
  | parentsNotListed hcontent hbounds hparents hblank hlisted =>
    rw [ofJson_object hcontent, boundaryMembers_eq_ok_iff.2 hbounds]
    change (listed _ >>= _) = _
    rw [hparents, Option.getD_some, listed_eq_error_iff.2 ⟨hblank, hlisted, rfl⟩]
    rfl
  | chunk hreads => exact ofJson_eq_ok_iff.2 hreads

theorem ofJson_eq_iff {v : Json} {result : Except Fault Chunk} : ofJson v = result ↔ ComesTo v result :=
  ⟨fun h => h ▸ comesTo_ofJson v, ComesTo.ofJson_eq⟩

/-! ## Normal form -/

/-- Reading normalises. What comes of a value is said by the rules: it is no object, or has no content, or has a
boundary that is no object, or parents that cannot be gone through, of which the first is reported, or it is read as a
chunk. Reading the object of what has been read gives the same once more. And the object of any chunk is read as the
chunk, be it well typed or not. -/
theorem ofJson_normalises (v : Json) : (∀ result, ofJson v = result ↔ ComesTo v result)
    ∧ (ofJson v >>= fun c => ofJson c.toJson) = ofJson v ∧ ∀ c : Chunk, ofJson c.toJson = .ok c := by
  refine ⟨fun result => ofJson_eq_iff, ?_, ofJson_toJson⟩
  cases ofJson v with
  | error fault => rfl
  | ok c => exact ofJson_toJson c

/-- A string in the place of the parents is gone through by its characters. -/
example : ofJson (.object [("content", .null), ("boundary", .object [("parent", .string "ab")])])
    = .ok ⟨.null, .string [], .null, [.string "a", .string "b"]⟩ := rfl

end SourceAtlas.Chunk
