import Mathlib.Data.List.Forall2
import SourceAtlas.Proofs.Except
import SourceAtlas.Proofs.Payload

/-!
The shapes of stored texts. A text is read as chunks if it is the JSON of an array of objects that have a content
each; a string or an object with nothing in it passes for an array as well. Nothing is asked of contents, kinds and
documentation, and parents may be whatever can be listed.

Main statements: `Chunk.ofJson_eq_ok_iff`, `Payload.read_eq_ok_iff`, `Payload.exists_isTyped_write`.
-/

namespace SourceAtlas

namespace Chunk

/-! ## Chunks -/

/-- A value has members as a boundary: those of an object, and none if it is blank. -/
inductive Bounds : Json → List (Text × Json) → Prop
  | object (members : List (Text × Json)) : Bounds (.object members) members
  | blank {v : Json} (h : v.isBlank = true) : Bounds v []

/-- A value lists these values: an array its items, a string its characters, an object its names, and a blank
value nothing. -/
inductive Lists : Json → List Json → Prop
  | items (items : List Json) : Lists (.array items) items
  | characters (t : Text) : Lists (.string t) (t.map fun c => .string [c])
  | names (members : List (Text × Json)) : Lists (.object members) (members.map fun m => .string m.1)
  | blank {v : Json} (h : v.isBlank = true) : Lists v []

/-- An object is read as a chunk. It must have a content, and a kind that is missing is the empty string. Whatever
else is missing is nothing. -/
inductive ReadsAs : Json → Chunk → Prop
  | intro {members boundary : List (Text × Json)} {content : Json} {parents : List Json}
      (hcontent : Json.member? "content" members = some content)
      (hboundary : Bounds ((Json.member? "boundary" members).getD .null) boundary)
      (hparents : Lists ((Json.member? "parent" boundary).getD .null) parents) :
      ReadsAs (.object members) ⟨content, (Json.member? "kind" members).getD (.string []),
        (Json.member? "docs" boundary).getD .null, parents⟩

/-- The members of a boundary are read by the rules. -/
theorem boundaryMembers_eq_ok_iff {v : Json} {members : List (Text × Json)} :
    boundaryMembers v = .ok members ↔ Bounds v members := by
  constructor
  · intro h
    unfold boundaryMembers at h
    split at h
    · next hblank =>
      obtain rfl := Except.ok.inj h
      exact .blank hblank
    · cases v with
      | object own =>
        obtain rfl := Except.ok.inj h
        exact .object own
      | _ => cases h
  · intro h
    cases h with
    | object =>
      cases members with
      | nil => rfl
      | cons m rest => rfl
    | blank hblank => exact if_pos hblank

/-- What is listed as parents is read by the rules. -/
theorem listed_eq_ok_iff {v : Json} {list : List Json} : listed v = .ok list ↔ Lists v list := by
  constructor
  · intro h
    unfold listed at h
    split at h
    · next hblank =>
      obtain rfl := Except.ok.inj h
      exact .blank hblank
    · cases v with
      | array items =>
        obtain rfl := Except.ok.inj h
        exact .items items
      | string t =>
        obtain rfl := Except.ok.inj h
        exact .characters t
      | object members =>
        obtain rfl := Except.ok.inj h
        exact .names members
      | _ => cases h
  -- an array, a string or an object with nothing in it is blank, and lists nothing either way
  · intro h
    cases h with
    | items => cases list <;> rfl
    | characters t => cases t <;> rfl
    | names members => cases members <;> rfl
    | blank hblank => exact if_pos hblank

/-- Which values are chunks, and which chunks they are. -/
theorem ofJson_eq_ok_iff {v : Json} {c : Chunk} : ofJson v = .ok c ↔ ReadsAs v c := by
  constructor
  · intro h
    cases v with
    | object members =>
      unfold ofJson at h
      dsimp only at h
      split at h
      · cases h
      · next content hcontent =>
        obtain ⟨boundary, hboundary, h⟩ := bind_eq_ok_iff.1 h
        obtain ⟨parents, hparents, h⟩ := bind_eq_ok_iff.1 h
        obtain rfl := Except.ok.inj h
        exact .intro hcontent (boundaryMembers_eq_ok_iff.1 hboundary) (listed_eq_ok_iff.1 hparents)
    | _ => cases h
  · rintro ⟨hcontent, hboundary, hparents⟩
    simp only [ofJson, hcontent]
    exact bind_eq_ok_iff.2 ⟨_, boundaryMembers_eq_ok_iff.2 hboundary,
      bind_eq_ok_iff.2 ⟨_, listed_eq_ok_iff.2 hparents, rfl⟩⟩

/-! ## Types -/

/-- An object has the types of a chunk: its content is a string, its kind is one or is missing, its documentation
may be null as well, and its parents are an array of strings unless they are missing or null. -/
inductive IsTyped : Json → Prop
  | intro {members boundary : List (Text × Json)} {content : Text}
      (hcontent : Json.member? "content" members = some (.string content))
      (hkind : ∀ kind, Json.member? "kind" members = some kind → isString kind = true)
      (hboundary : Bounds ((Json.member? "boundary" members).getD .null) boundary)
      (hdocs : ∀ docs, Json.member? "docs" boundary = some docs → isStringOrNull docs = true)
      (hparents : ∀ parents, Json.member? "parent" boundary = some parents →
        parents = .null ∨ ∃ names, parents = .array names ∧ ∀ name ∈ names, isString name = true) :
      IsTyped (.object members)

/-- An object with the types of a chunk is read as a well-typed chunk. -/
theorem IsTyped.exists_readsAs {v : Json} (h : IsTyped v) : ∃ c, ReadsAs v c ∧ c.WellTyped := by
  obtain @⟨members, boundary, content, hcontent, hkind, hboundary, hdocs, hparents⟩ := h
  have kind : isString ((Json.member? "kind" members).getD (.string [])) = true := by
    cases hmember : Json.member? "kind" members with
    | none => rfl
    | some kind => exact hkind kind hmember
  have docs : isStringOrNull ((Json.member? "docs" boundary).getD .null) = true := by
    cases hmember : Json.member? "docs" boundary with
    | none => rfl
    | some docs => exact hdocs docs hmember
  have parents : ∃ names, Lists ((Json.member? "parent" boundary).getD .null) names
      ∧ ∀ name ∈ names, isString name = true := by
    cases hmember : Json.member? "parent" boundary with
    | none => exact ⟨[], .blank rfl, List.forall_mem_nil _⟩
    | some value =>
      rcases hparents value hmember with rfl | ⟨names, rfl, hnames⟩
      · exact ⟨[], .blank rfl, List.forall_mem_nil _⟩
      · exact ⟨names, .items names, hnames⟩
  obtain ⟨names, hlists, hnames⟩ := parents
  exact ⟨_, .intro hcontent hboundary hlists, rfl, kind, docs, hnames⟩

/-- The object of a well-typed chunk has the types of a chunk. -/
theorem isTyped_toJson {c : Chunk} (h : c.WellTyped) : IsTyped c.toJson := by
  obtain ⟨hcontent, hkind, hdocs, hparents⟩ := h
  obtain ⟨content, hcontent⟩ := exists_string hcontent
  refine .intro (congrArg some hcontent) ?_ (.object _) ?_ ?_
  · rintro kind ⟨⟩
    exact hkind
  · rintro docs ⟨⟩
    exact hdocs
  · rintro parents ⟨⟩
    exact .inr ⟨c.parents, rfl, hparents⟩

/-- A string stays one when its pairs are joined. -/
theorem isString_joined {v : Json} (h : isString v = true) : isString v.joined = true := by
  obtain ⟨t, rfl⟩ := exists_string h
  rfl

theorem isString_of_mem_joinedItems {items : List Json} (h : ∀ v ∈ items, isString v = true) :
    ∀ v ∈ Json.joinedItems items, isString v = true := by
  induction items with
  | nil => exact List.forall_mem_nil _
  | cons v rest ih =>
    rw [List.forall_mem_cons] at h
    exact List.forall_mem_cons.2 ⟨isString_joined h.1, ih h.2⟩

/-- Joining the pairs in its strings leaves a chunk well typed. -/
theorem WellTyped.joined {c : Chunk} (h : c.WellTyped) : c.joined.WellTyped := by
  obtain ⟨hcontent, hkind, hdocs, hparents⟩ := h
  refine ⟨isString_joined hcontent, isString_joined hkind, ?_, isString_of_mem_joinedItems hparents⟩
  rcases string_or_null hdocs with ⟨t, ht⟩ | ht
  · rw [Chunk.joined, ht]
    rfl
  · rw [Chunk.joined, ht]
    rfl

end Chunk

namespace Payload

/-! ## Lists of chunks -/

/-- A value passes for a list of these items: it is their array, or there is nothing in it. -/
inductive HasItems : Json → List Json → Prop
  | array (items : List Json) : HasItems (.array items) items
  | emptyString : HasItems (.string []) []
  | emptyObject : HasItems (.object []) []

/-- A value is an array of objects with the types of chunks. -/
def IsTyped (v : Json) : Prop := ∃ items, v = .array items ∧ ∀ item ∈ items, Chunk.IsTyped item

/-- Chunks are read one by one. -/
theorem chunks_eq_ok_iff {items : List Json} {list : List Chunk} :
    chunks items = .ok list ↔ List.Forall₂ Chunk.ReadsAs items list := by
  induction items generalizing list with
  | nil =>
    rw [chunks, Except.ok.injEq, List.forall₂_nil_left_iff]
    exact eq_comm
  | cons v rest ih =>
    rw [List.forall₂_cons_left_iff, chunks]
    cases hfirst : Chunk.ofJson v with
    | error fault =>
      constructor
      · intro h
        cases h
      · rintro ⟨c, more, hc, -, -⟩
        rw [← Chunk.ofJson_eq_ok_iff, hfirst] at hc
        cases hc
    | ok first =>
      dsimp only
      rw [map_eq_ok_iff]
      constructor
      · rintro ⟨more, hmore, rfl⟩
        exact ⟨first, more, Chunk.ofJson_eq_ok_iff.1 hfirst, ih.1 hmore, rfl⟩
      · rintro ⟨c, more, hc, hmore, rfl⟩
        rw [← Chunk.ofJson_eq_ok_iff, hfirst] at hc
        obtain rfl := Except.ok.inj hc
        exact ⟨more, ih.2 hmore, rfl⟩

/-- A name or a character is no chunk. -/
theorem not_readsAs_string {t : Text} {c : Chunk} : ¬ Chunk.ReadsAs (.string t) c := nofun

/-- What is listed at the top level of a value makes chunks only if the value passes for a list of them. -/
theorem bind_chunks_eq_ok_iff {v : Json} {list : List Chunk} :
    items v >>= chunks = .ok list ↔ ∃ own, HasItems v own ∧ List.Forall₂ Chunk.ReadsAs own list := by
  constructor
  · intro h
    cases v with
    | array own => exact ⟨own, .array own, chunks_eq_ok_iff.1 h⟩
    | string t =>
      cases t with
      | nil => exact ⟨[], .emptyString, chunks_eq_ok_iff.1 h⟩
      | cons c rest =>
        have characters : chunks (.string [c] :: rest.map fun c => .string [c]) = .ok list := h
        obtain ⟨_, _, hfirst, -, -⟩ := List.forall₂_cons_left_iff.1 (chunks_eq_ok_iff.1 characters)
        exact absurd hfirst not_readsAs_string
    | object members =>
      cases members with
      | nil => exact ⟨[], .emptyObject, chunks_eq_ok_iff.1 h⟩
      | cons m rest =>
        have names : chunks (.string m.1 :: rest.map fun m => .string m.1) = .ok list := h
        obtain ⟨_, _, hfirst, -, -⟩ := List.forall₂_cons_left_iff.1 (chunks_eq_ok_iff.1 names)
        exact absurd hfirst not_readsAs_string
    | _ => cases h
  · rintro ⟨own, hitems, hread⟩
    have hchunks : chunks own = .ok list := chunks_eq_ok_iff.2 hread
    cases hitems with
    | array => exact hchunks
    | emptyString => exact hchunks
    | emptyObject => exact hchunks

/-- Which stored texts hold chunks, and which chunks they hold. -/
theorem read_eq_ok_iff {source : Text} {list : List Chunk} :
    read source = .ok list ↔ ∃ v own, Json.read source = .ok v ∧ HasItems v own
      ∧ List.Forall₂ Chunk.ReadsAs own list := by
  rw [read]
  cases Json.read source with
  | error fault => simp
  | ok v => simp [bind_chunks_eq_ok_iff]

/-- An array of objects with the types of chunks holds well-typed chunks. -/
theorem IsTyped.exists_read {source : Text} {v : Json} (h : IsTyped v) (hv : Json.read source = .ok v) :
    ∃ list, read source = .ok list ∧ ∀ c ∈ list, c.WellTyped := by
  obtain ⟨own, rfl, hitems⟩ := h
  have typed : ∃ list, List.Forall₂ Chunk.ReadsAs own list ∧ ∀ c ∈ list, c.WellTyped := by
    clear hv
    induction own with
    | nil => exact ⟨[], .nil, List.forall_mem_nil _⟩
    | cons item rest ih =>
      rw [List.forall_mem_cons] at hitems
      obtain ⟨c, hc, hwell⟩ := hitems.1.exists_readsAs
      obtain ⟨more, hmore, hrest⟩ := ih hitems.2
      exact ⟨c :: more, .cons hc hmore, List.forall_mem_cons.2 ⟨hwell, hrest⟩⟩
  obtain ⟨list, hlist, hwell⟩ := typed
  exact ⟨list, read_eq_ok_iff.2 ⟨_, own, hv, .array own, hlist⟩, hwell⟩

/-- The text that is stored of well-typed chunks is an array of objects with the types of chunks. -/
theorem exists_isTyped_write {chunks : List Chunk} (h : ∀ c ∈ chunks, c.WellTyped) :
    ∃ v, Json.read (write chunks) = .ok v ∧ IsTyped v := by
  have textual : Json.IsTextual (.array (chunks.map Chunk.toJson)) := areTextual_map_toJson h
  refine ⟨_, Json.read_write textual, _, rfl, ?_⟩
  rw [joinedItems_map_toJson]
  intro item hitem
  obtain ⟨c, hc, rfl⟩ := List.mem_map.1 hitem
  obtain ⟨own, hown, rfl⟩ := List.mem_map.1 hc
  exact Chunk.isTyped_toJson (h own hown).joined

end Payload

end SourceAtlas
