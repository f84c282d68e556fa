import SourceAtlas.Proofs.Entity.Walk
import SourceAtlas.Payload
import SourceAtlas.Proofs.Json.RoundTrip

/-!
Reading back payloads. Every list of chunks that were extracted can be read again; the chunks come back with
the pairs of surrogates in their strings joined, and hence as they were exactly if no string holds a pair.

Main statements: `read_write`, `map_joined_eq_self_iff`.
-/

namespace SourceAtlas

namespace Chunk

/-! ## Strings -/

/-- The text of a value that is a string. -/
def textsOf : Json → List Text
  | .string t => [t]
  | _ => []

/-- The strings of a chunk. -/
def texts (c : Chunk) : List Text :=
  textsOf c.content ++ textsOf c.kind ++ textsOf c.docs ++ c.parents.flatMap textsOf

/-- No string of a chunk has a high surrogate directly before a low one. -/
def PairFree (c : Chunk) : Prop := ∀ t ∈ c.texts, t.holdsPair = false

instance (c : Chunk) : Decidable c.PairFree := by unfold PairFree; infer_instance

/-- A chunk with the pairs in its strings joined. -/
def joined (c : Chunk) : Chunk := ⟨c.content.joined, c.kind.joined, c.docs.joined, Json.joinedItems c.parents⟩

theorem exists_string {v : Json} (h : isString v = true) : ∃ t, v = .string t := by
  cases v with
  | string t => exact ⟨t, rfl⟩
  | _ => cases h

theorem string_or_null {v : Json} (h : isStringOrNull v = true) : (∃ t, v = .string t) ∨ v = .null := by
  cases v with
  | string t => exact .inl ⟨t, rfl⟩
  | null => exact .inr rfl
  | _ => cases h

/-- A string is left alone by joining exactly if it holds no pair. -/
theorem joined_string_eq_self_iff {v : Json} (h : isString v = true) :
    v.joined = v ↔ ∀ t ∈ textsOf v, t.holdsPair = false := by
  obtain ⟨t, rfl⟩ := exists_string h
  rw [Json.joined, Json.string.injEq, Json.joinPairs_eq_self_iff, textsOf, List.forall_mem_singleton]

/-- Docs stay as they are just if no pair is in them. -/
theorem joined_stringOrNull_eq_self_iff {v : Json} (h : isStringOrNull v = true) :
    v.joined = v ↔ ∀ t ∈ textsOf v, t.holdsPair = false := by
  rcases string_or_null h with ⟨t, rfl⟩ | rfl
  · exact joined_string_eq_self_iff rfl
  · simp [Json.joined, textsOf]

/-- Parents stay as they are just if no pair is in them. -/
theorem joinedItems_eq_self_iff {items : List Json} (h : ∀ v ∈ items, isString v = true) :
    Json.joinedItems items = items ↔ ∀ t ∈ items.flatMap textsOf, t.holdsPair = false := by
  induction items with
  | nil => simp [Json.joinedItems]
  | cons v rest ih =>
    rw [List.forall_mem_cons] at h
    rw [Json.joinedItems, List.cons.injEq, joined_string_eq_self_iff h.1, ih h.2, List.flatMap_cons,
      List.forall_mem_append]

/-- A chunk is left alone by joining exactly if none of its strings holds a pair. -/
theorem joined_eq_self_iff {c : Chunk} (h : c.WellTyped) : c.joined = c ↔ c.PairFree := by
  obtain ⟨hcontent, hkind, hdocs, hparents⟩ := h
  have fields : c.joined = c ↔ c.content.joined = c.content ∧ c.kind.joined = c.kind
      ∧ c.docs.joined = c.docs ∧ Json.joinedItems c.parents = c.parents := by
    cases c
    rw [joined, Chunk.mk.injEq]
  rw [fields, joined_string_eq_self_iff hcontent, joined_string_eq_self_iff hkind,
    joined_stringOrNull_eq_self_iff hdocs, joinedItems_eq_self_iff hparents, PairFree, texts,
    List.forall_mem_append, List.forall_mem_append, List.forall_mem_append, and_assoc, and_assoc]

/-! ## As JSON -/

/-- A chunk is read back from its object. -/
theorem ofJson_toJson (c : Chunk) : ofJson c.toJson = .ok c := by
  obtain ⟨content, kind, docs, parents⟩ := c
  cases parents with
  | nil => rfl
  | cons p rest => rfl

/-- The pairs in a chunk may be joined before it is written or after that. -/
theorem joined_toJson (c : Chunk) : c.toJson.joined = c.joined.toJson := rfl

theorem isTextual_of_isString {v : Json} (h : isString v = true) : v.IsTextual := by
  obtain ⟨t, rfl⟩ := exists_string h
  trivial

theorem areTextual_of_isString {items : List Json} (h : ∀ v ∈ items, isString v = true) :
    Json.AreTextual items := by
  induction items with
  | nil => trivial
  | cons v rest ih =>
    rw [List.forall_mem_cons] at h
    exact ⟨isTextual_of_isString h.1, ih h.2⟩

/-- A well-typed chunk holds no number, and the names in its object are distinct. -/
theorem isTextual_toJson {c : Chunk} (h : c.WellTyped) : c.toJson.IsTextual := by
  obtain ⟨hcontent, hkind, hdocs, hparents⟩ := h
  have docs : c.docs.IsTextual := by
    rcases string_or_null hdocs with ⟨t, ht⟩ | ht
    · rw [ht]
      trivial
    · rw [ht]
      trivial
  have inner : Json.IsTextual (.object [("docs", c.docs), ("parent", .array c.parents)]) :=
    ⟨(by decide : (["docs", "parent"] : List Text).Nodup), docs, areTextual_of_isString hparents, trivial⟩
  exact ⟨(by decide : (["content", "kind", "boundary"] : List Text).Nodup),
    isTextual_of_isString hcontent, isTextual_of_isString hkind, inner, trivial⟩

/-- The chunk of an entity is well typed. -/
theorem wellTyped_ofEntity (content kind : Text) (docs : Option Text) (parents : List Text) :
    (ofEntity content kind docs parents).WellTyped := by
  refine ⟨rfl, rfl, ?_, ?_⟩
  · cases docs with
    | none => rfl
    | some t => rfl
  · intro p hp
    obtain ⟨t, -, rfl⟩ := List.mem_map.1 hp
    rfl

end Chunk

/-- Extracted chunks are well typed. -/
theorem wellTyped_of_mem_extract {policy : Policy} {path : Path} {source : Text} {c : Chunk}
    (h : c ∈ extract policy path source) : c.WellTyped := by
  obtain ⟨e, -, rfl⟩ := exists_entity_of_mem_extract h
  exact Chunk.wellTyped_ofEntity _ _ _ _

namespace Payload

/-! ## As stored text -/

/-- Well-typed chunks are written as texts alone. -/
theorem areTextual_map_toJson {chunks : List Chunk} (h : ∀ c ∈ chunks, c.WellTyped) :
    Json.AreTextual (chunks.map Chunk.toJson) := by
  induction chunks with
  | nil => trivial
  | cons c rest ih =>
    rw [List.forall_mem_cons] at h
    exact ⟨Chunk.isTextual_toJson h.1, ih h.2⟩

/-- Pairs may be joined before chunks are written or after that. -/
theorem joinedItems_map_toJson (chunks : List Chunk) :
    Json.joinedItems (chunks.map Chunk.toJson) = (chunks.map Chunk.joined).map Chunk.toJson := by
  induction chunks with
  | nil => rfl
  | cons c rest ih =>
    rw [List.map_cons, Json.joinedItems, ih, Chunk.joined_toJson, List.map_cons, List.map_cons]

/-- Chunks that are written as values are read back. -/
theorem chunks_map_toJson (list : List Chunk) : chunks (list.map Chunk.toJson) = .ok list := by
  induction list with
  | nil => rfl
  | cons c rest ih =>
    rw [List.map_cons, chunks, Chunk.ofJson_toJson, ih]
    rfl

/-- Stored chunks are read back with the pairs in their strings joined. -/
theorem read_write {chunks : List Chunk} (h : ∀ c ∈ chunks, c.WellTyped) :
    read (write chunks) = .ok (chunks.map Chunk.joined) := by
  have textual : Json.IsTextual (.array (chunks.map Chunk.toJson)) := areTextual_map_toJson h
  rw [read, write, Json.read_write textual, Json.joined, joinedItems_map_toJson]
  exact chunks_map_toJson (chunks.map Chunk.joined)

/-- Stored chunks are read back as they were exactly if no string in them holds a pair. -/
theorem map_joined_eq_self_iff {chunks : List Chunk} (h : ∀ c ∈ chunks, c.WellTyped) :
    chunks.map Chunk.joined = chunks ↔ ∀ c ∈ chunks, c.PairFree := by
  have pointwise : chunks.map Chunk.joined = chunks.map id ↔ ∀ c ∈ chunks, c.joined = c := List.map_inj_left
  rw [List.map_id] at pointwise
  rw [pointwise]
  exact forall₂_congr fun c hc => Chunk.joined_eq_self_iff (h c hc)

end Payload

end SourceAtlas
