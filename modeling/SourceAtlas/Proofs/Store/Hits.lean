import SourceAtlas.Proofs.Outline
import SourceAtlas.Proofs.Payload.Shape
import SourceAtlas.Proofs.Store.Table

/-!
Hits, and what becomes of them. The chunks of a hit are what its row's payload reads as, and no types are asked for
there. So a hit need not have an outline: it has one in every form if the payload has the types of chunks, as all
that a store has been given has, and in general if the contents and the documentation in it are texts.

Main statements: `lookup_by_shape`, `row?_put_isTyped`.
-/

namespace SourceAtlas

/-- What an outline tells of a chunk is text: its content, and its documentation unless that is blank. -/
def Chunk.TellsText (c : Chunk) : Prop :=
  isString c.content = true ∧ (c.docs.isBlank = true ∨ isString c.docs = true)

namespace Outline

/-- A chunk can be shown in every form if and only if all that is told of it is text. -/
theorem forall_canShow_iff {c : Chunk} : (∀ o : Outline, o.CanShow c) ↔ c.TellsText := by
  constructor
  -- the full outline without a query leaves nothing out
  · intro h
    obtain ⟨content, hcontent, hdocs⟩ := h ⟨none, false⟩
    refine ⟨by rw [hcontent]; rfl, ?_⟩
    rcases hdocs with hblank | ⟨docs, hdocs⟩ | ⟨hcompress, -⟩
    · exact .inl hblank
    · exact .inr (by rw [hdocs]; rfl)
    · cases hcompress
  · rintro ⟨hcontent, hdocs⟩ o
    obtain ⟨content, hcontent⟩ := Chunk.exists_string hcontent
    exact ⟨content, hcontent, hdocs.imp_right fun h => .inl (Chunk.exists_string h)⟩

/-- The chunks of a file have an outline in every form if and only if all that is told of them is text. -/
theorem forall_exists_render_iff {chunks : List Chunk} :
    (∀ (o : Outline) (file : Text), ∃ text, o.render [(file, chunks)] = .ok text)
      ↔ ∀ c ∈ chunks, c.TellsText := by
  simp only [render_eq_ok_iff, List.forall_mem_singleton, ← forall_canShow_iff]
  exact ⟨fun h c hc o => h o [] c hc, fun h o _ c hc => h c hc o⟩

end Outline

theorem Chunk.WellTyped.tellsText {c : Chunk} (h : c.WellTyped) : c.TellsText :=
  Outline.forall_canShow_iff.1 fun o => o.canShow_of_wellTyped h

namespace Store

/-- A hit is a row under the fingerprint that was asked for, whose payload can be read. -/
theorem lookup_eq_some_iff {s : Store} {path fingerprint : Text} {chunks : List Chunk} :
    s.lookup path fingerprint = some chunks
      ↔ ∃ payload, s.row? (storageKey path) = some ⟨storageKey path, fingerprint, payload⟩
        ∧ Payload.read payload = .ok chunks := by
  rw [← get_eq_entry_iff, lookup]
  cases s.get path with
  | missing => exact ⟨nofun, nofun⟩
  | unreadable payload fault => exact ⟨nofun, nofun⟩
  | entry own found =>
    rw [Finding.chunksFor?, Finding.entry.injEq]
    by_cases h : own = fingerprint
    · rw [if_pos h, Option.some.injEq, and_iff_right h]
    · rw [if_neg h]
      exact ⟨nofun, fun both => absurd both.1 h⟩

/-- Which payloads are hits, and which hits have an outline. Every array of objects with the types of chunks is a
hit with an outline in every form. But so that a payload is a hit it is enough that its objects have contents of
any type, and then there may be no outline. -/
theorem lookup_by_shape (s : Store) (path fingerprint : Text) :
    (∀ chunks, s.lookup path fingerprint = some chunks ↔ ∃ payload v items,
      s.row? (storageKey path) = some ⟨storageKey path, fingerprint, payload⟩ ∧ Json.read payload = .ok v
      ∧ Payload.HasItems v items ∧ List.Forall₂ Chunk.ReadsAs items chunks)
    ∧ (∀ payload v, s.row? (storageKey path) = some ⟨storageKey path, fingerprint, payload⟩ →
      Json.read payload = .ok v → Payload.IsTyped v →
      ∃ chunks, s.lookup path fingerprint = some chunks ∧ (∀ c ∈ chunks, c.WellTyped)
        ∧ ∀ (o : Outline) (file : Text), ∃ text, o.render [(file, chunks)] = .ok text)
    ∧ ∀ chunks, s.lookup path fingerprint = some chunks →
      ((∀ (o : Outline) (file : Text), ∃ text, o.render [(file, chunks)] = .ok text)
        ↔ ∀ c ∈ chunks, c.TellsText) := by
  refine ⟨fun chunks => ?_, fun payload v hrow hread htyped => ?_, fun _ _ => Outline.forall_exists_render_iff⟩
  · rw [lookup_eq_some_iff]
    simp only [Payload.read_eq_ok_iff, exists_and_left]
  · obtain ⟨chunks, hchunks, hwell⟩ := htyped.exists_read hread
    refine ⟨chunks, lookup_eq_some_iff.2 ⟨payload, hrow, hchunks⟩, hwell, ?_⟩
    exact Outline.forall_exists_render_iff.2 fun c hc => (hwell c hc).tellsText

/-- An object that is read as a chunk and has no other member than this content. -/
def holding (content : Json) : Json := .object [("content", content)]

/-- The store with a row of one such object. -/
def storeHolding (content : Json) : Store :=
  empty.insert ⟨"/x.py", "0f", Json.write (.array [holding content])⟩

theorem lookup_by_shape_holding :
    ((storeHolding .null).lookup "/x.py" "0f" = some [⟨.null, .string [], .null, []⟩]
      ∧ ¬ ∀ (o : Outline) (file : Text), ∃ text, o.render [(file, [⟨.null, .string [], .null, []⟩])] = .ok text)
    ∧ ∃ chunks, (storeHolding (.string "a")).lookup "/x.py" "0f" = some chunks
      ∧ ∀ (o : Outline) (file : Text), ∃ text, o.render [(file, chunks)] = .ok text := by
  have textual {v : Json} (h : v.IsTextual) : (Json.array [holding v]).IsTextual :=
    ⟨⟨(by decide : (["content"] : List Text).Nodup), h, trivial⟩, trivial⟩
  constructor
  · obtain ⟨hits, -, outlines⟩ := lookup_by_shape (storeHolding .null) "/x.py" "0f"
    have hit := (hits [⟨.null, .string [], .null, []⟩]).2 ⟨_, .array [holding .null], [holding .null], rfl,
      Json.read_write (textual trivial), .array _, .cons (.intro rfl (.blank rfl) (.blank rfl)) .nil⟩
    refine ⟨hit, fun h => ?_⟩
    obtain ⟨hcontent, -⟩ := (outlines _ hit).1 h _ List.mem_cons_self
    cases hcontent
  · obtain ⟨-, typed, -⟩ := lookup_by_shape (storeHolding (.string "a")) "/x.py" "0f"
    have types : Payload.IsTyped (.array [holding (.string "a")]) :=
      ⟨_, rfl, List.forall_mem_singleton.2 (@Chunk.IsTyped.intro _ [] "a" rfl nofun (.blank rfl) nofun nofun)⟩
    obtain ⟨chunks, hit, -, outlines⟩ := typed _ _ rfl (Json.read_write (textual (v := .string "a") trivial)) types
    exact ⟨chunks, hit, outlines⟩

/-- What has been put under a path is there as an array of objects with the types of chunks. -/
theorem row?_put_isTyped (s : Store) (path fingerprint : Text) {chunks : List Chunk}
    (h : ∀ c ∈ chunks, c.WellTyped) :
    ∃ payload v, (s.put path fingerprint chunks).row? (storageKey path)
        = some ⟨storageKey path, fingerprint, payload⟩
      ∧ Json.read payload = .ok v ∧ Payload.IsTyped v := by
  obtain ⟨v, hread, htyped⟩ := Payload.exists_isTyped_write h
  exact ⟨_, v, row?_put_self s path fingerprint chunks, hread, htyped⟩

end Store

end SourceAtlas
