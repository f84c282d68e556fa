import SourceAtlas.Proofs.Json.Ascii
import SourceAtlas.Proofs.Store.Table
import SourceAtlas.Proofs.Text.Spelling

/-!
Storing chunks and finding them again. Whatever the strings of well-typed chunks hold, the row that is stored for
them can be encoded, since the payload is ASCII; and the chunks are found again with the pairs of surrogates in
their strings joined, which leaves them alone if there are none.

Main statement: `get_put_codec`.
-/

namespace SourceAtlas

/-- A stored form has no surrogates. -/
theorem Store.isSurrogate_of_mem_storageKey {path : Text} {c : CodePoint} (h : c ∈ storageKey path) :
    c.isSurrogate = false := by
  rw [storageKey, Utf8.spellSurrogates_eq, List.mem_flatMap] at h
  obtain ⟨d, -, hc⟩ := h
  exact Utf8.isSurrogate_of_mem_spellOne hc

theorem Payload.isAscii_write {chunks : List Chunk} (h : ∀ c ∈ chunks, c.WellTyped) : (write chunks).IsAscii := by
  have htextual : Json.IsTextual (.array (chunks.map Chunk.toJson)) := areTextual_map_toJson h
  exact Json.isAscii_write _ htextual

/-- All texts of a row can be encoded, so the row can be stored. -/
def Row.Encodable (row : Row) : Prop :=
  ∀ t ∈ [row.key, row.fingerprint, row.payload], ∃ bytes, Utf8.encode t = .ok bytes

namespace Store

/-- What has been put can be stored, as ASCII whatever the strings in it are, and is found again under its
fingerprint, chunk by chunk: with the pairs of surrogates joined, so unchanged exactly if no string holds a pair. -/
theorem get_put_codec (s : Store) (key fingerprint : Text) (chunks : List Chunk)
    (hchunks : ∀ c ∈ chunks, c.WellTyped) (hfingerprint : ∀ c ∈ fingerprint, c.isSurrogate = false) :
    (s.put key fingerprint chunks).get key = .entry fingerprint (chunks.map Chunk.joined)
    ∧ (chunks.map Chunk.joined = chunks ↔ ∀ c ∈ chunks, c.PairFree)
    ∧ ∃ row, (s.put key fingerprint chunks).row? (storageKey key) = some row ∧ row.payload.IsAscii
      ∧ row.Encodable := by
  have hascii := Payload.isAscii_write hchunks
  refine ⟨get_put_self s key fingerprint hchunks, Payload.map_joined_eq_self_iff hchunks, _,
    row?_put_self s key fingerprint chunks, hascii, ?_⟩
  intro t ht
  rcases (by simpa using ht : t = storageKey key ∨ t = fingerprint ∨ t = Payload.write chunks) with rfl | rfl | rfl
  · exact Utf8.exists_encode_iff.2 fun c hc => isSurrogate_of_mem_storageKey hc
  · exact Utf8.exists_encode_iff.2 hfingerprint
  · exact hascii.exists_encode

/-- A chunk with quotes, a backslash, a control character, a pair of surrogates, surrogates on their own and a
supplementary character. -/
def mixedChunk : Chunk :=
  ⟨.string ['"', '\\', '\n', '\x01', CodePoint.ofNat 0xD83D, CodePoint.ofNat 0xDE00, CodePoint.ofNat 0xD83D],
    .string "function", .null, [.string [CodePoint.ofNat 0xDC00, CodePoint.ofNat 0x1F600]]⟩

theorem get_put_codec_mixedChunk :
    (∀ c ∈ [mixedChunk], c.WellTyped) ∧ (∀ c ∈ ("0f" : Text), c.isSurrogate = false)
    ∧ (empty.put "/a.py" "0f" [mixedChunk]).get "/a.py" = .entry "0f" [mixedChunk.joined]
    ∧ mixedChunk.joined.content
      = .string ['"', '\\', '\n', '\x01', CodePoint.ofNat 0x1F600, CodePoint.ofNat 0xD83D] := by
  have hchunks : ∀ c ∈ [mixedChunk], c.WellTyped := by decide
  have hfingerprint : ∀ c ∈ ("0f" : Text), c.isSurrogate = false := by simp [Text.ofString]; decide
  exact ⟨hchunks, hfingerprint, (get_put_codec empty "/a.py" "0f" [mixedChunk] hchunks hfingerprint).1, rfl⟩

end Store

end SourceAtlas
