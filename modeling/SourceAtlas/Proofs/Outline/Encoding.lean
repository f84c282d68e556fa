import SourceAtlas.Proofs.Outline
import SourceAtlas.Proofs.Text.Encodable

/-!
Which outlines can be encoded. An outline is made of the names of files, the first lines of contents and the lines of
documentation; all else in it is ASCII. If the contents can be encoded, as those of real sources can, then what keeps
an outline from it is a name or documentation, and only where it is shown: an outline leaves out what its query does
not select, and documentation if it is to be compressed.

Main statement: `isEncodable_render_iff`.
-/

namespace SourceAtlas

/-- The text of a value that is a string can be encoded. -/
def Json.HoldsEncodable (v : Json) : Prop := ∀ t ∈ Chunk.textsOf v, t.IsEncodable

instance (v : Json) : Decidable v.HoldsEncodable := by unfold Json.HoldsEncodable; infer_instance

@[simp] theorem Json.holdsEncodable_string {t : Text} : (Json.string t).HoldsEncodable ↔ t.IsEncodable :=
  List.forall_mem_singleton

/-- What is blank holds nothing that could not be encoded. -/
theorem Json.holdsEncodable_of_isBlank {v : Json} (h : v.isBlank = true) : v.HoldsEncodable := by
  cases v with
  | string t =>
    obtain rfl : t = [] := List.isEmpty_iff.1 h
    simp
  | _ => nofun

namespace Outline

variable (o : Outline)

/-! ## Lines -/

theorem isEncodable_bar : bar.IsEncodable := by decide

/-- An indentation can be encoded. -/
theorem isEncodable_indentation (depth : Nat) : (indentation depth).IsEncodable :=
  Text.isEncodable_times depth (by decide)

/-- The first of lines that can be encoded can be. -/
theorem isEncodable_headD {lines : List Text} (h : ∀ line ∈ lines, line.IsEncodable) :
    (lines.headD []).IsEncodable := by
  cases lines with
  | nil => exact Text.isEncodable_nil
  | cons first rest => exact h first List.mem_cons_self

/-- What is put before documentation can be encoded. -/
theorem isEncodable_docLines {indent : Text} (hindent : indent.IsEncodable) {lines : List Text} :
    (∀ line ∈ docLines indent lines, line.IsEncodable) ↔ ∀ line ∈ lines, line.IsEncodable := by
  cases lines with
  | nil => rfl
  | cons first rest =>
    simp [docLines, isEncodable_bar, hindent]

/-- The lines of a chunk whose content can be encoded can be if its documentation can, or is left out. -/
theorem isEncodable_chunkLines_iff {c : Chunk} (hcontent : c.content.HoldsEncodable) {lines : List Text}
    (h : o.chunkLines c = .ok lines) :
    (∀ line ∈ lines, line.IsEncodable) ↔ o.compress = true ∨ c.docs.HoldsEncodable := by
  obtain ⟨content, docs, hlines, hdocs, rfl⟩ := o.exists_of_chunkLines h
  obtain ⟨source, hsource⟩ := exists_string_of_linesOf hlines
  have first : (content.headD []).IsEncodable := by
    rw [hsource] at hlines hcontent
    obtain rfl := Except.ok.inj hlines
    exact isEncodable_headD ((Text.isEncodable_split (by decide)).2 (Json.holdsEncodable_string.1 hcontent))
  have indent := isEncodable_indentation c.depth
  have dots : Text.IsEncodable "..." := by decide
  -- only the lines of the documentation are left to be asked about
  have frame : (∀ line ∈ docLines (indentation c.depth) docs ++ (bar ++ indentation c.depth ++ content.headD [])
        :: (if !o.compress && 1 < content.length then [bar ++ indentation c.depth ++ "..."] else []),
      line.IsEncodable) ↔ ∀ line ∈ docs, line.IsEncodable := by
    rw [List.forall_mem_append, List.forall_mem_cons, isEncodable_docLines indent]
    have front : (bar ++ indentation c.depth).IsEncodable := Text.isEncodable_append.2 ⟨isEncodable_bar, indent⟩
    refine and_iff_left ⟨Text.isEncodable_append.2 ⟨front, first⟩, ?_⟩
    split
    · exact List.forall_mem_singleton.2 (Text.isEncodable_append.2 ⟨front, dots⟩)
    · exact List.forall_mem_nil _
  refine frame.trans ?_
  split at hdocs
  · next hleft =>
    obtain rfl := Except.ok.inj hdocs
    rw [Bool.or_eq_true] at hleft
    exact iff_of_true (List.forall_mem_nil _) (hleft.imp_right Json.holdsEncodable_of_isBlank)
  · next hshown =>
    obtain ⟨t, ht⟩ := exists_string_of_linesOf hdocs
    rw [ht] at hdocs ⊢
    obtain rfl := Except.ok.inj hdocs
    rw [Bool.or_eq_true, not_or] at hshown
    rw [Text.isEncodable_split (by decide), Json.holdsEncodable_string, or_iff_right hshown.1]

/-- The lines of chunks can be encoded just if the docs that are shown can. -/
theorem isEncodable_chunksLines_iff {chunks : List Chunk} (hcontents : ∀ c ∈ chunks, c.content.HoldsEncodable)
    {lines : List Text} (h : o.chunksLines chunks = .ok lines) :
    (∀ line ∈ lines, line.IsEncodable) ↔ ∀ c ∈ chunks, o.compress = true ∨ c.docs.HoldsEncodable := by
  induction chunks generalizing lines with
  | nil =>
    obtain rfl := Except.ok.inj h
    exact iff_of_true (List.forall_mem_nil _) (List.forall_mem_nil _)
  | cons c rest ih =>
    obtain ⟨these, hthese, h⟩ := bind_eq_ok_iff.1 h
    obtain ⟨more, hmore, h⟩ := bind_eq_ok_iff.1 h
    obtain rfl := Except.ok.inj h
    rw [List.forall_mem_cons] at hcontents
    rw [List.forall_mem_append, List.forall_mem_cons, o.isEncodable_chunkLines_iff hcontents.1 hthese,
      ih hcontents.2 hmore]

/-! ## Files -/

/-- What an outline shows of a file, apart from contents, can be encoded: its name, once it shows a chunk, and the
documentation of every chunk that it shows, unless this is left out. -/
def ShowsEncodable (file : Text × List Chunk) : Prop := ∀ c ∈ file.2, o.selects c = .ok true →
  file.1.IsEncodable ∧ (o.compress = true ∨ c.docs.HoldsEncodable)

/-- The lines of a file can be encoded just if its name and its docs can, as far as they are shown. -/
theorem isEncodable_fileLines_iff {file : Text × List Chunk} (hcontents : ∀ c ∈ file.2, c.content.HoldsEncodable)
    {lines : List Text} (h : o.fileLines file = .ok lines) :
    (∀ line ∈ lines, line.IsEncodable) ↔ o.ShowsEncodable file := by
  obtain ⟨shown, hshown, h⟩ := bind_eq_ok_iff.1 h
  have selected := o.mem_selected_iff hshown
  split at h
  · next hnone =>
    obtain rfl := Except.ok.inj h
    obtain rfl := List.isEmpty_iff.1 hnone
    refine iff_of_true (List.forall_mem_nil _) fun c hc hselects => ?_
    exact absurd ((selected c).2 ⟨hc, hselects⟩) List.not_mem_nil
  · next hsome =>
    obtain ⟨these, hthese, h⟩ := bind_eq_ok_iff.1 h
    obtain rfl := Except.ok.inj h
    have chunks := o.isEncodable_chunksLines_iff (fun c hc => hcontents c ((selected c).1 hc).1) hthese
    have colon : Text.IsEncodable ":" := by decide
    have dots : Text.IsEncodable (bar ++ "...") := by decide
    have marker : ∀ line ∈ if o.compress then [] else [bar ++ "..."], line.IsEncodable := by
      split
      · exact List.forall_mem_nil _
      · exact List.forall_mem_singleton.2 dots
    rw [List.forall_mem_append, List.forall_mem_append, chunks, List.forall_mem_cons, List.forall_mem_singleton,
      Text.isEncodable_append]
    constructor
    · rintro ⟨⟨⟨-, hname, -⟩, -⟩, hdocs⟩ c hc hselects
      exact ⟨hname, hdocs c ((selected c).2 ⟨hc, hselects⟩)⟩
    · intro hshows
      have each : ∀ c ∈ shown, file.1.IsEncodable ∧ (o.compress = true ∨ c.docs.HoldsEncodable) := by
        intro c hc
        obtain ⟨hmem, hselects⟩ := (selected c).1 hc
        exact hshows c hmem hselects
      obtain ⟨first, hfirst⟩ := List.exists_mem_of_ne_nil shown (mt List.isEmpty_iff.2 hsome)
      exact ⟨⟨⟨Text.isEncodable_nil, (each first hfirst).1, colon⟩, marker⟩, fun c hc => (each c hc).2⟩

/-- So it is with the lines of all files. -/
theorem isEncodable_lines_iff {findings : Findings}
    (hcontents : ∀ file ∈ findings, ∀ c ∈ file.2, c.content.HoldsEncodable) {lines : List Text}
    (h : o.lines findings = .ok lines) :
    (∀ line ∈ lines, line.IsEncodable) ↔ ∀ file ∈ findings, o.ShowsEncodable file := by
  induction findings generalizing lines with
  | nil =>
    obtain rfl := Except.ok.inj h
    exact iff_of_true (List.forall_mem_nil _) (List.forall_mem_nil _)
  | cons file rest ih =>
    obtain ⟨these, hthese, h⟩ := bind_eq_ok_iff.1 h
    obtain ⟨more, hmore, h⟩ := bind_eq_ok_iff.1 h
    obtain rfl := Except.ok.inj h
    rw [List.forall_mem_cons] at hcontents
    rw [List.forall_mem_append, List.forall_mem_cons, o.isEncodable_fileLines_iff hcontents.1 hthese,
      ih hcontents.2 hmore]

/-- An outline of chunks whose contents can be encoded can be encoded exactly if the names and the documentation that
it shows can. -/
theorem isEncodable_render_iff {findings : Findings}
    (hcontents : ∀ file ∈ findings, ∀ c ∈ file.2, c.content.HoldsEncodable) {t : Text}
    (h : o.render findings = .ok t) : t.IsEncodable ↔ ∀ file ∈ findings, o.ShowsEncodable file := by
  obtain ⟨lines, hlines, rfl⟩ := map_eq_ok_iff.1 h
  have lineBreak : Text.IsEncodable ['\n'] := by decide
  rw [Text.isEncodable_join lineBreak, o.isEncodable_lines_iff hcontents hlines]

end Outline

end SourceAtlas
