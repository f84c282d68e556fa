import SourceAtlas.Outline
import SourceAtlas.Proofs.Except
import SourceAtlas.Proofs.Payload

/-!
Which findings have an outline. A chunk can be shown if its content is a text and its documentation is one, is
blank, or is never looked at. One chunk that cannot be shown takes the outline from all of them. Well-typed chunks
can always be shown.

Main statements: `render_eq_ok_iff`, `exists_render`, `render_eq_nil_iff`.
-/

namespace SourceAtlas.Outline

variable (o : Outline)

/-- A chunk can be shown. Its content is searched and split into lines, and so must be a text. Its documentation
must be one as well, unless it is blank, or is left out and not searched since the content is what the query asks
for. -/
def CanShow (c : Chunk) : Prop :=
  ∃ content, c.content = .string content ∧ (c.docs.isBlank = true ∨ (∃ docs, c.docs = .string docs)
    ∨ o.compress = true ∧ ∀ r, o.query = some r → r.occursIn content = true)

/-- A well-typed chunk can be shown. -/
theorem canShow_of_wellTyped {c : Chunk} (h : c.WellTyped) : o.CanShow c := by
  obtain ⟨hcontent, -, hdocs, -⟩ := h
  obtain ⟨content, hcontent⟩ := Chunk.exists_string hcontent
  refine ⟨content, hcontent, ?_⟩
  rcases Chunk.string_or_null hdocs with hdocs | hdocs
  · exact .inr (.inl hdocs)
  -- documentation that is missing is blank
  · rw [hdocs]
    exact .inl rfl

/-! ## Selection -/

/-- Of a chunk that can be shown it can be said whether a query selects it. -/
theorem exists_selects {c : Chunk} (h : o.CanShow c) : ∃ keep, o.selects c = .ok keep := by
  obtain ⟨content, hcontent, hdocs⟩ := h
  unfold selects
  cases hquery : o.query with
  | none => exact ⟨true, rfl⟩
  | some r =>
    rw [hcontent]
    change ∃ keep, (if r.occursIn content then Except.ok true
      else if c.docs.isBlank then Except.ok false else found r c.docs) = Except.ok keep
    split
    · exact ⟨true, rfl⟩
    · next hoccurs =>
      rcases hdocs with hblank | ⟨docs, hdocs⟩ | ⟨-, hfound⟩
      · rw [if_pos hblank]
        exact ⟨false, rfl⟩
      · rw [hdocs]
        split
        · exact ⟨false, rfl⟩
        · exact ⟨r.occursIn docs, rfl⟩
      · exact absurd (hfound r hquery) hoccurs

/-- Of chunks that can be shown some are, in their order. -/
theorem exists_selected {chunks : List Chunk} (h : ∀ c ∈ chunks, o.CanShow c) :
    ∃ shown, o.selected chunks = .ok shown ∧ shown.Sublist chunks := by
  induction chunks with
  | nil => exact ⟨[], rfl, .refl _⟩
  | cons c rest ih =>
    rw [List.forall_mem_cons] at h
    obtain ⟨keep, hkeep⟩ := o.exists_selects h.1
    obtain ⟨shown, hshown, hsub⟩ := ih h.2
    rw [selected, hkeep, hshown]
    cases keep with
    | true => exact ⟨c :: shown, rfl, hsub.cons_cons c⟩
    | false => exact ⟨shown, rfl, hsub.cons c⟩

/-- Every chunk of a list has been asked about. -/
theorem exists_selects_of_selected {chunks shown : List Chunk} (h : o.selected chunks = .ok shown) :
    ∀ c ∈ chunks, ∃ keep, o.selects c = .ok keep := by
  induction chunks generalizing shown with
  | nil => exact List.forall_mem_nil _
  | cons c rest ih =>
    obtain ⟨keep, hkeep, h⟩ := bind_eq_ok_iff.1 h
    obtain ⟨more, hmore, -⟩ := bind_eq_ok_iff.1 h
    exact List.forall_mem_cons.2 ⟨⟨keep, hkeep⟩, ih hmore⟩

/-- The chunks to be shown are those that were selected. -/
theorem mem_selected_iff {chunks shown : List Chunk} (h : o.selected chunks = .ok shown) (c : Chunk) :
    c ∈ shown ↔ c ∈ chunks ∧ o.selects c = .ok true := by
  induction chunks generalizing shown with
  | nil =>
    obtain rfl := Except.ok.inj h
    simp
  | cons d rest ih =>
    obtain ⟨keep, hkeep, h⟩ := bind_eq_ok_iff.1 h
    obtain ⟨more, hmore, h⟩ := bind_eq_ok_iff.1 h
    obtain rfl := Except.ok.inj h
    rw [List.mem_cons, or_and_right, ← ih hmore]
    cases keep with
    | true =>
      rw [if_pos rfl, List.mem_cons]
      exact or_congr_left ⟨fun heq => ⟨heq, heq ▸ hkeep⟩, And.left⟩
    | false =>
      rw [if_neg Bool.false_ne_true]
      refine (or_iff_right ?_).symm
      rintro ⟨rfl, hselects⟩
      cases hkeep.symm.trans hselects

/-! ## Lines -/

/-- A chunk that can be shown has lines. -/
theorem exists_chunkLines {c : Chunk} (h : o.CanShow c) : ∃ lines, o.chunkLines c = .ok lines := by
  obtain ⟨content, hcontent, hdocs⟩ := h
  unfold chunkLines
  rw [hcontent]
  dsimp only [linesOf, bind, Except.bind]
  split
  · exact ⟨_, rfl⟩
  · next hshown =>
    rw [Bool.or_eq_true, not_or] at hshown
    rcases hdocs with hblank | ⟨docs, hdocs⟩ | ⟨hcompress, -⟩
    · exact absurd hblank hshown.2
    · rw [hdocs]
      exact ⟨_, rfl⟩
    · exact absurd hcompress hshown.1

/-- So have several. -/
theorem exists_chunksLines {chunks : List Chunk} (h : ∀ c ∈ chunks, o.CanShow c) :
    ∃ lines, o.chunksLines chunks = .ok lines := by
  induction chunks with
  | nil => exact ⟨[], rfl⟩
  | cons c rest ih =>
    rw [List.forall_mem_cons] at h
    obtain ⟨these, hthese⟩ := o.exists_chunkLines h.1
    obtain ⟨more, hmore⟩ := ih h.2
    rw [chunksLines, hthese, hmore]
    exact ⟨_, rfl⟩

/-- If chunks have lines, each of them has. -/
theorem chunkLines_of_chunksLines {chunks : List Chunk} {lines : List Text} (h : o.chunksLines chunks = .ok lines) :
    ∀ c ∈ chunks, ∃ these, o.chunkLines c = .ok these := by
  induction chunks generalizing lines with
  | nil => simp
  | cons c rest ih =>
    obtain ⟨these, hthese, h⟩ := bind_eq_ok_iff.1 h
    obtain ⟨more, hmore, -⟩ := bind_eq_ok_iff.1 h
    exact List.forall_mem_cons.2 ⟨⟨these, hthese⟩, ih hmore⟩

/-- What is a text has lines, and nothing else has. -/
theorem exists_string_of_linesOf {v : Json} {lines : List Text} (h : linesOf v = .ok lines) :
    ∃ t, v = .string t := by
  cases v with
  | string t => exact ⟨t, rfl⟩
  | _ => cases h

/-- A query looks for something in texts only. -/
theorem exists_string_of_found {r : Regex} {v : Json} {answer : Bool} (h : found r v = .ok answer) :
    ∃ t, v = .string t ∧ answer = r.occursIn t := by
  cases v with
  | string t => exact ⟨t, rfl, (Except.ok.inj h).symm⟩
  | _ => cases h

/-- The lines of a chunk are those of its documentation, unless this is left out, the first one of its content and, in
the full form, a marker if there are others. -/
theorem exists_of_chunkLines {c : Chunk} {lines : List Text} (h : o.chunkLines c = .ok lines) :
    ∃ content docs, linesOf c.content = .ok content
      ∧ (if o.compress || c.docs.isBlank then .ok [] else linesOf c.docs) = .ok docs
      ∧ lines = docLines (indentation c.depth) docs ++ (bar ++ indentation c.depth ++ content.headD [])
        :: (if !o.compress && 1 < content.length then [bar ++ indentation c.depth ++ "..."] else []) := by
  obtain ⟨content, hcontent, h⟩ := bind_eq_ok_iff.1 h
  dsimp only at h
  split at h
  · next hleft => exact ⟨content, [], hcontent, if_pos hleft, (Except.ok.inj h).symm⟩
  · next hshown =>
    obtain ⟨docs, hdocs, h⟩ := bind_eq_ok_iff.1 h
    exact ⟨content, docs, hcontent, (if_neg hshown).trans hdocs, (Except.ok.inj h).symm⟩

/-- The lines of a chunk tell its content and its documentation, if that is not left out. -/
theorem texts_of_chunkLines {c : Chunk} {lines : List Text} (h : o.chunkLines c = .ok lines) :
    (∃ content, c.content = .string content)
      ∧ (c.docs.isBlank = true ∨ (∃ docs, c.docs = .string docs) ∨ o.compress = true) := by
  obtain ⟨content, docs, hcontent, hdocs, -⟩ := o.exists_of_chunkLines h
  refine ⟨exists_string_of_linesOf hcontent, ?_⟩
  split at hdocs
  · next hleft => exact (Bool.or_eq_true_iff.1 hleft).elim (fun hcompress => .inr (.inr hcompress)) .inl
  · exact .inr (.inl (exists_string_of_linesOf hdocs))

/-- A chunk can be shown if it can be asked about, and told if it is chosen. -/
theorem canShow_of_selects {c : Chunk} {keep : Bool} (hkeep : o.selects c = .ok keep)
    (hlines : keep = true → ∃ lines, o.chunkLines c = .ok lines) : o.CanShow c := by
  unfold selects at hkeep
  cases hquery : o.query with
  | none =>
    rw [hquery] at hkeep
    obtain rfl := Except.ok.inj hkeep
    obtain ⟨lines, hlines⟩ := hlines rfl
    obtain ⟨⟨content, hcontent⟩, hdocs⟩ := o.texts_of_chunkLines hlines
    exact ⟨content, hcontent, hdocs.imp_right fun h => h.imp_right fun hcompress => ⟨hcompress, by simp [hquery]⟩⟩
  | some r =>
    rw [hquery] at hkeep
    obtain ⟨answer, hfound, hkeep⟩ := bind_eq_ok_iff.1 hkeep
    obtain ⟨content, hcontent, rfl⟩ := exists_string_of_found hfound
    refine ⟨content, hcontent, ?_⟩
    split at hkeep
    · next hoccurs =>
      obtain rfl := Except.ok.inj hkeep
      obtain ⟨lines, hlines⟩ := hlines rfl
      obtain ⟨-, hdocs⟩ := o.texts_of_chunkLines hlines
      refine hdocs.imp_right fun h => h.imp_right fun hcompress => ⟨hcompress, fun other hother => ?_⟩
      rw [hquery] at hother
      rw [← Option.some.inj hother]
      exact hoccurs
    · split at hkeep
      · next hblank => exact .inl hblank
      · obtain ⟨docs, hdocs, -⟩ := exists_string_of_found hkeep
        exact .inr (.inl ⟨docs, hdocs⟩)

/-! ## Files -/

/-- A file whose chunks can be shown has lines. -/
theorem exists_fileLines {file : Text × List Chunk} (h : ∀ c ∈ file.2, o.CanShow c) :
    ∃ lines, o.fileLines file = .ok lines := by
  obtain ⟨shown, hshown, hsub⟩ := o.exists_selected h
  obtain ⟨lines, hlines⟩ := o.exists_chunksLines fun c hc => h c (hsub.subset hc)
  unfold fileLines
  rw [hshown]
  dsimp only [bind, Except.bind]
  split
  · exact ⟨[], rfl⟩
  · rw [hlines]
    exact ⟨_, rfl⟩

/-- If a file has lines, its chunks can be shown. -/
theorem canShow_of_fileLines {file : Text × List Chunk} {lines : List Text} (h : o.fileLines file = .ok lines) :
    ∀ c ∈ file.2, o.CanShow c := by
  intro c hc
  obtain ⟨shown, hshown, h⟩ := bind_eq_ok_iff.1 h
  obtain ⟨keep, hkeep⟩ := o.exists_selects_of_selected hshown c hc
  refine o.canShow_of_selects hkeep fun hkept => ?_
  have hmem : c ∈ shown := (o.mem_selected_iff hshown c).2 ⟨hc, hkept ▸ hkeep⟩
  split at h
  · next hnone => exact absurd hmem (List.isEmpty_iff.1 hnone ▸ List.not_mem_nil)
  · obtain ⟨these, hthese, -⟩ := bind_eq_ok_iff.1 h
    exact o.chunkLines_of_chunksLines hthese c hmem

/-- There are lines just if every chunk can be shown. -/
theorem lines_eq_ok_iff {findings : Findings} :
    (∃ lines, o.lines findings = .ok lines) ↔ ∀ file ∈ findings, ∀ c ∈ file.2, o.CanShow c := by
  induction findings with
  | nil =>
    constructor
    · intro _
      exact List.forall_mem_nil _
    · intro _
      exact ⟨[], rfl⟩
  | cons file rest ih =>
    rw [List.forall_mem_cons, ← ih]
    constructor
    · rintro ⟨lines, h⟩
      obtain ⟨these, hthese, h⟩ := bind_eq_ok_iff.1 h
      obtain ⟨more, hmore, -⟩ := bind_eq_ok_iff.1 h
      exact ⟨o.canShow_of_fileLines hthese, more, hmore⟩
    · rintro ⟨hfile, more, hmore⟩
      obtain ⟨these, hthese⟩ := o.exists_fileLines hfile
      rw [Outline.lines, hthese, hmore]
      exact ⟨_, rfl⟩

/-- Findings have an outline if and only if every chunk in them can be shown. -/
theorem render_eq_ok_iff {findings : Findings} :
    (∃ text, o.render findings = .ok text) ↔ ∀ file ∈ findings, ∀ c ∈ file.2, o.CanShow c := by
  rw [← lines_eq_ok_iff]
  constructor
  · rintro ⟨text, h⟩
    obtain ⟨lines, hlines, -⟩ := map_eq_ok_iff.1 h
    exact ⟨lines, hlines⟩
  · rintro ⟨lines, hlines⟩
    exact ⟨_, map_eq_ok_iff.2 ⟨lines, hlines, rfl⟩⟩

/-- Findings of well-typed chunks have an outline. -/
theorem exists_render {findings : Findings} (h : ∀ file ∈ findings, ∀ c ∈ file.2, c.WellTyped) :
    ∃ text, o.render findings = .ok text :=
  o.render_eq_ok_iff.2 fun file hfile c hc => o.canShow_of_wellTyped (h file hfile c hc)

/-! ## Empty outlines -/

/-- A file without chunks to show has no lines, and any other begins with a blank line and a header. -/
theorem fileLines_spec {file : Text × List Chunk} {lines : List Text} (h : o.fileLines file = .ok lines) :
    lines = [] ∧ (∀ c ∈ file.2, o.selects c ≠ .ok true)
      ∨ (∃ header rest, lines = [] :: header :: rest) ∧ ∃ c ∈ file.2, o.selects c = .ok true := by
  obtain ⟨shown, hshown, h⟩ := bind_eq_ok_iff.1 h
  have chosen := o.mem_selected_iff hshown
  split at h
  · next hnone =>
    rw [List.isEmpty_iff] at hnone
    subst hnone
    exact .inl ⟨(Except.ok.inj h).symm, fun c hc hselects => List.not_mem_nil ((chosen c).2 ⟨hc, hselects⟩)⟩
  · next hsome =>
    obtain ⟨these, -, h⟩ := bind_eq_ok_iff.1 h
    obtain ⟨c, hc⟩ := List.exists_mem_of_ne_nil shown (by simpa using hsome)
    obtain ⟨hmem, hselects⟩ := (chosen c).1 hc
    exact .inr ⟨⟨_, _, (Except.ok.inj h).symm⟩, c, hmem, hselects⟩

/-- There are no lines just if no chunk is selected. -/
theorem lines_spec {findings : Findings} {lines : List Text} (h : o.lines findings = .ok lines) :
    lines = [] ∧ (∀ file ∈ findings, ∀ c ∈ file.2, o.selects c ≠ .ok true)
      ∨ (∃ header rest, lines = [] :: header :: rest) ∧ ∃ file ∈ findings, ∃ c ∈ file.2, o.selects c = .ok true := by
  induction findings generalizing lines with
  | nil => exact .inl ⟨(Except.ok.inj h).symm, List.forall_mem_nil _⟩
  | cons file rest ih =>
    obtain ⟨these, hthese, h⟩ := bind_eq_ok_iff.1 h
    obtain ⟨more, hmore, h⟩ := bind_eq_ok_iff.1 h
    obtain rfl := Except.ok.inj h
    rcases o.fileLines_spec hthese with ⟨rfl, hnone⟩ | ⟨⟨header, tail, rfl⟩, hsome⟩
    · rcases ih hmore with ⟨rfl, hrest⟩ | ⟨hlines, other, hother, hsome⟩
      · exact .inl ⟨rfl, List.forall_mem_cons.2 ⟨hnone, hrest⟩⟩
      · exact .inr ⟨hlines, other, List.mem_cons_of_mem file hother, hsome⟩
    · exact .inr ⟨⟨header, _, rfl⟩, file, List.mem_cons_self, hsome⟩

/-- An outline is empty just if it shows no chunk. -/
theorem render_eq_nil_iff {findings : Findings} {t : Text} (h : o.render findings = .ok t) :
    t = [] ↔ ∀ file ∈ findings, ∀ c ∈ file.2, o.selects c ≠ .ok true := by
  obtain ⟨lines, hlines, rfl⟩ := map_eq_ok_iff.1 h
  rcases o.lines_spec hlines with ⟨rfl, hnone⟩ | ⟨⟨header, rest, rfl⟩, file, hfile, c, hc, hselects⟩
  · exact iff_of_true rfl hnone
  · refine iff_of_false ?_ fun hnone => hnone file hfile c hc hselects
    simp [Text.join]

end SourceAtlas.Outline
