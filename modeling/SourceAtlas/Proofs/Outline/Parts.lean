import SourceAtlas.Proofs.Outline

/-!
What a query and the short form take from an outline. A query takes chunks, and files of which it leaves none. The
short form takes lines, by what they are for: it keeps the headers and one line for each chunk, and leaves out the rest.

Main statement: `render_only_removes`.
-/

namespace SourceAtlas.Outline

/-! ## What a query leaves -/

/-- Does an expression find a chunk? It is looked for in the content, and in documentation that is not empty. -/
def finds (r : Regex) (c : Chunk) : Bool :=
  (Chunk.textsOf c.content).any r.occursIn || (Chunk.textsOf c.docs).any fun t => !t.isEmpty && r.occursIn t

/-- A file with the chunks that an expression finds. -/
def narrowed (r : Regex) (file : Text × List Chunk) : Text × List Chunk := (file.1, file.2.filter (finds r))

/-- The findings that an expression leaves: the chunks that it finds, in the files that have any. -/
def restrictedTo (r : Regex) (findings : Findings) : Findings :=
  (findings.map (narrowed r)).filter fun file => !file.2.isEmpty

variable {r : Regex} {query : Option Regex} {compress : Bool} {findings : Findings}

/-- Of well-typed chunks a query selects those in which it finds something. -/
theorem selects_some {c : Chunk} (h : c.WellTyped) :
    (⟨some r, compress⟩ : Outline).selects c = .ok (finds r c) := by
  obtain ⟨content, kind, docs, parents⟩ := c
  obtain ⟨hcontent, -, hdocs, -⟩ := h
  obtain ⟨content, rfl⟩ := Chunk.exists_string hcontent
  unfold selects finds
  dsimp only [found, Chunk.textsOf, bind, Except.bind]
  cases hoccurs : r.occursIn content with
  | true => simp [hoccurs, pure, Except.pure]
  | false =>
    rcases Chunk.string_or_null hdocs with ⟨docs, rfl⟩ | rfl
    · cases docs with
      | nil => simp [hoccurs, Json.isBlank, pure, Except.pure]
      | cons d rest => simp [hoccurs, Json.isBlank]
    · simp [hoccurs, Json.isBlank, pure, Except.pure]

theorem selected_some {chunks : List Chunk} (h : ∀ c ∈ chunks, c.WellTyped) :
    (⟨some r, compress⟩ : Outline).selected chunks = .ok (chunks.filter (finds r)) := by
  induction chunks with
  | nil => rfl
  | cons c rest ih =>
    rw [List.forall_mem_cons] at h
    rw [selected, selects_some h.1, ih h.2, List.filter_cons]
    rfl

/-- Without a query all chunks are selected. -/
theorem selected_none (chunks : List Chunk) : (⟨none, compress⟩ : Outline).selected chunks = .ok chunks := by
  induction chunks with
  | nil => rfl
  | cons c rest ih =>
    rw [selected, ih]
    rfl

/-- A query does not change the lines of chunks. -/
theorem chunksLines_eq_none (chunks : List Chunk) :
    (⟨query, compress⟩ : Outline).chunksLines chunks = (⟨none, compress⟩ : Outline).chunksLines chunks := by
  induction chunks with
  | nil => rfl
  | cons c rest ih =>
    rw [chunksLines, ih]
    rfl

/-- A file under a query has the lines of what the query leaves of it. -/
theorem fileLines_narrowed {file : Text × List Chunk} (h : ∀ c ∈ file.2, c.WellTyped) :
    (⟨some r, compress⟩ : Outline).fileLines file
      = (⟨none, compress⟩ : Outline).fileLines (narrowed r file) := by
  unfold fileLines
  rw [selected_some h, selected_none]
  dsimp only [bind, Except.bind, narrowed]
  rw [chunksLines_eq_none]

/-- So have all files. -/
theorem lines_narrowed (h : ∀ file ∈ findings, ∀ c ∈ file.2, c.WellTyped) :
    (⟨some r, compress⟩ : Outline).lines findings
      = (⟨none, compress⟩ : Outline).lines (findings.map (narrowed r)) := by
  induction findings with
  | nil => rfl
  | cons file rest ih =>
    rw [List.forall_mem_cons] at h
    rw [List.map_cons, lines, lines, fileLines_narrowed h.1, ih h.2]

/-- Files without chunks have no lines. -/
theorem lines_filter (o : Outline) (findings : Findings) :
    o.lines (findings.filter fun file => !file.2.isEmpty) = o.lines findings := by
  induction findings with
  | nil => rfl
  | cons file rest ih =>
    obtain ⟨path, chunks⟩ := file
    cases chunks with
    | nil =>
      rw [List.filter_cons_of_neg Bool.false_ne_true, ih, lines]
      change o.lines rest = (o.lines rest >>= fun more => .ok ([] ++ more))
      cases o.lines rest <;> rfl
    | cons c more => rw [List.filter_cons_of_pos rfl, lines, lines, ih]

/-- The lines with a query are those without one of the findings that it leaves. -/
theorem lines_some (h : ∀ file ∈ findings, ∀ c ∈ file.2, c.WellTyped) :
    (⟨some r, compress⟩ : Outline).lines findings
      = (⟨none, compress⟩ : Outline).lines (restrictedTo r findings) := by
  rw [restrictedTo, lines_filter, lines_narrowed h]

/-- What a query leaves is well typed. -/
theorem wellTyped_restrictedTo (h : ∀ file ∈ findings, ∀ c ∈ file.2, c.WellTyped) :
    ∀ file ∈ restrictedTo r findings, ∀ c ∈ file.2, c.WellTyped := by
  intro file hfile c hc
  obtain ⟨other, hother, rfl⟩ := List.mem_map.1 (List.mem_filter.1 hfile).1
  exact h other hother c (List.mem_filter.1 hc).1

/-- The empty expression finds something in every chunk. -/
theorem finds_empty {c : Chunk} (h : c.WellTyped) : finds .empty c = true := by
  obtain ⟨t, ht⟩ := Chunk.exists_string h.1
  have occurs : Regex.empty.occursIn t = true := by cases t <;> rfl
  rw [finds, ht, Chunk.textsOf, List.any_cons, occurs]
  rfl

/-- The lines with the empty expression are those without a query, since it finds everything. -/
theorem lines_restrictedTo_empty (o : Outline) (h : ∀ file ∈ findings, ∀ c ∈ file.2, c.WellTyped) :
    o.lines (restrictedTo .empty findings) = o.lines findings := by
  have narrow : ∀ file ∈ findings, narrowed .empty file = id file := fun file hfile =>
    Prod.ext rfl (List.filter_eq_self.2 fun c hc => finds_empty (h file hfile c hc))
  rw [restrictedTo, List.map_congr_left narrow, List.map_id, lines_filter]

/-- The findings that a query leaves. No query leaves them as they are. -/
def shown : Option Regex → Findings → Findings
  | none, findings => findings
  | some r, findings => restrictedTo r findings

/-! ## What the short form leaves -/

/-- What a line of an outline is for. -/
inductive Role where
  /-- The line before a header. -/
  | gap
  | header
  /-- The line behind a header. -/
  | opening
  | documentation
  | signature
  /-- The line for the rest of a content of several lines. -/
  | marker
deriving DecidableEq, Repr

/-- Does the short form have such lines? -/
def Role.isBrief : Role → Bool
  | .gap => true
  | .header => true
  | .opening => false
  | .documentation => false
  | .signature => true
  | .marker => false

/-- The lines of the content of a chunk. -/
def contentOf (c : Chunk) : List Text := (Chunk.textsOf c.content).flatMap (Text.split '\n')

/-- The lines of the documentation of a chunk. Empty documentation has none. -/
def docsOf (c : Chunk) : List Text :=
  ((Chunk.textsOf c.docs).filter fun t => !t.isEmpty).flatMap (Text.split '\n')

/-- The line that stands for a chunk: the first one of its content, indented by its depth. -/
def signature (c : Chunk) : Text := bar ++ indentation c.depth ++ (contentOf c).headD []

/-- The line that stands for a file. -/
def header (path : Text) : Text := path ++ ":"

/-- The lines of a chunk, each with its role. -/
def chunkParts (c : Chunk) : List (Role × Text) :=
  (docLines (indentation c.depth) (docsOf c)).map (Role.documentation, ·) ++ (Role.signature, signature c)
    :: if 1 < (contentOf c).length then [(Role.marker, bar ++ indentation c.depth ++ "...")] else []

/-- The lines of a file, each with its role. -/
def fileParts (file : Text × List Chunk) : List (Role × Text) :=
  if file.2.isEmpty then []
  else (.gap, []) :: (.header, header file.1) :: (.opening, bar ++ "...") :: file.2.flatMap chunkParts

/-- The lines of an outline, each with its role. -/
def parts (findings : Findings) : List (Role × Text) := findings.flatMap fileParts

/-- The parts of an outline are those of its files, in turn. -/
theorem parts_cons (file : Text × List Chunk) (rest : Findings) :
    parts (file :: rest) = fileParts file ++ parts rest := List.flatMap_cons

/-- Is a line in an outline of this form? -/
def isIn (compress : Bool) (part : Role × Text) : Bool := !compress || part.1.isBrief

/-- A well-typed content is cut into lines. -/
theorem linesOf_content {c : Chunk} (h : c.WellTyped) : linesOf c.content = .ok (contentOf c) := by
  obtain ⟨t, ht⟩ := Chunk.exists_string h.1
  rw [contentOf, ht, Chunk.textsOf, List.flatMap_singleton]
  rfl

/-- So are well-typed docs, if there are any. -/
theorem linesOf_docs {c : Chunk} (h : c.WellTyped) :
    (if c.docs.isBlank then .ok [] else linesOf c.docs) = .ok (docsOf c) := by
  rcases Chunk.string_or_null h.2.2.1 with ⟨t, ht⟩ | hnull
  · rw [docsOf, ht]
    cases t with
    | nil => rfl
    | cons d rest => simp [Json.isBlank, linesOf, Chunk.textsOf]
  · rw [docsOf, hnull]
    rfl

theorem filter_isIn_false (l : List (Role × Text)) : l.filter (isIn false) = l := List.filter_eq_self.2 fun _ _ => rfl

/-- The short form has one line for each chunk. -/
theorem filter_isIn_true_chunkParts (c : Chunk) :
    (chunkParts c).filter (isIn true) = [(.signature, signature c)] := by
  have docs : ∀ l : List Text, (l.map (Role.documentation, ·)).filter (isIn true) = [] := by
    intro l
    rw [List.filter_map]
    exact List.map_eq_nil_iff.2 (List.filter_eq_nil_iff.2 fun _ _ => Bool.false_ne_true)
  rw [chunkParts, List.filter_append, docs, List.nil_append, List.filter_cons_of_pos rfl]
  split <;> rfl

/-- The lines of a chunk: its docs, its signature, and dots if there is more of it. -/
theorem map_snd_chunkParts (c : Chunk) : (chunkParts c).map Prod.snd
    = docLines (indentation c.depth) (docsOf c)
      ++ signature c :: if 1 < (contentOf c).length then [bar ++ indentation c.depth ++ "..."] else [] := by
  have second : ∀ l : List Text, (l.map (Role.documentation, ·)).map Prod.snd = l := by
    intro l
    rw [List.map_map]
    exact List.map_id l
  rw [chunkParts, List.map_append, second, List.map_cons, apply_ite (List.map Prod.snd)]
  rfl

/-- The lines of a chunk are those of its parts that the form has. -/
theorem chunkLines_eq {c : Chunk} (h : c.WellTyped) :
    (⟨none, compress⟩ : Outline).chunkLines c = .ok (((chunkParts c).filter (isIn compress)).map Prod.snd) := by
  obtain ⟨lines, hlines⟩ := exists_chunkLines ⟨none, compress⟩ (canShow_of_wellTyped _ h)
  obtain ⟨content, docs, hcontent, hdocs, rfl⟩ := exists_of_chunkLines _ hlines
  obtain rfl := Except.ok.inj ((linesOf_content h).symm.trans hcontent)
  rw [hlines]
  cases compress with
  | true =>
    obtain rfl := Except.ok.inj hdocs
    rw [filter_isIn_true_chunkParts]
    rfl
  | false =>
    obtain rfl := Except.ok.inj ((linesOf_docs h).symm.trans hdocs)
    rw [filter_isIn_false, map_snd_chunkParts]
    simp only [Bool.not_false, Bool.true_and, decide_eq_true_eq]
    rfl

/-- The lines of chunks are those of their parts that are in the form. -/
theorem chunksLines_eq {chunks : List Chunk} (h : ∀ c ∈ chunks, c.WellTyped) :
    (⟨none, compress⟩ : Outline).chunksLines chunks
      = .ok (((chunks.flatMap chunkParts).filter (isIn compress)).map Prod.snd) := by
  induction chunks with
  | nil => rfl
  | cons c rest ih =>
    rw [List.forall_mem_cons] at h
    rw [chunksLines, chunkLines_eq h.1, ih h.2, List.flatMap_cons, List.filter_append, List.map_append]
    rfl

/-- So are the lines of a file. -/
theorem fileLines_eq {file : Text × List Chunk} (h : ∀ c ∈ file.2, c.WellTyped) :
    (⟨none, compress⟩ : Outline).fileLines file = .ok (((fileParts file).filter (isIn compress)).map Prod.snd) := by
  unfold fileLines fileParts
  rw [selected_none]
  dsimp only [bind, Except.bind]
  split
  · rfl
  · rw [chunksLines_eq h]
    cases compress <;> rfl

/-- The lines without a query are those of the parts that the form has. -/
theorem lines_eq (h : ∀ file ∈ findings, ∀ c ∈ file.2, c.WellTyped) :
    (⟨none, compress⟩ : Outline).lines findings = .ok (((parts findings).filter (isIn compress)).map Prod.snd) := by
  induction findings with
  | nil => rfl
  | cons file rest ih =>
    rw [List.forall_mem_cons] at h
    rw [lines, fileLines_eq h.1, ih h.2, parts_cons, List.filter_append, List.map_append]
    rfl

/-- The lines with a query are those of the parts of the findings that it leaves. -/
theorem lines_shown (query : Option Regex) (compress : Bool) (h : ∀ file ∈ findings, ∀ c ∈ file.2, c.WellTyped) :
    (⟨query, compress⟩ : Outline).lines findings
      = .ok (((parts (shown query findings)).filter (isIn compress)).map Prod.snd) := by
  cases query with
  | none => exact lines_eq h
  | some r =>
    rw [lines_some h]
    exact lines_eq (wellTyped_restrictedTo h)

/-! ## What both forms have -/

/-- What the short form has of a file is its header and one line for each chunk. -/
theorem filter_isIn_true_fileParts (file : Text × List Chunk) :
    (fileParts file).filter (isIn true) = if file.2.isEmpty then []
      else (.gap, []) :: (.header, header file.1) :: file.2.map fun c => (Role.signature, signature c) := by
  have chunks : (file.2.flatMap chunkParts).filter (isIn true) = file.2.map fun c => (Role.signature, signature c) := by
    simp only [List.filter_flatMap, filter_isIn_true_chunkParts, List.map_eq_flatMap]
  rw [fileParts]
  split
  · rfl
  · rw [← chunks]
    rfl

/-- Lines of a role that the short form has are the same in both forms. -/
theorem filter_role {role : Role} (hrole : role.isBrief = true) (compress : Bool) (l : List (Role × Text)) :
    (l.filter (isIn compress)).filter (fun part => part.1 = role)
      = (l.filter (isIn true)).filter fun part => part.1 = role := by
  rw [List.filter_filter, List.filter_filter]
  refine List.filter_congr fun part _ => ?_
  by_cases heq : part.1 = role <;> simp [isIn, heq, hrole]

/-- Both forms have a header for each file with chunks. -/
theorem headers_eq (compress : Bool) (findings : Findings) :
    (((parts findings).filter (isIn compress)).filter fun part => part.1 = .header).map Prod.snd
      = (findings.filter fun file => !file.2.isEmpty).map fun file => header file.1 := by
  rw [filter_role rfl]
  induction findings with
  | nil => rfl
  | cons file rest ih =>
    rw [parts_cons, List.filter_append, List.filter_append, List.map_append, ih, filter_isIn_true_fileParts,
      List.filter_cons]
    cases hempty : file.2.isEmpty <;> simp

/-- Both forms have a line for each chunk. -/
theorem signatures_eq (compress : Bool) (findings : Findings) :
    (((parts findings).filter (isIn compress)).filter fun part => part.1 = .signature).map Prod.snd
      = (findings.flatMap Prod.snd).map signature := by
  have each : ∀ chunks : List Chunk, ((chunks.map fun c => (Role.signature, signature c)).filter
      fun part => part.1 = .signature).map Prod.snd = chunks.map signature := by
    intro chunks
    rw [List.filter_eq_self.2, List.map_map]
    · rfl
    · simp
  rw [filter_role rfl]
  induction findings with
  | nil => rfl
  | cons file rest ih =>
    rw [parts_cons, List.filter_append, List.filter_append, List.map_append, ih, filter_isIn_true_fileParts,
      List.flatMap_cons, List.map_append, ← each file.2]
    congr 1
    cases file.2 <;> rfl

/-! ## Both together -/

/-- A query takes away what it does not find, the short form takes away lines of three roles, and nothing else changes.
The outline with a query is the one without of the findings that the query leaves. The lines of the full form are those
of the parts of these findings, and those of the short form are what is left of them without the lines behind headers,
the documentation and the markers. Both forms have the header of each file with chunks and the signature of each chunk,
in their order. -/
theorem render_only_removes (h : ∀ file ∈ findings, ∀ c ∈ file.2, c.WellTyped) :
    (∀ q ignoreCase compress o, ofQuery (some q) ignoreCase compress = .ok o →
      ∃ r, Regex.read ignoreCase q = .ok r
        ∧ o.render findings = (⟨none, compress⟩ : Outline).render (restrictedTo r findings))
    ∧ ∀ query, (⟨query, false⟩ : Outline).lines findings = .ok ((parts (shown query findings)).map Prod.snd)
      ∧ (⟨query, true⟩ : Outline).lines findings
        = .ok (((parts (shown query findings)).filter fun part => part.1.isBrief).map Prod.snd)
      ∧ ∀ compress, (((parts (shown query findings)).filter (isIn compress)).filter fun part =>
            part.1 = .header).map Prod.snd
          = ((shown query findings).filter fun file => !file.2.isEmpty).map (fun file => header file.1)
        ∧ (((parts (shown query findings)).filter (isIn compress)).filter fun part =>
            part.1 = .signature).map Prod.snd
          = ((shown query findings).flatMap Prod.snd).map signature := by
  constructor
  · intro q ignoreCase compress o ho
    unfold ofQuery at ho
    dsimp only at ho
    split at ho
    · next hempty =>
      obtain rfl := Except.ok.inj ho
      obtain rfl := List.isEmpty_iff.1 hempty
      refine ⟨.empty, by cases ignoreCase <;> rfl, ?_⟩
      rw [render, render, lines_restrictedTo_empty _ h]
    · obtain ⟨r, hr, rfl⟩ := map_eq_ok_iff.1 ho
      refine ⟨r, hr, ?_⟩
      rw [render, render, lines_some h]
  · intro query
    have each := fun compress => lines_shown query compress h
    refine ⟨?_, each true, fun compress => ⟨headers_eq compress _, signatures_eq compress _⟩⟩
    rw [each false, filter_isIn_false]

/-! ### An example -/

/-- A file with a documented class, a method in it and a function, a file in which nothing runs, and one without
chunks. -/
def runFindings : Findings :=
  [("a.py", [.ofEntity "class A:\n  def run(self): pass" "class" (some "Runs.\n\nTwice.") [],
      .ofEntity "def run(self): pass" "method" none ["A"], .ofEntity "def f(): pass" "function" (some "") []]),
    ("b.py", [.ofEntity "def g(): pass" "function" (some "Nothing.") []]), ("c.py", [])]

/-- The expression that a query for runs spells, where case does not matter. -/
def runs : Regex := Regex.sequence (("RUN" : Text).map fun c => .char c .unicode)

/-- The query leaves two chunks of one file. In the short form there is one line for each. -/
theorem render_only_removes_on_runFindings : ofQuery (some "RUN") true true = .ok ⟨some runs, true⟩
    ∧ (⟨some runs, true⟩ : Outline).render runFindings
      = (⟨none, true⟩ : Outline).render (restrictedTo runs runFindings)
    ∧ (⟨some runs, false⟩ : Outline).lines runFindings = .ok ["", "a.py:", "|...", "|Runs.", "|", "|Twice.",
      "|class A:", "|...", "|  def run(self): pass"]
    ∧ (⟨some runs, true⟩ : Outline).lines runFindings = .ok ["", "a.py:", "|class A:", "|  def run(self): pass"] := by
  have typed : ∀ file ∈ runFindings, ∀ c ∈ file.2, c.WellTyped := by decide +kernel
  have read : (Regex.read true "RUN").toOption.any (fun r => r = runs) = true := by decide +kernel
  have read : Regex.read true "RUN" = .ok runs := eq_ok_of_any read
  have asked : ofQuery (some "RUN") true true = .ok ⟨some runs, true⟩ := by
    rw [ofQuery, read]
    rfl
  have full : (parts (shown (some runs) runFindings)).map Prod.snd
      = (["", "a.py:", "|...", "|Runs.", "|", "|Twice.", "|class A:", "|...", "|  def run(self): pass"] :
        List Text) := by decide +kernel
  have short : ((parts (shown (some runs) runFindings)).filter fun part => part.1.isBrief).map Prod.snd
      = (["", "a.py:", "|class A:", "|  def run(self): pass"] : List Text) := by decide +kernel
  obtain ⟨hquery, hforms⟩ := render_only_removes typed
  obtain ⟨r, hr, hrender⟩ := hquery "RUN" true true _ asked
  obtain rfl := Except.ok.inj (read.symm.trans hr)
  obtain ⟨hfull, hshort, -⟩ := hforms (some runs)
  exact ⟨asked, hrender, hfull.trans (congrArg Except.ok full), hshort.trans (congrArg Except.ok short)⟩

end SourceAtlas.Outline
