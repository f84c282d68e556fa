import Mathlib.Order.Fin.Basic
import SourceAtlas.Proofs.Entity.Nesting
import SourceAtlas.Proofs.Outline.Indentation
import SourceAtlas.Proofs.Path
import SourceAtlas.Proofs.Source.Rows

/-!
Signatures and source lines. A source ends its lines with line feeds, carriage returns or both, and an outline cuts
texts at line feeds alone. So the signature of an entity is its text up to the first line feed, and the marker tells of
a line feed in it. That is the first line of the entity, and tells of further ones, exactly if no carriage return
stands before the first line feed.

Main statement: `extract_shownByLines_iff`.
-/

namespace SourceAtlas

open Source

/-! ## First lines -/

namespace Text

variable {separator : CodePoint} {t : Text}

/-- The first piece of a text goes up to the first separator. -/
theorem headD_split (separator : CodePoint) (t : Text) :
    (split separator t).headD [] = t.takeWhile (· ≠ separator) := by
  induction t with
  | nil => rfl
  | cons c cs ih =>
    by_cases hc : c = separator
    · simp [split, hc]
    · have goesOn : (c :: cs).takeWhile (· ≠ separator) = c :: cs.takeWhile (· ≠ separator) :=
        List.takeWhile_cons_of_pos (decide_eq_true hc)
      rw [goesOn, ← ih, split, if_neg hc]
      cases hs : split separator cs with
      | nil => exact absurd hs (split_ne_nil separator cs)
      | cons piece pieces => rfl

/-- A text has several pieces exactly if there is a separator in it. -/
theorem one_lt_length_split_iff : 1 < (split separator t).length ↔ separator ∈ t := by
  by_cases h : separator ∈ t
  · obtain ⟨front, back, rfl⟩ := List.append_of_mem h
    have hfront := List.length_pos_of_ne_nil (split_ne_nil separator front)
    have hback := List.length_pos_of_ne_nil (split_ne_nil separator back)
    refine iff_of_true ?_ h
    rw [split_append, List.length_append]
    omega
  · rw [split_of_not_mem h]
    exact iff_of_false (Nat.lt_irrefl 1) h

/-- The text up to its first line feed. -/
def upToFeed (t : Text) : Text := t.takeWhile (· ≠ '\n')

/-- The first line of a source text, without the line feed, the carriage return or both that end it. -/
def firstLine (t : Text) : Text := t.takeWhile fun c => c ≠ '\n' ∧ c ≠ '\r'

/-- Up to the first line feed there is none. -/
theorem feed_not_mem_upToFeed (t : Text) : ('\n' : CodePoint) ∉ upToFeed t := fun h => by
  simpa using List.mem_takeWhile_imp h

/-- That is the first line just if no carriage return is in it. -/
theorem upToFeed_eq_firstLine_iff : upToFeed t = firstLine t ↔ ('\r' : CodePoint) ∉ upToFeed t := by
  constructor
  · intro h hreturn
    rw [h] at hreturn
    simpa using List.mem_takeWhile_imp hreturn
  · intro h
    have whole : (upToFeed t).takeWhile (· ≠ ('\r' : CodePoint)) = upToFeed t :=
      List.takeWhile_eq_self_iff.2 fun c hc => decide_eq_true (ne_of_mem_of_not_mem hc h)
    rw [← whole, upToFeed, List.takeWhile_takeWhile, firstLine]
    simp [and_comm]

/-- Where no carriage return stands before the first line feed, there is no line end but with a line feed. -/
theorem feed_mem_of_lineEnd (h : ('\r' : CodePoint) ∉ upToFeed t)
    (hend : ('\r' : CodePoint) ∈ t ∨ ('\n' : CodePoint) ∈ t) : ('\n' : CodePoint) ∈ t := by
  refine hend.elim (fun hreturn => ?_) id
  by_contra hfeed
  have whole : upToFeed t = t :=
    List.takeWhile_eq_self_iff.2 fun c hc => decide_eq_true (ne_of_mem_of_not_mem hc hfeed)
  rw [whole] at h
  exact h hreturn

end Text

/-! ## Lines of entities -/

namespace Outline

open Text

/-- What the line of an entity begins with: the bar, and two blanks for each entity around it. -/
def lead (e : Entity) : Text := bar ++ indentation e.parents.length

/-- An entity is shown by the lines of its source. In the short form there is the first one of them, without its line
end, and in the full form a marker behind it exactly if there are further ones. -/
structure IsShownByLines (source : Text) (e : Entity) : Prop where
  brief : ∀ query, (⟨query, true⟩ : Outline).chunkLines (e.toChunk source)
    = .ok [lead e ++ firstLine (slice source e.span)]
  full : ∀ query, (⟨query, false⟩ : Outline).chunkLines (e.toChunk source)
    = .ok (docLines (indentation e.parents.length) (docsOf (e.toChunk source))
      ++ (lead e ++ firstLine (slice source e.span)) :: if SpansRows source e.span then [lead e ++ "..."] else [])

section

variable (source : Text) (e : Entity)

/-- The chunk of an entity is well typed. -/
theorem wellTyped_toChunk : (e.toChunk source).WellTyped := Chunk.wellTyped_ofEntity _ _ _ _

theorem depth_toChunk : (e.toChunk source).depth = e.parents.length := List.length_map _

/-- Its content is cut at line feeds alone. -/
theorem contentOf_toChunk : contentOf (e.toChunk source) = split '\n' (slice source e.span) :=
  List.flatMap_singleton _ _

/-- The signature of an entity is its text up to the first line feed. -/
theorem signature_toChunk : signature (e.toChunk source) = lead e ++ upToFeed (slice source e.span) := by
  rw [signature, depth_toChunk, contentOf_toChunk, headD_split]
  rfl

/-- In short form an entity has one line, up to the first line feed of its content. -/
theorem chunkLines_brief (query : Option Regex) : (⟨query, true⟩ : Outline).chunkLines (e.toChunk source)
    = .ok [lead e ++ upToFeed (slice source e.span)] := by
  rw [chunkLines_of_wellTyped _ (wellTyped_toChunk source e), signature_toChunk]
  rfl

/-- The marker of an entity tells of a line feed in its text. -/
theorem chunkLines_full (query : Option Regex) : (⟨query, false⟩ : Outline).chunkLines (e.toChunk source)
    = .ok (docLines (indentation e.parents.length) (docsOf (e.toChunk source))
      ++ (lead e ++ upToFeed (slice source e.span))
        :: if ('\n' : CodePoint) ∈ slice source e.span then [lead e ++ "..."] else []) := by
  have marker : markerIn false (e.toChunk source)
      = if ('\n' : CodePoint) ∈ slice source e.span then [lead e ++ "..."] else [] := by
    rw [markerIn, depth_toChunk, contentOf_toChunk]
    simp only [Bool.not_false, Bool.true_and, decide_eq_true_eq, one_lt_length_split_iff]
    rfl
  rw [chunkLines_of_wellTyped _ (wellTyped_toChunk source e), signature_toChunk, depth_toChunk, marker]
  rfl

/-- In front of it there is nothing but the bar and blanks. -/
theorem not_mem_lead {c : CodePoint} (hbar : c ≠ '|') (hblank : c ≠ ' ') : c ∉ lead e := by
  rw [lead, indentation_eq]
  rintro (_ | ⟨_, hmem⟩)
  · exact hbar rfl
  · exact hblank (List.eq_of_mem_replicate hmem)

end

variable {source : Text} {e : Entity}

/-- An entity is shown by its lines if no carriage return stands before the first line feed in its text. -/
theorem isShownByLines_iff (hspan : e.span.start ≤ e.span.stop) :
    IsShownByLines source e ↔ ('\r' : CodePoint) ∉ upToFeed (slice source e.span) := by
  rw [← upToFeed_eq_firstLine_iff]
  constructor
  · intro h
    have heq := (chunkLines_brief source e none).symm.trans (h.brief none)
    exact List.append_cancel_left (List.singleton_inj.1 (Except.ok.inj heq))
  · intro h
    have rows : SpansRows source e.span ↔ ('\n' : CodePoint) ∈ slice source e.span := by
      rw [spansRows_iff hspan]
      exact ⟨feed_mem_of_lineEnd (upToFeed_eq_firstLine_iff.1 h), .inr⟩
    constructor
    · intro query
      rw [chunkLines_brief, h]
    · intro query
      rw [chunkLines_full, h]
      simp only [rows]

/-! ## All entities of a source -/

/-- The short form of a file has one line for each chunk, with its text up to the first line feed. The full form has a
marker exactly for those with a line feed in their text, and the chunks that go over several rows are those with a
carriage return or a line feed in it. So a chunk is shown by the lines of its source exactly if there is no carriage
return in its line of the short form, in which there never is a line feed; in a source without carriage returns all of
them are. -/
theorem extract_shownByLines_iff (policy : Policy) (path : Path) (source : Text) :
    extract policy path source = (located policy path source).map (fun x => x.2.toChunk source)
    ∧ (∀ name, (⟨none, true⟩ : Outline).fileLines (name, extract policy path source)
      = .ok (if (extract policy path source).isEmpty then [] else [] :: header name
        :: (located policy path source).map fun x => lead x.2 ++ upToFeed (slice source x.2.span)))
    ∧ (∀ x ∈ located policy path source,
      (∀ query, (⟨query, false⟩ : Outline).chunkLines (x.2.toChunk source)
        = .ok (docLines (indentation x.2.parents.length) (docsOf (x.2.toChunk source))
          ++ (lead x.2 ++ upToFeed (slice source x.2.span))
            :: if ('\n' : CodePoint) ∈ slice source x.2.span then [lead x.2 ++ "..."] else []))
      ∧ (SpansRows source x.2.span
        ↔ ('\r' : CodePoint) ∈ slice source x.2.span ∨ ('\n' : CodePoint) ∈ slice source x.2.span)
      ∧ ('\n' : CodePoint) ∉ lead x.2 ++ upToFeed (slice source x.2.span)
      ∧ (IsShownByLines source x.2 ↔ ('\r' : CodePoint) ∉ lead x.2 ++ upToFeed (slice source x.2.span)))
    ∧ (('\r' : CodePoint) ∉ source → ∀ x ∈ located policy path source, IsShownByLines source x.2) := by
  have ordered : ∀ x ∈ located policy path source, x.2.span.start ≤ x.2.span.stop := fun x hx =>
    (Entity.start_lt_stop_of_at? (lies_treeOf source) (at?_of_mem hx)).le
  refine ⟨extract_eq_map_located policy path source, ?_, ?_, ?_⟩
  · intro name
    have typed : ∀ c ∈ extract policy path source, c.WellTyped := fun c hc => wellTyped_of_mem_extract hc
    rw [fileLines_eq typed, filter_isIn_true_fileParts, apply_ite (List.map Prod.snd)]
    rw [extract_eq_map_located, List.map_map, List.map_cons, List.map_cons, List.map_map]
    simp only [Function.comp_def, signature_toChunk, List.map_nil]
  · intro x hx
    refine ⟨chunkLines_full source x.2, spansRows_iff (ordered x hx), ?_, ?_⟩
    · exact List.not_mem_append (not_mem_lead x.2 (by decide) (by decide)) (feed_not_mem_upToFeed _)
    · rw [isShownByLines_iff (ordered x hx), List.mem_append, or_iff_right (not_mem_lead x.2 (by decide) (by decide))]
  · intro hsource x hx
    refine (isShownByLines_iff (ordered x hx)).2 fun hreturn => hsource ?_
    exact slice_subset source x.2.span ((List.takeWhile_subset _) hreturn)

/-! ### An example -/

/-- Three functions. A carriage return ends lines of the first two, with a line feed behind it and alone. -/
def mixedSource : Text := "def f():\r\n    pass\ndef g():\r    pass\ndef h():\n    pass\n"

/-- A function of a stretch, without documentation and at the top. -/
def functionAt (start stop : Nat) : Entity := ⟨.function, ⟨start, stop⟩, none, []⟩

/-- The short form has a carriage return in the first signature and all of the second function in one line, which the
full form does not mark. Only the third function is shown by its lines. -/
theorem extract_shownByLines_iff_on_mixedSource :
    (located .excludeImports (Path.ofText "a.py") mixedSource).map Prod.snd
      = [functionAt 0 17, functionAt 18 35, functionAt 36 53]
    ∧ (⟨none, true⟩ : Outline).fileLines ("a.py", extract .excludeImports (Path.ofText "a.py") mixedSource)
      = .ok ["", "a.py:", "|def f():\r", "|def g():\r    pass", "|def h():"]
    ∧ (⟨none, false⟩ : Outline).chunkLines ((functionAt 18 35).toChunk mixedSource) = .ok ["|def g():\r    pass"]
    ∧ SpansRows mixedSource ⟨18, 35⟩
    ∧ ¬ IsShownByLines mixedSource (functionAt 0 17) ∧ ¬ IsShownByLines mixedSource (functionAt 18 35)
    ∧ IsShownByLines mixedSource (functionAt 36 53) := by
  have places : (located .excludeImports (Path.ofText "a.py") mixedSource).map Prod.snd
      = [functionAt 0 17, functionAt 18 35, functionAt 36 53] := by decide +kernel
  have brief : (if (extract .excludeImports (Path.ofText "a.py") mixedSource).isEmpty then []
      else [] :: header "a.py" :: (located .excludeImports (Path.ofText "a.py") mixedSource).map fun x =>
        lead x.2 ++ upToFeed (slice mixedSource x.2.span))
      = (["", "a.py:", "|def f():\r", "|def g():\r    pass", "|def h():"] : List Text) := by decide +kernel
  obtain ⟨-, hbrief, hshown, -⟩ := extract_shownByLines_iff .excludeImports (Path.ofText "a.py") mixedSource
  have each : ∀ e ∈ (located .excludeImports (Path.ofText "a.py") mixedSource).map Prod.snd,
      (IsShownByLines mixedSource e ↔ ('\r' : CodePoint) ∉ lead e ++ upToFeed (slice mixedSource e.span)) :=
    List.forall_mem_map.2 fun x hx => (hshown x hx).2.2.2
  rw [places] at each
  simp only [List.forall_mem_cons] at each
  obtain ⟨hf, hg, hh, -⟩ := each
  refine ⟨places, (hbrief "a.py").trans (congrArg Except.ok brief), ?_, by decide, ?_, ?_, ?_⟩
  · rfl
  · exact fun h => hf.1 h (by decide)
  · exact fun h => hg.1 h (by decide)
  · exact hh.2 (by decide)

end Outline

end SourceAtlas
