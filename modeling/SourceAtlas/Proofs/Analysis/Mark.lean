import SourceAtlas.Proofs.Analysis.Clearing
import SourceAtlas.Proofs.Analysis.Completion
import SourceAtlas.Proofs.Analysis.Idempotence

/-!
Byte order marks. A mark before the bytes of a file is decoded to a character of its own before their text, and a text
that begins with this character is no source. So a file has no chunks once a mark is put before what it holds, whatever
that is, and the findings for the other files stay as they are.

Main statement: `run_of_marked`.
-/

namespace SourceAtlas

/-! ## Sources with a mark -/

/-- The bytes of a byte order mark. -/
def Utf8.mark : Bytes := [0xEF, 0xBB, 0xBF]

/-- A mark is decoded by itself, so that it changes nothing of the text behind it. -/
theorem Utf8.decode_mark_append (b : Bytes) : decode (mark ++ b) = ('\uFEFF' : CodePoint) :: decode b := rfl

theorem Source.parse?_mark (t : Text) : parse? (('\uFEFF' : CodePoint) :: t) = none := by
  rw [parse?, isReadable, if_neg]
  simp

/-- Whatever is behind a mark, nothing is extracted from it. -/
theorem extract_mark_append (policy : Policy) (path : Path) (b : Bytes) :
    extract policy path (Utf8.decode (Utf8.mark ++ b)) = [] := by
  rw [Utf8.decode_mark_append]
  exact extract_of_rejected (.inr (Source.parse?_mark _)) policy

/-- The chunks that findings have for a file; a file that is left out has none. -/
def Findings.chunksAt (findings : Findings) (shown : Text) : List Chunk := (Association.find? shown findings).getD []

namespace Analysis

open Findings (chunksAt)

/-! ## Runs over files that are not in the store -/

/-- A run begins afresh: its files can be read, no two of them share a key or the path that they are shown by, and none
of them is in the store. -/
structure BeginsAfresh (disk : Disk) (root real : Path) (paths : List Path) (s : Store) : Prop where
  resolved : Disk.resolve disk root = .ok real
  readable : ∀ t ∈ targets real paths, t.IsReadable (Disk.read disk)
  keys : ((targets real paths).map fun t => Store.storageKey t.key).Nodup
  shown : ((targets real paths).map fun t => t.shown.toText).Nodup
  missing : ∀ t ∈ targets real paths, s.row? (Store.storageKey t.key) = none

section

variable {plain marked disk : Disk} {root real : Path} {paths : List Path} {s s' : Store} {size : Int}

/-- A run that begins afresh is completed, and finds for each file what is extracted from its bytes. -/
theorem BeginsAfresh.exists_result (h : BeginsAfresh disk root real paths s) (policy : Policy) (hsize : 1 ≤ size) :
    ∃ findings counts, (run disk policy size root paths s).result = .ok (findings, counts)
      ∧ ∀ t ∈ targets real paths, ∀ bytes, Disk.read disk t.path = .ok bytes →
        chunksAt findings t.shown.toText = extract policy t.shown (Utf8.decode bytes) := by
  obtain ⟨visits, _, hfresh, -, hvisits⟩ := visitAll_of_missing policy h.readable h.keys
  have result : (run disk policy size root paths s).result = .ok (collect visits, statistics paths.length visits) := by
    rw [run, if_neg (by omega), h.resolved, ← (hvisits s h.missing).1]
    exact congrArg Outcome.result (runFrom_eq_one_by_one (by omega) h.readable s)
  have shown : visits.map Visit.shown = (targets real paths).map fun t => t.shown.toText := by
    rw [← List.forall₂_eq_eq_eq, List.forall₂_map_left_iff, List.forall₂_map_right_iff]
    refine hfresh.flip.imp fun v t hv => ?_
    obtain ⟨_, _, -, rfl⟩ := hv
    rfl
  refine ⟨_, _, result, fun t ht bytes hbytes => ?_⟩
  obtain ⟨v, hv, source, fingerprint, hcontent, rfl⟩ := exists_mem_of_mem_forall₂ hfresh.flip ht
  obtain ⟨-, ⟨_, hread, rfl⟩, -⟩ := content_eq_ok_iff.1 hcontent
  obtain rfl := Except.ok.inj (hbytes.symm.trans hread)
  exact find?_foldl_of_mem (shown ▸ h.shown) hv rfl

/-! ## Two runs -/

/-- Two runs over files that begin afresh are completed. If a file holds some bytes for one run and a mark before them
for the other, the first finds for it what is extracted from their text, and the second finds nothing. So both find the
same exactly if there is nothing to be extracted, and they find the same for each other file that holds the same. -/
theorem run_of_marked (hplain : BeginsAfresh plain root real paths s) (hmarked : BeginsAfresh marked root real paths s')
    (policy : Policy) (hsize : 1 ≤ size) {t : Target} (ht : t ∈ targets real paths) {b : Bytes}
    (hb : Disk.read plain t.path = .ok b) (hmark : Disk.read marked t.path = .ok (Utf8.mark ++ b)) :
    ∃ findings counts found numbers, (run plain policy size root paths s).result = .ok (findings, counts)
      ∧ (run marked policy size root paths s').result = .ok (found, numbers)
      ∧ chunksAt findings t.shown.toText = extract policy t.shown (Utf8.decode b)
      ∧ chunksAt found t.shown.toText = []
      ∧ (chunksAt found t.shown.toText = chunksAt findings t.shown.toText
        ↔ extract policy t.shown (Utf8.decode b) = [])
      ∧ ∀ u ∈ targets real paths, Disk.read marked u.path = Disk.read plain u.path →
        chunksAt found u.shown.toText = chunksAt findings u.shown.toText := by
  obtain ⟨findings, counts, hresult, hfindings⟩ := hplain.exists_result policy hsize
  obtain ⟨found, numbers, hresult', hfound⟩ := hmarked.exists_result policy hsize
  have without := hfindings t ht b hb
  have behind : chunksAt found t.shown.toText = [] :=
    (hfound t ht _ hmark).trans (extract_mark_append policy t.shown b)
  refine ⟨findings, counts, found, numbers, hresult, hresult', without, behind, ?_, fun u hu hsame => ?_⟩
  · rw [behind, without]
    exact eq_comm
  · obtain ⟨-, bytes, hbytes⟩ := hplain.readable u hu
    rw [hfindings u hu bytes hbytes, hfound u hu bytes (hsame.trans hbytes)]

end

/-! ### An example -/

/-- Two files with a function each, the first of them behind some bytes. -/
@[irreducible] def markTree (before : Bytes) : Disk :=
  .directory [("t", .directory [("x.py", .file (before ++ ("def f(): pass\n" : Text).map fun c => UInt8.ofNat c.val)),
    ("y.py", .file (("def g(): pass\n" : Text).map fun c => UInt8.ofNat c.val))])]

/-- The files of the tree. -/
def markTargets : List Target := targets (.ofText "/t") [.ofText "x.py", .ofText "y.py"]

/-- The function of the first file is lost behind a mark. The other function is still found. -/
theorem run_of_marked_on_markTree :
    let analysed := fun before => (run (markTree before) .excludeImports standardSize (.ofText "/t")
      [.ofText "x.py", .ofText "y.py"] .empty).result
    BeginsAfresh (markTree []) (.ofText "/t") (.ofText "/t") [.ofText "x.py", .ofText "y.py"] .empty
    ∧ BeginsAfresh (markTree Utf8.mark) (.ofText "/t") (.ofText "/t") [.ofText "x.py", .ofText "y.py"] .empty
    ∧ ∃ findings counts found numbers, analysed [] = .ok (findings, counts)
      ∧ analysed Utf8.mark = .ok (found, numbers)
      ∧ (chunksAt findings "x.py").length = 1 ∧ chunksAt found "x.py" = []
      ∧ (chunksAt findings "y.py").length = 1 ∧ chunksAt found "y.py" = chunksAt findings "y.py" := by
  intro analysed
  have afresh : ∀ before ∈ [[], Utf8.mark],
      BeginsAfresh (markTree before) (.ofText "/t") (.ofText "/t") [.ofText "x.py", .ofText "y.py"] .empty := by
    intro before hbefore
    have resolved : ∀ before ∈ [[], Utf8.mark], (Disk.resolve (markTree before) (.ofText "/t")).toOption.any
        (fun p => p = .ofText "/t") = true := by decide +kernel
    have bytes : ∀ before ∈ [[], Utf8.mark], ∀ t ∈ markTargets, t.path.isSound = true
        ∧ (Disk.read (markTree before) t.path).toOption.any (fun _ => true) = true := by decide +kernel
    refine ⟨eq_ok_of_any (resolved before hbefore), fun t ht => ?_, by decide +kernel, by decide +kernel,
      fun _ _ => rfl⟩
    obtain ⟨hsound, hany⟩ := bytes before hbefore t ht
    obtain ⟨content, hcontent, -⟩ := exists_eq_ok_of_any hany
    exact ⟨hsound, content, hcontent⟩
  have plain := afresh [] (by decide)
  have marked := afresh Utf8.mark (by decide)
  let source : Bytes := ("def f(): pass\n" : Text).map fun c => UInt8.ofNat c.val
  let t : Target := ⟨.ofText "/t/x.py", .ofText "x.py"⟩
  let u : Target := ⟨.ofText "/t/y.py", .ofText "y.py"⟩
  have ht : t ∈ markTargets := by decide
  have hu : u ∈ markTargets := by decide
  have first : Disk.read (markTree []) t.path = .ok source := eq_ok_of_any (by decide +kernel)
  have behind : Disk.read (markTree Utf8.mark) t.path = .ok (Utf8.mark ++ source) := eq_ok_of_any (by decide +kernel)
  have second : Disk.read (markTree Utf8.mark) u.path = Disk.read (markTree []) u.path := by decide +kernel
  have one : (extract .excludeImports t.shown (Utf8.decode source)).length = 1 := by decide +kernel
  have other : (analysed []).toOption.any (fun r => (chunksAt r.1 "y.py").length == 1) = true := by decide +kernel
  obtain ⟨findings, counts, found, numbers, hfindings, hfound, hx, hnone, -, hothers⟩ :=
    run_of_marked plain marked .excludeImports (by decide : 1 ≤ standardSize) ht first behind
  obtain ⟨_, hagain, hy⟩ := exists_eq_ok_of_any other
  obtain rfl := Except.ok.inj (hfindings.symm.trans hagain)
  refine ⟨plain, marked, findings, counts, found, numbers, hfindings, hfound, ?_, hnone, beq_iff_eq.1 hy,
    hothers u hu second⟩
  exact (congrArg List.length hx).trans one

end Analysis

end SourceAtlas
